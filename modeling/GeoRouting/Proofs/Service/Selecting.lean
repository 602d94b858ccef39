import GeoRouting.Proofs.Row.Sorting
import GeoRouting.Proofs.Service.ListingItems

/-!
# Narrower queries of geo services

A narrower query leaves out rows before they are grouped. The record sets that it gives are those
that the full listing gives, less the ones not asked for, exactly when the runs it keeps stay
apart and their groups still hold the same countries.
-/

namespace GeoRouting

namespace ServiceFilter

/-- Whether a filter keeps what has a name, a type and a group. -/
def keeps (f : ServiceFilter) (name type : String) (group : Option String) : Bool :=
  (f.name.all fun n => DomainName.same name n) && (f.type.all fun t => t == type) &&
    f.group.all fun g => group == some g

def keepsRow (f : ServiceFilter) (r : Row) : Bool := f.keeps r.name r.type r.groupName?

def keepsSet (f : ServiceFilter) (r : RoutedRecordSet) : Bool :=
  f.keeps r.name r.type (r.geo?.map GeoRoute.group)

variable {f : ServiceFilter}

theorem keeps_of_lower {a b : String} (h : Text.lower a = Text.lower b) (type : String)
    (group : Option String) : f.keeps a type group = f.keeps b type group := by
  have hsame : ∀ name, DomainName.same a name = DomainName.same b name := by
    intro name
    rw [DomainName.same, DomainName.same, DomainName.key_of_lower h]
  unfold keeps
  simp only [hsame]

theorem keepsRow_of_agrees {r s : Row} (h : r.agrees s = true) : f.keepsRow r = f.keepsRow s := by
  obtain ⟨ht, -, hn, hg⟩ := Row.fields_of_agrees h
  rw [keepsRow, keepsRow, ht, hg, keeps_of_lower hn]

theorem keepsSet_of_makes {provider : String}
    {territories : String → Except GeoError (List String)} {run : List Row} {r : RoutedRecordSet}
    (h : Run.Makes provider territories run r) : run.head?.any f.keepsRow = f.keepsSet r := by
  obtain ⟨first, others, rfl, -, -⟩ := id h
  have hc := h.covers List.mem_cons_self
  rw [List.head?_cons, Option.any_some, keepsRow, keepsSet, hc.type, hc.group,
    keeps_of_lower hc.name]

end ServiceFilter

namespace GeoService

theorem keepsRow_of_mem_nodeRows {f : ServiceFilter} {s : GeoService} {g : RegionGroup}
    {r : ServiceRecords} {n : Node} {row : Row}
    (h : row ∈ nodeRows ⟨s.groupId g, g.name⟩ r n) :
    f.keepsRow row =
      ((f.name.all fun name => DomainName.same n.fqdn name) && f.keepsRecords r &&
        f.keepsGroup g) := by
  obtain ⟨hname, htype, hgroup⟩ := fields_of_mem_nodeRows h
  have hgroupName : row.groupName? = some g.name := by
    rw [Row.groupName?, hgroup]
    rfl
  have hcomm : ∀ name : String, (some g.name == some name) = (name == g.name) := by
    intro name
    rw [Bool.eq_iff_iff, beq_iff_eq, beq_iff_eq, Option.some.injEq, eq_comm]
  rw [ServiceFilter.keepsRow, hname, htype, hgroupName]
  unfold ServiceFilter.keeps ServiceFilter.keepsRecords ServiceFilter.keepsGroup
  simp only [hcomm]

theorem filter_nodes (f : ServiceFilter) (zone : String) (nodes : List Node) :
    nodes.filter (f.keepsNode zone) =
      (nodes.filter (ServiceFilter.keepsNode {} zone)).filter fun n =>
        f.name.all fun name => DomainName.same n.fqdn name := by
  rw [List.filter_filter]
  congr 1
  funext n
  unfold ServiceFilter.keepsNode
  rw [Option.all_none, Bool.and_true, Bool.and_comm]

/-- A filter keeps the rows that it would keep of all rows. -/
theorem filter_rows (f : ServiceFilter) (zone : String) (s : GeoService) :
    (s.rows {} zone).filter f.keepsRow = s.rows f zone := by
  have hgroups : s.groups.filter (ServiceFilter.keepsGroup {}) = s.groups :=
    List.filter_eq_self.mpr fun _ _ => rfl
  have hrecords : ∀ g : RegionGroup, g.records.filter (ServiceFilter.keepsRecords {}) = g.records :=
    fun g => List.filter_eq_self.mpr fun _ _ => rfl
  unfold rows
  dsimp only
  rw [hgroups]
  apply filter_flatMap_of_parts
  · intro g _ hg
    rw [hrecords]
    apply filter_flatMap_of_parts
    · intro r _ hr
      rw [filter_nodes f]
      apply filter_flatMap_of_parts
      · intro n _ hn
        apply List.filter_eq_self.mpr
        intro row hrow
        rw [keepsRow_of_mem_nodeRows hrow, hn, hr, hg]
        rfl
      · intro n _ hn row hrow
        rw [keepsRow_of_mem_nodeRows hrow, hn, Bool.false_and, Bool.false_and]
    · intro r _ hr row hrow
      obtain ⟨n, -, hrow⟩ := List.mem_flatMap.mp hrow
      rw [keepsRow_of_mem_nodeRows hrow, hr, Bool.and_false, Bool.false_and]
  · intro g _ hg row hrow
    obtain ⟨r, -, hrow⟩ := List.mem_flatMap.mp hrow
    obtain ⟨n, -, hrow⟩ := List.mem_flatMap.mp hrow
    rw [keepsRow_of_mem_nodeRows hrow, hg, Bool.and_false]

theorem flatMap_rows_eq_filter (f : ServiceFilter) (zone : String) (services : List GeoService) :
    services.flatMap (rows f zone) = (services.flatMap (rows {} zone)).filter f.keepsRow := by
  rw [List.filter_flatMap]
  simp only [filter_rows]

/-- Whether a filter leaves alone what it keeps: the runs that it keeps of a zone stay apart, and
their groups hold the same countries among the services that it keeps. -/
def Selects (zone : String) (regions : RegionTable) (services : List GeoService)
    (f : ServiceFilter) : Prop :=
  Run.Selects (territoriesAmong regions (kept {} zone services))
    (territoriesAmong regions (kept f zone services)) f.keepsRow (services.flatMap (rows {} zone))

/-- The same for the first record set alone. -/
def SelectsFirst (zone : String) (regions : RegionTable) (services : List GeoService)
    (f : ServiceFilter) : Prop :=
  Run.SelectsFirst (territoriesAmong regions (kept {} zone services))
    (territoriesAmong regions (kept f zone services)) f.keepsRow (services.flatMap (rows {} zone))

instance (zone : String) (regions : RegionTable) (services : List GeoService)
    (f : ServiceFilter) : Decidable (Selects zone regions services f) :=
  inferInstanceAs (Decidable (Run.Selects _ _ _ _))

instance (zone : String) (regions : RegionTable) (services : List GeoService)
    (f : ServiceFilter) : Decidable (SelectsFirst zone regions services f) :=
  inferInstanceAs (Decidable (Run.SelectsFirst _ _ _ _))

section
variable {zone : String} {regions : RegionTable} {services : List GeoService}
  {sets : List RoutedRecordSet}

theorem itemsOf_filter_iff (h : itemsOf zone regions {} services = sets.map .ok)
    (f : ServiceFilter) :
    itemsOf zone regions f services = (sets.filter f.keepsSet).map .ok ↔
      Selects zone regions services f := by
  have hitems := Item.upToError_eq_map_ok.mp h
  rw [itemsOf, Item.upToError_eq_map_ok, flatMap_rows_eq_filter f]
  exact Run.items_filter_iff (fun _ _ ha => ServiceFilter.keepsRow_of_agrees ha)
    (fun _ _ hm => ServiceFilter.keepsSet_of_makes hm) hitems

theorem first_itemsOf_iff (h : itemsOf zone regions {} services = sets.map .ok)
    (f : ServiceFilter) :
    Item.first (itemsOf zone regions f services) = .ok (sets.find? f.keepsSet) ↔
      SelectsFirst zone regions services f := by
  have hitems := Item.upToError_eq_map_ok.mp h
  rw [itemsOf, Item.first_eq_ok, Item.head?_upToError, ← Item.first_eq_ok,
    flatMap_rows_eq_filter f]
  exact Run.first_items_filter_iff (fun _ _ ha => ServiceFilter.keepsRow_of_agrees ha)
    (fun _ _ hm => ServiceFilter.keepsSet_of_makes hm) hitems

end

theorem filter_keepsSet_named (name : String) (sets : List RoutedRecordSet) :
    sets.filter (ServiceFilter.ofSelection (.named name)).keepsSet =
      sets.filter fun r => DomainName.same r.name name := by
  congr 1
  funext r
  exact (Bool.and_true _).trans (Bool.and_true _)

theorem filter_keepsSet_typed (name type : String) (sets : List RoutedRecordSet) :
    sets.filter (ServiceFilter.ofSelection (.typed name type)).keepsSet =
      (sets.filter fun r => DomainName.same r.name name).filter fun r => r.type == type := by
  rw [List.filter_filter]
  congr 1
  funext r
  change (DomainName.same r.name name && type == r.type && true) = _
  rw [Bool.and_true, Bool.and_comm, BEq.comm]

theorem find?_keepsSet_target (t : Target) (sets : List RoutedRecordSet) :
    sets.find? (ServiceFilter.ofTarget t).keepsSet =
      ((sets.filter fun r => DomainName.same r.name t.name).filter fun r =>
        r.type == t.type).find? (RoutedRecordSet.goesTo t.group) := by
  rw [← List.head?_filter, ← List.head?_filter, List.filter_filter, List.filter_filter]
  congr 2
  funext r
  change (DomainName.same r.name t.name && t.type == r.type && r.goesTo t.group) = _
  rw [Bool.and_comm, Bool.and_comm (DomainName.same r.name t.name), BEq.comm, Bool.and_assoc]

section
variable {s : ServiceStore} {zone : String} {regions : RegionTable} {name type group : String}

/-- Narrower queries give what the full listing gives for them exactly when their filters leave
alone what they keep. -/
theorem narrower_queries_select_iff (hz : s.zones.contains zone = true)
    (hn : Text.isBlank name = false) (ht : Text.isBlank type = false)
    (hg : Text.isBlank group = false) {sets : List RoutedRecordSet}
    (h : ((items ServiceStore.source zone regions .all).run.run s).answer = .ok (sets.map .ok)) :
    let named := sets.filter fun r => DomainName.same r.name name
    let typed := named.filter fun r => r.type == Text.upper type
    (((items ServiceStore.source zone regions (.named name)).run.run s).answer =
        .ok (named.map .ok) ↔
      Selects zone regions s.services.values (.ofSelection (.named name))) ∧
    (((items ServiceStore.source zone regions (.typed name type)).run.run s).answer =
        .ok (typed.map .ok) ↔
      Selects zone regions s.services.values (.ofSelection (.typed name (Text.upper type)))) ∧
    (((getTarget ServiceStore.source zone regions ⟨name, type, group⟩).run.run s).answer =
        .ok (typed.find? (RoutedRecordSet.goesTo group)) ↔
      SelectsFirst zone regions s.services.values
        (.ofTarget ⟨name, Text.upper type, group⟩)) := by
  intro named typed
  rw [ServiceStore.items_of_zone hz Selection.check_all] at h
  have hall : itemsOf zone regions {} s.services.values = sets.map .ok := Except.ok.inj h
  have hc : Target.check provider ⟨name, type, group⟩ = .ok ⟨name, Text.upper type, group⟩ :=
    Target.check_eq_ok hn ht hg
  rw [ServiceStore.items_of_zone hz (Selection.check_named hn),
    ServiceStore.items_of_zone hz (Selection.check_typed hn ht),
    ServiceStore.getTarget_of_zone hz hc, Except.ok.injEq, Except.ok.injEq]
  refine ⟨?_, ?_, ?_⟩
  · rw [← show _ = named from filter_keepsSet_named name sets]
    exact itemsOf_filter_iff hall _
  · rw [← show _ = typed from filter_keepsSet_typed name (Text.upper type) sets]
    exact itemsOf_filter_iff hall _
  · have htarget := find?_keepsSet_target ⟨name, Text.upper type, group⟩ sets
    rw [← show _ = typed.find? (RoutedRecordSet.goesTo group) from htarget]
    exact first_itemsOf_iff hall _

end

/-- Two record sets of addresses to one group, for two nodes; `ttl` is that of the second. -/
def twoNodeStore (ttl : UInt32) : ServiceStore := .ofHistory
  [.addZone "z.",
    .putService ⟨"s", [⟨"z.", "a.z."⟩, ⟨"z.", "b.z."⟩],
      [⟨"eu", ["BE"],
        [⟨"A", some 60, [["192.0.2.1"]]⟩, ⟨"A", some ttl, [["192.0.2.2"]]⟩]⟩]⟩]

/-- A record set of addresses to that group. -/
def nodeSet (fqdn : String) (ttl : UInt32) (addresses : List String) : RoutedRecordSet :=
  ⟨⟨fqdn, "A", some ttl, addresses.map fun a => .single "address" (.text a)⟩,
    .single Route.geoKind (.geo ⟨"eu", ["BE"], false⟩)⟩

theorem narrower_queries_select_of_two_ttls :
    let listed := [nodeSet "a.z." 60 ["192.0.2.1"], nodeSet "b.z." 60 ["192.0.2.1"],
      nodeSet "a.z." 90 ["192.0.2.2"], nodeSet "b.z." 90 ["192.0.2.2"]]
    let wanted := [nodeSet "a.z." 60 ["192.0.2.1"], nodeSet "a.z." 90 ["192.0.2.2"]]
    (twoNodeStore 90).zones.contains "z." = true ∧ Text.isBlank "A.z" = false ∧
      Text.isBlank "a" = false ∧ Text.isBlank "eu" = false ∧
      ((items ServiceStore.source "z." ⟨.empty⟩ .all).run.run (twoNodeStore 90)).answer =
        .ok (listed.map .ok) ∧
      ((items ServiceStore.source "z." ⟨.empty⟩ (.named "A.z")).run.run
          (twoNodeStore 90)).answer = .ok (wanted.map .ok) ∧
      ((items ServiceStore.source "z." ⟨.empty⟩ (.typed "A.z" "a")).run.run
          (twoNodeStore 90)).answer = .ok (wanted.map .ok) ∧
      ((getTarget ServiceStore.source "z." ⟨.empty⟩ ⟨"A.z", "a", "eu"⟩).run.run
          (twoNodeStore 90)).answer = .ok wanted.head? := by
  intro listed wanted
  have hz : (twoNodeStore 90).zones.contains "z." = true := by decide +kernel
  have hn : Text.isBlank "A.z" = false := by decide +kernel
  have ht : Text.isBlank "a" = false := by decide +kernel
  have hg : Text.isBlank "eu" = false := by decide +kernel
  have hlisted : ((items ServiceStore.source "z." ⟨.empty⟩ .all).run.run
      (twoNodeStore 90)).answer = .ok (listed.map .ok) := by
    rw [ServiceStore.items_of_zone hz Selection.check_all]
    decide +kernel
  obtain ⟨hnamed, htyped, hget⟩ := narrower_queries_select_iff hz hn ht hg hlisted
  refine ⟨hz, hn, ht, hg, hlisted, ?_, ?_, ?_⟩
  · rw [hnamed.mpr (by decide +kernel)]
    decide +kernel
  · rw [htyped.mpr (by decide +kernel)]
    decide +kernel
  · rw [hget.mpr (by decide +kernel)]
    decide +kernel

/-- With one time to live the full listing keeps the record sets of a node apart, and narrower
queries join them. -/
theorem narrower_queries_join_runs :
    let listed := [nodeSet "a.z." 60 ["192.0.2.1"], nodeSet "b.z." 60 ["192.0.2.1"],
      nodeSet "a.z." 60 ["192.0.2.2"], nodeSet "b.z." 60 ["192.0.2.2"]]
    let wanted := [nodeSet "a.z." 60 ["192.0.2.1"], nodeSet "a.z." 60 ["192.0.2.2"]]
    let joint := nodeSet "a.z." 60 ["192.0.2.1", "192.0.2.2"]
    ((items ServiceStore.source "z." ⟨.empty⟩ .all).run.run (twoNodeStore 60)).answer =
        .ok (listed.map .ok) ∧
      (listed.filter fun r => DomainName.same r.name "a.z.") = wanted ∧
      ((items ServiceStore.source "z." ⟨.empty⟩ (.named "a.z.")).run.run
          (twoNodeStore 60)).answer = .ok [.ok joint] ∧
      ((items ServiceStore.source "z." ⟨.empty⟩ (.typed "a.z." "A")).run.run
          (twoNodeStore 60)).answer = .ok [.ok joint] ∧
      ((getTarget ServiceStore.source "z." ⟨.empty⟩ ⟨"a.z.", "A", "eu"⟩).run.run
          (twoNodeStore 60)).answer = .ok (some joint) ∧
      joint ∉ listed := by
  intro listed wanted joint
  have hz : (twoNodeStore 60).zones.contains "z." = true := by decide +kernel
  have hn : Text.isBlank "a.z." = false := by decide +kernel
  have ht : Text.isBlank "A" = false := by decide +kernel
  have hg : Text.isBlank "eu" = false := by decide +kernel
  have hc : Target.check provider ⟨"a.z.", "A", "eu"⟩ = .ok ⟨"a.z.", Text.upper "A", "eu"⟩ :=
    Target.check_eq_ok hn ht hg
  rw [ServiceStore.items_of_zone hz Selection.check_all,
    ServiceStore.items_of_zone hz (Selection.check_named hn),
    ServiceStore.items_of_zone hz (Selection.check_typed hn ht),
    ServiceStore.getTarget_of_zone hz hc]
  decide +kernel

end GeoService

end GeoRouting
