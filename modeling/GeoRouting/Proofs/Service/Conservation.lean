import GeoRouting.Proofs.Row.Accounting
import GeoRouting.Proofs.Service.ListingItems

/-!
# Listing geo services loses no value

A service says something at each of its nodes with each of its record sets: each of the values, or
nothing, once, if there is no value. A listing without an error has the data of all that is said to
its selection, by service, group, record set, node and value in this order. Its record sets share
the entries out: each is made of one or more entries in a row, and all of these fit into it.
-/

namespace GeoRouting

/-- What a service says at one of its nodes with a record set: a value, or nothing. -/
structure ServiceEntry where
  service : GeoService
  group : RegionGroup
  records : ServiceRecords
  node : Node
  value : Option (List String)
deriving DecidableEq, Repr

namespace ServiceRecords

/-- The values one by one; without values the answer is nothing. -/
def answers (r : ServiceRecords) : List (Option (List String)) :=
  if r.values = [] then [none] else r.values.map some

theorem flatMap_answers {α : Type} (r : ServiceRecords) (f : List String → α) :
    (r.answers.flatMap fun value => value.toList.map f) = r.values.map f := by
  unfold answers
  split
  · rename_i h
    rw [h]
    rfl
  · rw [List.flatMap_map, List.map_eq_flatMap]
    rfl

end ServiceRecords

/-! ## What a selection asks for -/

namespace Selection

/-- Whether a name is asked for. -/
def asksName (fqdn : String) : Selection → Bool
  | .all => true
  | .named name | .typed name _ => DomainName.same fqdn name

/-- Whether a node lies in a zone and has a name that is asked for. -/
def asksNode (zone : String) (selection : Selection) (n : Node) : Bool :=
  n.zone = zone && selection.asksName n.fqdn

/-- Whether a record set has a type that is asked for; types are asked for in upper case. -/
def asksRecords (selection : Selection) (r : ServiceRecords) : Bool :=
  match selection with
  | .all | .named _ => true
  | .typed _ type => r.type = Text.upper type

theorem keepsNode_upperCased (selection : Selection) (zone : String) :
    (ServiceFilter.ofSelection selection.upperCased).keepsNode zone = selection.asksNode zone := by
  cases selection <;> rfl

theorem keepsRecords_upperCased (selection : Selection) :
    (ServiceFilter.ofSelection selection.upperCased).keepsRecords = selection.asksRecords := by
  funext r
  cases selection with
  | all => rfl
  | named name => rfl
  | typed name type => exact BEq.comm

theorem keepsGroup_ofSelection (selection : Selection) (g : RegionGroup) :
    (ServiceFilter.ofSelection selection).keepsGroup g = true := by
  cases selection <;> rfl

end Selection

/-! ## Entries and record sets -/

/-- Whether an entry fits into a record set. -/
structure RoutedRecordSet.Carries (r : RoutedRecordSet) (e : ServiceEntry) : Prop where
  type : r.type = e.records.type
  ttl : r.records.ttl = e.records.ttl
  name : Text.lower r.name = Text.lower e.node.fqdn
  group : r.geo?.map GeoRoute.group = some e.group.name
  noResponse : r.geo?.map GeoRoute.noResponse = some e.value.isNone
  /-- A record set has data exactly when its entries have values. -/
  silent : r.records.rdata.isEmpty = e.value.isNone

namespace ServiceEntry

/-- The row that an entry is listed as. -/
def row (e : ServiceEntry) : Row :=
  { name := e.node.fqdn, type := e.records.type, ttl := e.records.ttl
    values := e.value.getD [], noResponse := e.value.isNone
    geoGroup := some ⟨e.service.groupId e.group, e.group.name⟩ }

/-- What the value of an entry is converted to, if there is a value. -/
def data (e : ServiceEntry) : List (Except GeoError Rdata) :=
  e.value.toList.map (Rdata.convert GeoService.provider e.records.type)

theorem map_ok_data_row {e : ServiceEntry} (h : e.row.problems GeoService.provider = []) :
    (e.row.data GeoService.provider).map .ok = e.data := by
  rw [Row.map_ok_data h]
  unfold data row
  cases e.value <;> rfl

/-- Whether a record set is made of some entries, all of them at nodes of a zone. -/
structure Makes (zone : String) (es : List ServiceEntry) (r : RoutedRecordSet) : Prop where
  nonempty : es ≠ []
  zone : ∀ e ∈ es, e.node.zone = zone
  carries : ∀ e ∈ es, r.Carries e
  data : r.records.rdata.map .ok = es.flatMap ServiceEntry.data

theorem makes_of_rows {zone : String} {territories : String → Except GeoError (List String)}
    {es : List ServiceEntry} {r : RoutedRecordSet}
    (h : Run.Makes GeoService.provider territories (es.map row) r)
    (hzone : ∀ e ∈ es, e.node.zone = zone) : Makes zone es r where
  nonempty := by
    rintro rfl
    obtain ⟨first, others, hrun, -, -⟩ := h
    cases hrun
  zone := hzone
  carries := by
    intro e he
    have hc := h.covers (List.mem_map_of_mem he)
    exact ⟨hc.type, hc.ttl, hc.name, hc.group, hc.noResponse, hc.silent⟩
  data := by
    obtain ⟨hdata, hproblems⟩ := h.rdata
    rw [hdata, List.flatMap_map, List.map_flatMap]
    apply List.flatMap_congr
    intro e he
    exact map_ok_data_row (hproblems e.row (List.mem_map_of_mem he))

/-- Record sets that entries make have their data in the order of the entries. -/
theorem data_of_makes {zone : String} {parts : List (List ServiceEntry)}
    {sets : List RoutedRecordSet} (h : List.Forall₂ (Makes zone) parts sets) :
    (sets.flatMap fun r => r.records.rdata).map .ok = parts.flatten.flatMap ServiceEntry.data := by
  induction h with
  | nil => rfl
  | cons hmakes _ ih =>
    rw [List.flatMap_cons, List.map_append, hmakes.data, ih, List.flatten_cons,
      List.flatMap_append]

end ServiceEntry

namespace GeoService

/-- All that some services say to a selection of a zone. -/
def entries (zone : String) (selection : Selection) (services : List GeoService) :
    List ServiceEntry :=
  services.flatMap fun s => s.groups.flatMap fun g =>
    (g.records.filter selection.asksRecords).flatMap fun r =>
      (s.nodes.filter (selection.asksNode zone)).flatMap fun n =>
        r.answers.map fun value => ⟨s, g, r, n, value⟩

/-- What the values of all record sets that are asked for are converted to, once for every node
that is asked for. -/
def converted (zone : String) (selection : Selection) (services : List GeoService) :
    List (Except GeoError Rdata) :=
  services.flatMap fun s => s.groups.flatMap fun g =>
    (g.records.filter selection.asksRecords).flatMap fun r =>
      (s.nodes.filter (selection.asksNode zone)).flatMap fun _ =>
        r.values.map (Rdata.convert provider r.type)

theorem zone_of_mem_entries {zone : String} {selection : Selection} {services : List GeoService}
    {e : ServiceEntry} (h : e ∈ entries zone selection services) : e.node.zone = zone := by
  obtain ⟨s, -, h⟩ := List.mem_flatMap.mp h
  obtain ⟨g, -, h⟩ := List.mem_flatMap.mp h
  obtain ⟨r, -, h⟩ := List.mem_flatMap.mp h
  obtain ⟨n, hn, h⟩ := List.mem_flatMap.mp h
  obtain ⟨value, -, rfl⟩ := List.mem_map.mp h
  have hasked := (List.mem_filter.mp hn).2
  rw [Selection.asksNode, Bool.and_eq_true, decide_eq_true_eq] at hasked
  exact hasked.1

/-- Entries without a value have no data, so the data of all entries is that of all values. -/
theorem flatMap_data_entries (zone : String) (selection : Selection)
    (services : List GeoService) :
    (entries zone selection services).flatMap ServiceEntry.data =
      converted zone selection services := by
  simp only [entries, converted, List.flatMap_assoc, List.flatMap_map]
  simp only [ServiceEntry.data, ServiceRecords.flatMap_answers]

theorem map_row_answers (s : GeoService) (g : RegionGroup) (r : ServiceRecords) (n : Node) :
    (r.answers.map fun value => (⟨s, g, r, n, value⟩ : ServiceEntry)).map ServiceEntry.row =
      nodeRows ⟨s.groupId g, g.name⟩ r n := by
  unfold ServiceRecords.answers nodeRows
  simp only [List.isEmpty_iff]
  split
  · rfl
  · rw [List.map_map, List.map_map]
    rfl

/-- The rows that are listed for a selection are those of its entries, in their order. -/
theorem map_row_entries (zone : String) (selection : Selection) (services : List GeoService) :
    (entries zone selection services).map ServiceEntry.row =
      services.flatMap (rows (.ofSelection selection.upperCased) zone) := by
  have hgroups : ∀ s : GeoService,
      s.groups.filter (ServiceFilter.ofSelection selection.upperCased).keepsGroup = s.groups :=
    fun s => List.filter_eq_self.mpr fun g _ => Selection.keepsGroup_ofSelection _ g
  simp only [entries, List.map_flatMap, map_row_answers]
  unfold rows
  simp only [hgroups, Selection.keepsNode_upperCased, Selection.keepsRecords_upperCased]

/-- Record sets without an error between them share the entries out. -/
theorem exists_parts {zone : String} {selection : Selection} {services : List GeoService}
    {territories : String → Except GeoError (List String)} {sets : List RoutedRecordSet}
    (h : Run.items provider territories
      ((entries zone selection services).map ServiceEntry.row) = sets.map .ok) :
    ∃ parts, parts.flatten = entries zone selection services ∧
      List.Forall₂ (ServiceEntry.Makes zone) parts sets := by
  have hruns := Run.items_eq_map_ok.mp h
  rw [Row.runs_map, List.forall₂_map_left_iff] at hruns
  generalize hcut : ((entries zone selection services).splitBy fun e e' =>
    e.row.agrees e'.row) = parts at hruns
  have hflat : parts.flatten = entries zone selection services := by
    rw [← hcut]
    exact List.flatten_splitBy _ _
  have hzone : ∀ part ∈ parts, ∀ e ∈ part, e.node.zone = zone := by
    intro part hpart e he
    apply zone_of_mem_entries
    rw [← hflat]
    exact List.mem_flatten.mpr ⟨part, hpart, he⟩
  refine ⟨parts, hflat, ((List.forall₂_and_left _ _).mpr ⟨hzone, hruns⟩).imp ?_⟩
  rintro part r ⟨hz, hmakes⟩
  exact ServiceEntry.makes_of_rows hmakes hz

/-- When a listing is without an error its data is that of the services that were got: every value
of every record set that is asked for, once for each node that is asked for. The record sets share
out all that is said to the selection, in order. -/
theorem items_conserve_values {σ : Type} (source : ServiceSource σ) (zone : String)
    (regions : RegionTable) (selection : Selection) (s : σ) {sets : List RoutedRecordSet}
    (h : ((items source zone regions selection).run.run s).answer = .ok (sets.map .ok)) :
    ∃ services, (source (.zoneExists zone) s).1 = .ok true ∧
      (source .services (source (.zoneExists zone) s).2).1 = .ok services ∧
      (sets.flatMap fun r => r.records.rdata).map .ok = converted zone selection services ∧
      ∃ parts, parts.flatten = entries zone selection services ∧
        List.Forall₂ (ServiceEntry.Makes zone) parts sets := by
  obtain ⟨checked, services, hc, hf, hitems⟩ := exists_fetched h
  obtain ⟨hzone, hservices⟩ := fetched_eq_ok.mp hf
  cases Selection.eq_upperCased_of_check hc
  rw [itemsOf, ← map_row_entries, eq_comm, Item.upToError_eq_map_ok] at hitems
  obtain ⟨parts, hflat, hmakes⟩ := exists_parts hitems
  refine ⟨services, hzone, hservices, ?_, parts, hflat, hmakes⟩
  rw [← flatMap_data_entries, ← hflat]
  exact ServiceEntry.data_of_makes hmakes

/-- A service in two zones with a name in two spellings: two record sets of one type, and one
without values. Another service is in the other zone only. -/
def twoZoneStore : ServiceStore := .ofHistory
  [.addZone "z.", .addZone "y.",
    .putService ⟨"s", [⟨"z.", "a.z."⟩, ⟨"y.", "a.z."⟩, ⟨"z.", "A.z."⟩],
      [⟨"eu", ["BE"],
        [⟨"A", some 60, [["192.0.2.1"], ["192.0.2.2"]]⟩, ⟨"A", some 60, [["192.0.2.3"]]⟩,
          ⟨"AAAA", none, []⟩]⟩]⟩,
    .putService ⟨"t", [⟨"y.", "a.z."⟩], [⟨"eu", ["BE"], [⟨"A", some 60, [["192.0.2.4"]]⟩]⟩]⟩]

/-- Its record sets in the first zone: one that answers and one that does not. -/
def twoZoneSets : List RoutedRecordSet :=
  let addresses := ["192.0.2.1", "192.0.2.2", "192.0.2.1", "192.0.2.2", "192.0.2.3", "192.0.2.3"]
  [⟨⟨"a.z.", "A", some 60, addresses.map fun a => .single "address" (.text a)⟩,
      .single Route.geoKind (.geo ⟨"eu", ["BE"], false⟩)⟩,
    ⟨⟨"a.z.", "AAAA", none, []⟩, .single Route.geoKind (.geo ⟨"eu", ["BE"], true⟩)⟩]

theorem items_conserve_values_of_twoZoneStore :
    ((items ServiceStore.source "z." ⟨.empty⟩ (.named "A.Z")).run.run twoZoneStore).answer =
        .ok (twoZoneSets.map .ok) ∧
      (twoZoneSets.flatMap fun r => r.records.rdata).map .ok =
        converted "z." (.named "A.Z") twoZoneStore.services.values ∧
      (entries "z." (.named "A.Z") twoZoneStore.services.values).length = 8 ∧
      ∃ parts, parts.flatten = entries "z." (.named "A.Z") twoZoneStore.services.values ∧
        List.Forall₂ (ServiceEntry.Makes "z.") parts twoZoneSets := by
  have hz : twoZoneStore.zones.contains "z." = true := by decide +kernel
  have hn : Text.isBlank "A.Z" = false := by decide +kernel
  have hitems : ((items ServiceStore.source "z." ⟨.empty⟩ (.named "A.Z")).run.run
      twoZoneStore).answer = .ok (twoZoneSets.map .ok) := by
    rw [ServiceStore.items_of_zone hz (Selection.check_named hn)]
    decide +kernel
  obtain ⟨services, -, hservices, hdata, hparts⟩ := items_conserve_values _ _ _ _ _ hitems
  cases Except.ok.inj hservices
  exact ⟨hitems, hdata, by decide +kernel, hparts⟩

end GeoService

end GeoRouting
