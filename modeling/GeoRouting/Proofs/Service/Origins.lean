import GeoRouting.Proofs.Row.Accounting
import GeoRouting.Proofs.Service.ListingItems

/-!
# Whose territories a record set carries

A row names its group by an id and a name, and two groups can have both in common. So each row is
followed together with the service and the group that it was made of. A record set carries the
countries held under the id of its first row's group. These are the countries of the groups of
all its rows exactly when the groups expand to the same, which neither ids nor names ensure.
-/

namespace GeoRouting

/-- A row with the service and the group that it was made of. -/
structure Origin where
  service : GeoService
  group : RegionGroup
  row : Row
deriving DecidableEq, Repr

namespace Origin

def id (o : Origin) : String := o.service.groupId o.group

/-- Origins cut where their rows are. -/
def runs (os : List Origin) : List (List Origin) := os.splitBy fun o p => o.row.agrees p.row

theorem map_runs (os : List Origin) :
    (runs os).map (List.map Origin.row) = Row.runs (os.map Origin.row) :=
  (Row.runs_map Origin.row os).symm

theorem mem_of_mem_runs {os run : List Origin} {o : Origin} (h : run ∈ runs os) (ho : o ∈ run) :
    o ∈ os := by
  have hflat : o ∈ (runs os).flatten := List.mem_flatten.mpr ⟨run, h, ho⟩
  rwa [runs, List.flatten_splitBy] at hflat

end Origin

/-- Whether a record set carries the territories of every group that its rows were made of. -/
def RoutedRecordSet.AnswersFor (regions : RegionTable) (run : List Origin)
    (r : RoutedRecordSet) : Prop :=
  ∀ o ∈ run, r.geo?.map GeoRoute.territories = some (regions.expand o.group.countries)

instance (regions : RegionTable) (run : List Origin) (r : RoutedRecordSet) :
    Decidable (r.AnswersFor regions run) :=
  inferInstanceAs (Decidable (∀ o ∈ run, _ = _))

namespace GeoService

/-- The rows of a service that a filter keeps, with their groups. -/
def origins (f : ServiceFilter) (zone : String) (s : GeoService) : List Origin :=
  (s.groups.filter f.keepsGroup).flatMap fun g =>
    (g.records.filter f.keepsRecords).flatMap fun r =>
      (s.nodes.filter (f.keepsNode zone)).flatMap fun n =>
        (nodeRows ⟨s.groupId g, g.name⟩ r n).map fun row => ⟨s, g, row⟩

theorem map_row_origins (f : ServiceFilter) (zone : String) (s : GeoService) :
    (s.origins f zone).map Origin.row = s.rows f zone := by
  have hrows : ∀ (g : RegionGroup) (rows : List Row),
      (rows.map fun row => (⟨s, g, row⟩ : Origin)).map Origin.row = rows := by
    intro g rows
    rw [List.map_map]
    exact List.map_id rows
  simp only [origins, rows, List.map_flatMap, hrows]

theorem mem_origins {f : ServiceFilter} {zone : String} {s : GeoService} {o : Origin}
    (h : o ∈ s.origins f zone) :
    o.service = s ∧ o.group ∈ s.groups ∧ s.nodes.any (f.keepsNode zone) = true ∧
      o.row.group? = some ⟨o.id, o.group.name⟩ := by
  obtain ⟨g, hg, ho⟩ := List.mem_flatMap.mp h
  obtain ⟨r, -, ho⟩ := List.mem_flatMap.mp ho
  obtain ⟨n, hn, ho⟩ := List.mem_flatMap.mp ho
  obtain ⟨row, hrow, rfl⟩ := List.mem_map.mp ho
  refine ⟨rfl, (List.mem_filter.mp hg).1, ?_, (fields_of_mem_nodeRows hrow).2.2⟩
  exact List.any_eq_true.mpr ⟨n, List.mem_filter.mp hn⟩

/-- A group that a row was made of is among those that territories are looked up in. -/
theorem exists_holder?_of_mem_origins {f : ServiceFilter} {zone : String}
    {services : List GeoService} {o : Origin}
    (h : o ∈ services.flatMap (origins f zone)) :
    ∃ holder, holder? (kept f zone services) o.id = some holder := by
  obtain ⟨s, hs, ho⟩ := List.mem_flatMap.mp h
  obtain ⟨hservice, hgroup, hnodes, -⟩ := mem_origins ho
  have hkept : s ∈ kept f zone services := List.mem_filter.mpr ⟨hs, hnodes⟩
  rw [Origin.id, hservice]
  exact exists_holder? hkept hgroup

/-- A record set carries the countries held under the id of its first row's group. They are
those of all groups that its rows were made of exactly when these expand to the same. -/
theorem territories_of_items {s : ServiceStore} {zone : String} {regions : RegionTable}
    {selection checked : Selection} (hc : selection.check provider = .ok checked)
    {listed : List Item}
    (h : ((items ServiceStore.source zone regions selection).run.run s).answer = .ok listed)
    {i : Nat} {r : RoutedRecordSet} (hi : listed[i]? = some (.ok r)) :
    ∃ first others holder,
      (Origin.runs (s.services.values.flatMap (origins (.ofSelection checked) zone)))[i]? =
        some (first :: others) ∧
      Run.Makes provider
        (territoriesAmong regions (kept (.ofSelection checked) zone s.services.values))
        ((first :: others).map Origin.row) r ∧
      holder? (kept (.ofSelection checked) zone s.services.values) first.id = some holder ∧
      r.geo?.map GeoRoute.territories = some (regions.expand holder.countries) ∧
      (r.AnswersFor regions (first :: others) ↔
        ∀ o ∈ first :: others,
          regions.expand o.group.countries = regions.expand holder.countries) := by
  obtain ⟨checked', hc', -, rfl⟩ := ServiceStore.exists_itemsOf h
  cases Except.ok.inj (hc.symm.trans hc')
  generalize ServiceFilter.ofSelection checked = f at hi ⊢
  generalize s.services.values = services at hi ⊢
  have hrows : services.flatMap (rows f zone) =
      (services.flatMap (origins f zone)).map Origin.row := by
    rw [List.map_flatMap]
    simp only [map_row_origins]
  rw [itemsOf, hrows] at hi
  obtain ⟨run, hrun, hmakes⟩ := Run.exists_run_of_item hi
  rw [← Origin.map_runs, List.getElem?_map] at hrun
  obtain ⟨os, hos, rfl⟩ := Option.map_eq_some_iff.mp hrun
  obtain ⟨firstRow, otherRows, hsplit, -, hitem⟩ := id hmakes
  cases os with
  | nil => cases hsplit
  | cons first others =>
    obtain ⟨rfl, rfl⟩ := List.cons.inj hsplit
    have hmem : first ∈ services.flatMap (origins f zone) :=
      Origin.mem_of_mem_runs (List.mem_of_getElem? hos) List.mem_cons_self
    obtain ⟨holder, hholder⟩ := exists_holder?_of_mem_origins hmem
    obtain ⟨service, -, hfirst⟩ := List.mem_flatMap.mp hmem
    obtain ⟨-, -, -, hgroup⟩ := mem_origins hfirst
    obtain ⟨g, codes, hg, hcodes, -, -, -, hr⟩ := Run.item_eq_ok.mp hitem
    cases Option.some.inj (hgroup.symm.trans hg)
    rw [territoriesAmong_of_holder hholder] at hcodes
    have hterritories : r.geo?.map GeoRoute.territories =
        some (regions.expand holder.countries) := by
      rw [hr, Except.ok.inj hcodes]
      rfl
    refine ⟨first, others, holder, hos, hmakes, hholder, hterritories, ?_⟩
    unfold RoutedRecordSet.AnswersFor
    simp only [hterritories, Option.some.injEq, eq_comm]

/-- A service that answers one name to one group with one address. -/
def addressService (name fqdn group : String) (countries : List String) (address : String) :
    GeoService :=
  ⟨name, [⟨"z.", fqdn⟩], [⟨group, countries, [⟨"A", some 60, [[address]]⟩]⟩]⟩

/-- The record set of some addresses to one group. -/
def addressSet (fqdn group : String) (territories addresses : List String) : RoutedRecordSet :=
  ⟨⟨fqdn, "A", some 60, addresses.map fun a => .single "address" (.text a)⟩,
    .single Route.geoKind (.geo ⟨group, territories, false⟩)⟩

/-- Two services that answer one name, each to a group of its own; the groups share their name. -/
def sharedNameStore : ServiceStore := .ofHistory
  [.addZone "z.",
    .putService (addressService "a" "a.z." "eu" ["Europe"] "192.0.2.1"),
    .putService (addressService "b" "A.z." "eu" ["BE"] "192.0.2.2")]

theorem territories_of_sharedNameStore :
    let europe : RegionTable := ⟨.single "Europe" ["Albania", "Andorra"]⟩
    let joint := addressSet "a.z." "eu" ["Albania", "Andorra"] ["192.0.2.1", "192.0.2.2"]
    ((items ServiceStore.source "z." europe .all).run.run sharedNameStore).answer =
        .ok [.ok joint] ∧
      ∃ run, (Origin.runs (sharedNameStore.services.values.flatMap (origins {} "z.")))[0]? =
          some run ∧
        run.map (fun o => europe.expand o.group.countries) = [["Albania", "Andorra"], ["BE"]] ∧
        ¬ joint.AnswersFor europe run := by
  intro europe joint
  have hz : sharedNameStore.zones.contains "z." = true := by decide +kernel
  have hitems : ((items ServiceStore.source "z." europe .all).run.run sharedNameStore).answer =
      .ok [.ok joint] := by
    rw [ServiceStore.items_of_zone hz Selection.check_all]
    decide +kernel
  have hi : ([.ok joint] : List Item)[0]? = some (.ok joint) := rfl
  obtain ⟨first, others, holder, hrun, -, -, -, hiff⟩ :=
    territories_of_items Selection.check_all hitems hi
  have hcodes : ((Origin.runs (sharedNameStore.services.values.flatMap
      (origins {} "z.")))[0]?.map fun run => run.map fun o => europe.expand o.group.countries) =
      some [["Albania", "Andorra"], ["BE"]] := by
    decide +kernel
  change (Origin.runs (sharedNameStore.services.values.flatMap (origins {} "z.")))[0]? = _ at hrun
  rw [hrun] at hcodes
  have hrun' := Option.some.inj hcodes
  refine ⟨hitems, first :: others, hrun, hrun', ?_⟩
  rw [hiff]
  intro hall
  have hheld : ∀ codes ∈ [["Albania", "Andorra"], ["BE"]],
      codes = europe.expand holder.countries := by
    rw [← hrun']
    exact List.forall_mem_map.mpr hall
  have hfirst := hheld ["Albania", "Andorra"] (by decide)
  have hsecond := hheld ["BE"] (by decide)
  exact absurd (hfirst.trans hsecond.symm) (by decide)

/-- Two groups of one id: the sign that joins names to ids is in one of the names. -/
def slashedStore : ServiceStore := .ofHistory
  [.addZone "z.",
    .putService (addressService "a" "a.z." "b/c" ["BE"] "192.0.2.1"),
    .putService (addressService "a/b" "b.z." "c" ["US"] "192.0.2.2")]

theorem territories_of_slashed_names :
    let service := addressService "a" "a.z." "b/c" ["BE"] "192.0.2.1"
    let group : RegionGroup := ⟨"b/c", ["BE"], [⟨"A", some 60, [["192.0.2.1"]]⟩]⟩
    let row : Row :=
      { name := "a.z.", type := "A", ttl := some 60, values := ["192.0.2.1"],
        geoGroup := some ⟨"a/b/c", "b/c"⟩ }
    let first := addressSet "a.z." "b/c" ["US"] ["192.0.2.1"]
    ((items ServiceStore.source "z." ⟨.empty⟩ .all).run.run slashedStore).answer =
        .ok [.ok first, .ok (addressSet "b.z." "c" ["US"] ["192.0.2.2"])] ∧
      (Origin.runs (slashedStore.services.values.flatMap (origins {} "z.")))[0]? =
        some [⟨service, group, row⟩] ∧
      ¬ first.AnswersFor ⟨.empty⟩ [⟨service, group, row⟩] := by
  intro service group row first
  have hz : slashedStore.zones.contains "z." = true := by decide +kernel
  refine ⟨?_, ?_, ?_⟩
  · rw [ServiceStore.items_of_zone hz Selection.check_all]
    decide +kernel
  · decide +kernel
  · decide +kernel

end GeoService

end GeoRouting
