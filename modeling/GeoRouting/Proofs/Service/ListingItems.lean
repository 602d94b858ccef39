import GeoRouting.Dict.Lookup
import GeoRouting.Proofs.Partition
import GeoRouting.Proofs.Row.Drain
import GeoRouting.Proofs.ZoneCheck
import GeoRouting.Service.Store

/-!
# What a listing of geo services gives

A query makes two calls, and the answers to them fix the rest: the items of the rows that its
filter keeps, up to the first error. Territories are looked up among the services with a node
that the filter keeps. Of their groups with one id the last one holds the countries.
-/

namespace GeoRouting

namespace GeoService

/-! ## Groups by their ids -/

/-- The services with a node that a filter keeps. -/
def kept (f : ServiceFilter) (zone : String) (services : List GeoService) : List GeoService :=
  services.filter fun s => s.nodes.any (f.keepsNode zone)

/-- The groups of some services by their ids. -/
def groupsById (services : List GeoService) : List (String × RegionGroup) :=
  services.flatMap fun s => s.groups.map fun g => (s.groupId g, g)

/-- The group whose countries are found under an id. -/
def holder? (services : List GeoService) (id : String) : Option RegionGroup :=
  ((groupsById services).reverse.find? fun p => p.1 == id).map Prod.snd

theorem get?_countries (services : List GeoService) (id : String) :
    (countries services).get? id = (holder? services id).map RegionGroup.countries := by
  have hentries : (services.flatMap fun s => s.groups.map fun g => (s.groupId g, g.countries)) =
      (groupsById services).map fun p => (p.1, p.2.countries) := by
    rw [groupsById, List.map_flatMap]
    simp only [List.map_map]
    rfl
  rw [countries, hentries, Dict.get?_ofList, ← List.map_reverse, List.find?_map, holder?,
    Option.map_map, Option.map_map]
  rfl

theorem exists_holder? {services : List GeoService} {s : GeoService} {g : RegionGroup}
    (hs : s ∈ services) (hg : g ∈ s.groups) :
    ∃ holder, holder? services (s.groupId g) = some holder := by
  rw [← Option.isSome_iff_exists, holder?, Option.isSome_map, List.find?_isSome]
  refine ⟨(s.groupId g, g), ?_, beq_self_eq_true _⟩
  rw [List.mem_reverse, groupsById]
  exact List.mem_flatMap.mpr ⟨s, hs, List.mem_map_of_mem hg⟩

/-- What a group is loaded as among some services. -/
def loaded (services : List GeoService) (id : String) : Except GeoError (List String) :=
  match holder? services id with
  | some g => .ok g.countries
  | none => .error (.backend provider s!"no region group {id}")

/-- What a group resolves to among some services. -/
def territoriesAmong (regions : RegionTable) (services : List GeoService) :
    String → Except GeoError (List String) :=
  TerritoryCache.resolved (some regions) (loaded services)

theorem territoriesAmong_of_holder {regions : RegionTable} {services : List GeoService}
    {id : String} {g : RegionGroup} (h : holder? services id = some g) :
    territoriesAmong regions services id = .ok (regions.expand g.countries) := by
  rw [territoriesAmong, TerritoryCache.resolved, loaded, h]
  rfl

theorem territories_steady {σ : Type} (services : List GeoService) (s : σ) :
    (territories (countries services) : TerritorySource σ).Steady (loaded services) s := by
  apply Source.steady_of_unchanged
  intro id
  rw [territories, get?_countries, loaded]
  cases holder? services id <;> rfl

/-! ## Rows that a filter keeps -/

theorem fields_of_mem_nodeRows {group : GroupRef} {r : ServiceRecords} {n : Node} {row : Row}
    (h : row ∈ nodeRows group r n) :
    row.name = n.fqdn ∧ row.type = r.type ∧ row.group? = some group := by
  unfold nodeRows at h
  dsimp only at h
  split at h
  · rw [List.mem_singleton.mp h]
    exact ⟨rfl, rfl, rfl⟩
  · obtain ⟨values, -, rfl⟩ := List.mem_map.mp h
    exact ⟨rfl, rfl, rfl⟩

theorem rows_of_no_node {f : ServiceFilter} {zone : String} {s : GeoService}
    (h : s.nodes.any (f.keepsNode zone) = false) : s.rows f zone = [] := by
  have hnodes : s.nodes.filter (f.keepsNode zone) = [] := by
    apply List.filter_eq_nil_iff.mpr
    intro n hn
    exact List.any_eq_false.mp h n hn
  rw [rows, hnodes]
  simp only [List.flatMap_nil, List.flatMap_eq_nil_iff, implies_true]

/-- A service without a node that a filter keeps has no rows to leave out. -/
theorem flatMap_rows_kept (f : ServiceFilter) (zone : String) (services : List GeoService) :
    (kept f zone services).flatMap (rows f zone) = services.flatMap (rows f zone) :=
  flatMap_filter_of_nil fun _ _ h => rows_of_no_node h

/-- The items of what a filter keeps of some services, up to the first error. -/
def itemsOf (zone : String) (regions : RegionTable) (f : ServiceFilter)
    (services : List GeoService) : List Item :=
  Item.upToError (Run.items provider (territoriesAmong regions (kept f zone services))
    (services.flatMap (rows f zone)))

/-! ## The two calls of a query -/

section
variable {σ : Type} {zone : String} {regions : RegionTable} {f : ServiceFilter}

/-- The services that a query of a zone gets. -/
def fetched (source : ServiceSource σ) (zone : String) (s : σ) :
    Except GeoError (List GeoService) :=
  let asked := source (.zoneExists zone) s
  asked.1.bind fun here =>
    if here then (source .services asked.2).1 else .error (.zoneNotFound provider zone)

/-- Services are got of a zone that is there, and only then. -/
theorem fetched_eq_ok {source : ServiceSource σ} {s : σ} {services : List GeoService} :
    fetched source zone s = .ok services ↔
      (source (.zoneExists zone) s).1 = .ok true ∧
        (source .services (source (.zoneExists zone) s).2).1 = .ok services := by
  rw [fetched]
  cases (source (.zoneExists zone) s).1 with
  | error e => simp [Except.bind]
  | ok here => cases here <;> simp [Except.bind]

/-- A listing of what a filter keeps of some services, before the first pull. -/
def opened (zone : String) (regions : RegionTable) (f : ServiceFilter)
    (services : List GeoService) : ServiceListing where
  countries := countries (kept f zone services)
  grouping := .ofRows provider (some regions) ((kept f zone services).flatMap (rows f zone))

theorem run_requireZone (source : ServiceSource σ) (zone : String) (s : σ) :
    let out := (requireZone source zone).run.run s
    out.answer =
      ((source (.zoneExists zone) s).1.bind fun here =>
        if here then .ok () else .error (.zoneNotFound provider zone)) ∧
      out.state = (source (.zoneExists zone) s).2 := by
  intro out
  have hout : out = _ := run_requireZone_eq source zone s
  rw [hout, state_zoneOutcome]
  refine ⟨?_, rfl⟩
  cases (source (.zoneExists zone) s).1 with
  | error e => rfl
  | ok here => cases here <;> rfl

theorem answer_listing (source : ServiceSource σ) (zone : String) (regions : RegionTable)
    (f : ServiceFilter) (s : σ) :
    ((listing source zone regions f).run.run s).answer =
      (fetched source zone s).map (opened zone regions f) := by
  obtain ⟨hzone, hstate⟩ := run_requireZone source zone s
  rw [listing, fetched]
  dsimp only
  cases h : (source (.zoneExists zone) s).1 with
  | error e =>
    rw [h] at hzone
    rw [Query.run_bind_error hzone]
    rfl
  | ok here =>
    rw [h] at hzone
    cases here with
    | false =>
      rw [Query.run_bind_error hzone]
      rfl
    | true =>
      rw [Query.run_bind_ok hzone, hstate, Query.run_bind_ok rfl]
      dsimp only
      generalize (source (.zoneExists zone) s).2 = t
      cases hs : (source .services t).1 with
      | error e =>
        have ha : ((source.ask .services).run.run t).answer = .error e := hs
        rw [Query.run_say, Query.run_bind_error ha]
        rfl
      | ok services =>
        have ha : ((source.ask .services).run.run t).answer = .ok services := hs
        rw [Query.run_say, Query.run_bind_ok ha]
        rfl

/-- What is done with a listing is done with the services that were fetched, in whatever state
the backend is then. -/
theorem answer_listing_bind {α : Type} {rest : ServiceListing → Query σ α}
    {answer : List GeoService → Except GeoError α}
    (h : ∀ services t, ((rest (opened zone regions f services)).run.run t).answer =
      answer services) (source : ServiceSource σ) (s : σ) :
    ((listing source zone regions f >>= rest).run.run s).answer =
      (fetched source zone s).bind answer := by
  have hl := answer_listing source zone regions f s
  cases hf : fetched source zone s with
  | error e =>
    rw [hf] at hl
    rw [Query.run_bind_error hl]
    rfl
  | ok services =>
    rw [hf] at hl
    rw [Query.run_bind_ok hl]
    exact h services _

theorem answer_drain_opened (services : List GeoService) (s : σ) :
    let l := opened zone regions f services
    ((l.grouping.drain (territories l.countries) l.cache).run s).answer =
      itemsOf zone regions f services := by
  have hload : (territories (countries (kept f zone services)) : TerritorySource σ).Steady
      (loaded (kept f zone services)) s := territories_steady _ s
  have hitems := Grouping.drain_steady
    (g := .ofRows provider (some regions) ((kept f zone services).flatMap (rows f zone)))
    hload TerritoryCache.holds_empty
  rw [itemsOf, ← flatMap_rows_kept]
  exact hitems

theorem answer_next_opened (services : List GeoService) (s : σ) :
    ((next (opened zone regions f services)).run s).answer.1 =
      (itemsOf zone regions f services).head? := by
  have hload : (territories (countries (kept f zone services)) : TerritorySource σ).Steady
      (loaded (kept f zone services)) s := territories_steady _ s
  obtain ⟨-, -, -, hitem, -⟩ := Grouping.next_steady
    (g := .ofRows provider (some regions) ((kept f zone services).flatMap (rows f zone)))
    hload TerritoryCache.holds_empty
  rw [itemsOf, ← flatMap_rows_kept]
  exact hitem

/-! ## By selection -/

/-- All items of a selection up to the end or the first error. -/
def items (source : ServiceSource σ) (zone : String) (regions : RegionTable)
    (selection : Selection) : Query σ (List Item) := do
  let l ← list source zone regions selection
  ExceptT.lift (l.grouping.drain (territories l.countries) l.cache)

/-- A listing gives the items of what its selection keeps. -/
theorem answer_items (source : ServiceSource σ) (zone : String) (regions : RegionTable)
    (selection : Selection) (s : σ) :
    ((items source zone regions selection).run.run s).answer =
      (selection.check provider).bind fun checked =>
        (fetched source zone s).bind fun services =>
          .ok (itemsOf zone regions (.ofSelection checked) services) := by
  rw [items, list]
  cases hc : selection.check provider with
  | error e => rfl
  | ok checked =>
    refine answer_listing_bind (fun services t => ?_) source s
    rw [Query.run_lift]
    exact congrArg Except.ok (answer_drain_opened services t)

/-- A listing that could be started is one of services that were got. -/
theorem exists_fetched {source : ServiceSource σ} {s : σ} {selection : Selection}
    {listed : List Item}
    (h : ((items source zone regions selection).run.run s).answer = .ok listed) :
    ∃ checked services, selection.check provider = .ok checked ∧
      fetched source zone s = .ok services ∧
      listed = itemsOf zone regions (.ofSelection checked) services := by
  rw [answer_items] at h
  cases hc : selection.check provider with
  | error e =>
    rw [hc] at h
    cases h
  | ok checked =>
    rw [hc] at h
    cases hf : fetched source zone s with
    | error e =>
      rw [hf] at h
      cases h
    | ok services =>
      rw [hf] at h
      exact ⟨checked, services, rfl, rfl, (Except.ok.inj h).symm⟩

/-- A target is the first item of what its filter keeps. -/
theorem answer_getTarget (source : ServiceSource σ) (zone : String) (regions : RegionTable)
    (target : Target) (s : σ) :
    ((getTarget source zone regions target).run.run s).answer =
      (target.check provider).bind fun checked =>
        (fetched source zone s).bind fun services =>
          Item.first (itemsOf zone regions (.ofTarget checked) services) := by
  rw [getTarget]
  cases hc : target.check provider with
  | error e => rfl
  | ok checked =>
    refine answer_listing_bind (fun services t => ?_) source s
    rw [Query.run_bind_ok (congrArg Outcome.answer (Query.run_lift _ t))]
    dsimp only
    rw [answer_next_opened]
    cases itemsOf zone regions (.ofTarget checked) services with
    | nil => rfl
    | cons item items => cases item <;> rfl

end

end GeoService

namespace ServiceStore
open GeoService
variable {s : ServiceStore} {zone : String}

theorem fetched_eq (s : ServiceStore) (zone : String) :
    fetched source zone s =
      if s.zones.contains zone then .ok s.services.values
      else .error (.zoneNotFound provider zone) := rfl

theorem items_of_zone (hz : s.zones.contains zone = true) {selection checked : Selection}
    (hc : selection.check provider = .ok checked) (regions : RegionTable) :
    ((items source zone regions selection).run.run s).answer =
      .ok (itemsOf zone regions (.ofSelection checked) s.services.values) := by
  rw [answer_items, hc, fetched_eq, if_pos hz]
  rfl

theorem getTarget_of_zone (hz : s.zones.contains zone = true) {target checked : Target}
    (hc : target.check provider = .ok checked) (regions : RegionTable) :
    ((getTarget source zone regions target).run.run s).answer =
      Item.first (itemsOf zone regions (.ofTarget checked) s.services.values) := by
  rw [answer_getTarget, hc, fetched_eq, if_pos hz]
  rfl

/-- A listing that could be started is one of a zone that is there. -/
theorem exists_itemsOf {regions : RegionTable} {selection : Selection} {items : List Item}
    (h : ((GeoService.items source zone regions selection).run.run s).answer = .ok items) :
    ∃ checked, selection.check provider = .ok checked ∧ s.zones.contains zone = true ∧
      items = itemsOf zone regions (.ofSelection checked) s.services.values := by
  obtain ⟨checked, services, hc, hf, hitems⟩ := exists_fetched h
  obtain ⟨hz, hservices⟩ := fetched_eq_ok.mp hf
  cases Except.ok.inj hservices
  exact ⟨checked, hc, Except.ok.inj hz, hitems⟩

end ServiceStore

end GeoRouting
