import GeoRouting.Proofs.Pool.Loads
import Mathlib.Data.List.Induction

/-!
# Listings over a store that changes

Listings are opened and pulled in any order while the store changes between the pulls. Each of them
has a cache of its own, which holds of every group what the store had for it at the first pull of
that listing that loaded it. So all record sets of a listing that go to one group have the same
territories, whenever their rows were fetched, and no listing shows what another one has loaded.
-/

namespace GeoRouting.Pool

/-- A pull of a listing, with the store and the listing as they were before. -/
structure Pull where
  store : PoolStore
  listing : PoolListing

namespace Pull

/-- Pulls and watches what the store is asked. -/
def run (p : Pull) : Outcome (Watched PoolStore PoolCall) (Option Item × PoolListing) :=
  (PoolListing.next PoolStore.source.watched p.listing).run ⟨p.store, []⟩

def item (p : Pull) : Option Item := p.run.answer.1

/-- The listing after the pull. -/
def after (p : Pull) : PoolListing := p.run.answer.2

/-- The ids of the groups that the pull loads. -/
def loads (p : Pull) : List String := PoolCall.loads p.run.state.calls

/-- Whether the run of the item starts with a row. -/
def StartsWith (p : Pull) (first : Row) : Prop :=
  PoolListing.RunStarts PoolStore.source.watched p.listing ⟨p.store, []⟩ first

end Pull

/-- What the store had for a group at the first of some pulls that loaded it. -/
def firstLoad? (pulls : List Pull) (id : String) : Option (List String) :=
  pulls.findSome? fun p => if id ∈ p.loads then p.store.territories.get? id else none

/-- A listing that is open, with its pulls so far. -/
structure OpenListing where
  listing : PoolListing
  pulls : List Pull := []

/-- A store and the listings that are open on it. -/
structure Session where
  store : PoolStore := {}
  listings : Dict OpenListing := .empty

/-- What can happen to a store and to listings on it, which have keys. -/
inductive Event where
  | change (c : PoolStore.Change)
  | start (key zone : String) (selection : Selection)
  | pull (key : String)

/-- Starts a listing at a reader of a zone. -/
def started (regions : RegionTable) (zone : String) (selection : Selection) :
    Query PoolStore PoolListing := do
  let r ← reader PoolStore.source regions zone
  r.list selection

namespace Session

/-- The session after one more event. -/
def step (regions : RegionTable) (s : Session) : Event → Session
  | .change c => { s with store := s.store.after c }
  | .start key zone selection =>
    let out := (started regions zone selection).run.run s.store
    match out.answer with
    | .ok l => ⟨out.state, s.listings.insert key ⟨l, []⟩⟩
    | .error _ => { s with store := out.state }
  | .pull key =>
    match s.listings.get? key with
    | none => s
    | some o =>
      let p : Pull := ⟨s.store, o.listing⟩
      ⟨p.run.state.source, s.listings.insert key ⟨p.after, o.pulls ++ [p]⟩⟩

/-- The session after some events, with an empty store at first. -/
def ofEvents (regions : RegionTable) (events : List Event) : Session :=
  events.foldl (step regions) {}

end Session

/-- Whether an event can show in a listing: a change of the store or an event of its own. -/
def Event.concerns (key : String) : Event → Bool
  | .change _ => true
  | .start k _ _ => k == key
  | .pull k => k == key

/-! ## One pull -/

theorem firstLoad?_append (pulls : List Pull) (p : Pull) (id : String) :
    firstLoad? (pulls ++ [p]) id =
      (firstLoad? pulls id).or (if id ∈ p.loads then p.store.territories.get? id else none) := by
  rw [firstLoad?, List.findSome?_append, List.findSome?_singleton]
  rfl

theorem toOption_territories (s : PoolStore) (regions : RegionTable) (id : String) :
    (territories s.reply regions id).toOption = (s.territories.get? id).map regions.expand := by
  rw [territories, TerritoryCache.resolved, PoolStore.reply]
  cases s.territories.get? id <;> rfl

theorem Pull.loads_of_run {p : Pull} {regions : RegionTable}
    (hregions : p.listing.regions = regions) (hr : p.listing.cursor.Resolves regions) :
    p.run.state.source = p.store ∧ p.after.regions = regions ∧ p.after.cursor.Resolves regions ∧
      p.listing.cache.Loads (territories p.store.reply regions) p.loads p.after.cache := by
  subst hregions
  have hsteady := Source.watched_steady (PoolStore.source_steady p.store) []
  obtain ⟨calls, hstate, hloads, hregions, hresolves⟩ := PoolListing.loads_of_next hsteady hr
  rw [Source.after_watched, List.nil_append, Source.after_of_unchanged fun _ => rfl] at hstate
  have hcalls : p.run.state.calls = calls := congrArg Watched.calls hstate
  refine ⟨congrArg Watched.source hstate, hregions, hresolves, ?_⟩
  rw [Pull.loads, hcalls]
  exact hloads

/-! ## One listing -/

/-- What stays true of a listing that is open: its cache holds what was loaded first, and so do the
record sets that it gave. -/
structure OpenListing.Consistent (regions : RegionTable) (o : OpenListing) : Prop where
  table : o.listing.regions = regions
  resolves : o.listing.cursor.Resolves regions
  cached : ∀ id, o.listing.cache.get? id = (firstLoad? o.pulls id).map regions.expand
  given : ∀ p ∈ o.pulls, ∀ r first, p.item = some (.ok r) → p.StartsWith first →
    ∃ group codes, first.group? = some group ∧ firstLoad? o.pulls group.id = some codes ∧
      r.geo? = some ⟨group.name, regions.expand codes, first.noResponse⟩

theorem run_started (regions : RegionTable) (zone : String) (selection : Selection)
    (s : PoolStore) :
    let out := (started regions zone selection).run.run s
    out.state = s ∧ ∀ l, out.answer = .ok l → OpenListing.Consistent regions ⟨l, []⟩ := by
  intro out
  have hout : out = (started regions zone selection).run.run s := rfl
  rw [started, reader, bind_assoc] at hout
  cases hz : requireText provider "zone" zone with
  | error e =>
    rw [hz, Query.run_bind_error rfl] at hout
    rw [hout]
    exact ⟨rfl, fun l h => by cases h⟩
  | ok _ =>
    rw [hz, Query.run_bind_ok rfl, pure_bind] at hout
    obtain ⟨calls, hstate, -, hlisting⟩ :=
      exists_calls_of_list PoolStore.source zone regions selection s
    rw [Source.after_of_unchanged fun _ => rfl] at hstate
    rw [hout]
    refine ⟨hstate, ?_⟩
    intro l hl
    obtain ⟨-, -, hregions, hcache, hcursor, -⟩ := hlisting l hl
    constructor
    · exact hregions
    · rw [hcursor]
      trivial
    · intro id
      rw [hcache]
      rfl
    · intro p hp
      cases hp

theorem OpenListing.Consistent.pull {regions : RegionTable} {o : OpenListing}
    (h : o.Consistent regions) (store : PoolStore) :
    let p : Pull := ⟨store, o.listing⟩
    p.run.state.source = store ∧ Consistent regions ⟨p.after, o.pulls ++ [p]⟩ := by
  intro p
  obtain ⟨hstore, htable, hresolves, hloads⟩ := Pull.loads_of_run (p := p) h.table h.resolves
  have hcached : ∀ id, p.after.cache.get? id =
      (firstLoad? (o.pulls ++ [p]) id).map regions.expand := by
    intro id
    rw [hloads id, h.cached id, firstLoad?_append, toOption_territories]
    by_cases hid : id ∈ p.loads
    · cases firstLoad? o.pulls id <;> simp [hid]
    · simp [hid]
  refine ⟨hstore, htable, hresolves, hcached, ?_⟩
  intro q hq r first hitem hfirst
  rcases List.mem_append.mp hq with hq | hq
  · obtain ⟨group, codes, hgroup, hcodes, hgeo⟩ := h.given q hq r first hitem hfirst
    refine ⟨group, codes, hgroup, ?_, hgeo⟩
    rw [firstLoad?_append, hcodes, Option.some_or]
  · obtain rfl := List.mem_singleton.mp hq
    obtain ⟨group, codes, hgroup, hcodes, hgeo⟩ := PoolListing.territories_of_next hitem hfirst
    obtain ⟨loaded, hloaded, rfl⟩ :=
      Option.map_eq_some_iff.mp ((hcached group.id).symm.trans hcodes)
    exact ⟨group, loaded, hgroup, hloaded, hgeo⟩

/-! ## Any number of listings -/

namespace Session
variable {regions : RegionTable} {s t : Session}

/-- Whether all open listings are consistent. -/
def Consistent (regions : RegionTable) (s : Session) : Prop :=
  ∀ key o, s.listings.get? key = some o → o.Consistent regions

theorem Consistent.insert (h : s.Consistent regions) {store : PoolStore} (key : String)
    {o : OpenListing} (ho : o.Consistent regions) :
    Consistent regions ⟨store, s.listings.insert key o⟩ := by
  intro k opened hk
  rw [Dict.get?_insert] at hk
  split at hk
  · exact Option.some.inj hk ▸ ho
  · exact h k opened hk

theorem Consistent.step (h : s.Consistent regions) (e : Event) :
    (s.step regions e).Consistent regions := by
  cases e with
  | change c => exact h
  | start key zone selection =>
    have hstarted := (run_started regions zone selection s.store).2
    rw [Session.step]
    split
    · rename_i l hl
      exact h.insert key (hstarted l hl)
    · exact h
  | pull key =>
    rw [Session.step]
    split
    · exact h
    · rename_i o ho
      exact h.insert key ((h key o ho).pull s.store).2

theorem ofEvents_append (regions : RegionTable) (events : List Event) (e : Event) :
    ofEvents regions (events ++ [e]) = (ofEvents regions events).step regions e :=
  List.foldl_append

theorem consistent_ofEvents (regions : RegionTable) (events : List Event) :
    (ofEvents regions events).Consistent regions := by
  induction events using List.reverseRecOn with
  | nil => exact fun _ _ h => by cases h
  | append_singleton events e ih =>
    rw [ofEvents_append]
    exact ih.step e

/-- Listings read the store and leave it as it is. -/
theorem store_step (h : s.Consistent regions) (e : Event) :
    (s.step regions e).store = match e with
      | .change c => s.store.after c
      | _ => s.store := by
  cases e with
  | change c => rfl
  | start key zone selection =>
    have hstarted := (run_started regions zone selection s.store).1
    rw [Session.step]
    dsimp only
    split
    · exact hstarted
    · exact hstarted
  | pull key =>
    rw [Session.step]
    split
    · rfl
    · rename_i o ho
      exact ((h key o ho).pull s.store).1

/-- Whether two sessions have the same store and the same listing of a key. -/
structure Agree (key : String) (s t : Session) : Prop where
  store : s.store = t.store
  listing : s.listings.get? key = t.listings.get? key

theorem Agree.step {key : String} (h : Agree key s t) (hs : s.Consistent regions)
    (ht : t.Consistent regions) {e : Event} (he : e.concerns key = true) :
    Agree key (s.step regions e) (t.step regions e) := by
  constructor
  · rw [store_step hs, store_step ht, h.store]
  · cases e with
    | change c => exact h.listing
    | start k zone selection =>
      obtain rfl : k = key := beq_iff_eq.mp he
      rw [Session.step, Session.step, h.store]
      split
      · rw [Dict.get?_insert, Dict.get?_insert]
        simp
      · exact h.listing
    | pull k =>
      obtain rfl : k = key := beq_iff_eq.mp he
      rw [Session.step, Session.step, h.store, h.listing]
      cases t.listings.get? k with
      | none => exact h.listing
      | some o => simp

theorem get?_step_of_not_concerns {key : String} {e : Event} (he : e.concerns key = false) :
    (s.step regions e).listings.get? key = s.listings.get? key := by
  cases e with
  | change c => cases he
  | start k zone selection =>
    have hk : ¬ k = key := beq_eq_false_iff_ne.mp he
    rw [Session.step]
    split
    · exact (Dict.get?_insert _ _ _ _).trans (if_neg hk)
    · rfl
  | pull k =>
    have hk : ¬ k = key := beq_eq_false_iff_ne.mp he
    rw [Session.step]
    split
    · rfl
    · exact (Dict.get?_insert _ _ _ _).trans (if_neg hk)

theorem Agree.skip {key : String} (h : Agree key s t) (hs : s.Consistent regions) {e : Event}
    (he : e.concerns key = false) : Agree key (s.step regions e) t := by
  constructor
  · rw [store_step hs]
    cases e with
    | change c => cases he
    | start k zone selection => exact h.store
    | pull k => exact h.store
  · rw [get?_step_of_not_concerns he]
    exact h.listing

/-- A listing is what it is without the events of the others. -/
theorem agree_ofEvents (regions : RegionTable) (key : String) (events : List Event) :
    Agree key (ofEvents regions events) (ofEvents regions (events.filter (·.concerns key))) := by
  induction events using List.reverseRecOn with
  | nil => exact ⟨rfl, rfl⟩
  | append_singleton events e ih =>
    have hs := consistent_ofEvents regions events
    rw [ofEvents_append, List.filter_append]
    cases he : e.concerns key with
    | true =>
      rw [List.filter_cons_of_pos he, List.filter_nil, ofEvents_append]
      exact ih.step hs (consistent_ofEvents regions _) he
    | false =>
      have hne : ¬ e.concerns key = true := by simp [he]
      rw [List.filter_cons_of_neg hne, List.filter_nil, List.append_nil]
      exact ih.skip hs he

end Session

/-- Whatever happens to a store and to the listings on it, every record set that a listing gives
comes from a run, and it has the territories that the store had for the group of the first row of
that run when this listing first loaded it, expanded. So two record sets of a listing whose runs
start with rows of one group have the same territories. Other listings leave no trace. -/
theorem listing_sees_first_loads (regions : RegionTable) (events : List Event) (key : String)
    (o : OpenListing) (ho : (Session.ofEvents regions events).listings.get? key = some o) :
    (∀ p ∈ o.pulls, ∀ r, p.item = some (.ok r) → ∃ first, p.StartsWith first) ∧
      (∀ p ∈ o.pulls, ∀ r first, p.item = some (.ok r) → p.StartsWith first →
        ∃ group codes, first.group? = some group ∧ firstLoad? o.pulls group.id = some codes ∧
          r.geo? = some ⟨group.name, regions.expand codes, first.noResponse⟩) ∧
      (∀ p ∈ o.pulls, ∀ q ∈ o.pulls, ∀ r r' first first', p.item = some (.ok r) →
        q.item = some (.ok r') → p.StartsWith first → q.StartsWith first' →
        first.group?.map GroupRef.id = first'.group?.map GroupRef.id →
        r.geo?.map GeoRoute.territories = r'.geo?.map GeoRoute.territories) ∧
      (Session.ofEvents regions (events.filter (·.concerns key))).listings.get? key = some o := by
  have hconsistent := Session.consistent_ofEvents regions events key o ho
  refine ⟨fun p _ r hitem => PoolListing.exists_runStarts hitem, hconsistent.given, ?_, ?_⟩
  · intro p hp q hq r r' first first' hr hr' hfirst hfirst' hsame
    obtain ⟨group, codes, hgroup, hcodes, hgeo⟩ := hconsistent.given p hp r first hr hfirst
    obtain ⟨group', codes', hgroup', hcodes', hgeo'⟩ :=
      hconsistent.given q hq r' first' hr' hfirst'
    rw [hgroup, hgroup'] at hsame
    have hid : group.id = group'.id := Option.some.inj hsame
    rw [hid, hcodes'] at hcodes
    rw [hgeo, hgeo', Option.some.inj hcodes]
    rfl
  · rw [← (Session.agree_ofEvents regions key events).listing]
    exact ho

/-- Two listings of one name: the territories of its group change after the first pull. -/
def changingEvents : List Event :=
  [.change (.addZone "z."),
    .change (.addRow "z." .ipv4
      { name := "a.z.", type := "A", ttl := none, values := ["192.0.2.1"],
        geoGroup := some ⟨"1", "eu"⟩ }),
    .change (.addRow "z." .ipv6
      { name := "a.z.", type := "AAAA", ttl := none, values := ["2001:db8::1"],
        geoGroup := some ⟨"1", "eu"⟩ }),
    .change (.setTerritories "1" ["Europe"]), .start "early" "z." (.named "a.z."), .pull "early",
    .change (.setTerritories "1" ["BE"]), .start "late" "z." (.named "a.z."), .pull "late",
    .pull "early"]

/-- A region of two countries. -/
def europeTable : RegionTable := ⟨.single "Europe" ["Albania", "Andorra"]⟩

/-- A record set of one address for the group of these listings. -/
def locatedSet (type address : String) (territories : List String) : RoutedRecordSet :=
  ⟨⟨"a.z.", type, none, [.single "address" (.text address)]⟩,
    .single Route.geoKind (.geo ⟨"eu", territories, false⟩)⟩

theorem listing_sees_first_loads_of_changingEvents :
    let session := Session.ofEvents europeTable changingEvents
    ∃ early late, session.listings.get? "early" = some early ∧
      session.listings.get? "late" = some late ∧
      early.pulls.map Pull.item =
        [some (.ok (locatedSet "A" "192.0.2.1" ["Albania", "Andorra"])),
          some (.ok (locatedSet "AAAA" "2001:db8::1" ["Albania", "Andorra"]))] ∧
      late.pulls.map Pull.item = [some (.ok (locatedSet "A" "192.0.2.1" ["BE"]))] ∧
      firstLoad? early.pulls "1" = some ["Europe"] ∧ firstLoad? late.pulls "1" = some ["BE"] ∧
      (∀ p ∈ early.pulls, ∀ r, p.item = some (.ok r) → ∃ first, p.StartsWith first) ∧
      (Session.ofEvents europeTable (changingEvents.filter (·.concerns "early"))).listings.get?
        "early" = some early := by
  intro session
  have hearly : (session.listings.get? "early").map (fun o =>
      (o.pulls.map Pull.item, firstLoad? o.pulls "1")) =
      some ([some (.ok (locatedSet "A" "192.0.2.1" ["Albania", "Andorra"])),
        some (.ok (locatedSet "AAAA" "2001:db8::1" ["Albania", "Andorra"]))],
        some ["Europe"]) := by decide +kernel
  have hlate : (session.listings.get? "late").map (fun o =>
      (o.pulls.map Pull.item, firstLoad? o.pulls "1")) =
      some ([some (.ok (locatedSet "A" "192.0.2.1" ["BE"]))], some ["BE"]) := by decide +kernel
  obtain ⟨early, ho, hgiven⟩ := Option.map_eq_some_iff.mp hearly
  obtain ⟨late, ho', hgiven'⟩ := Option.map_eq_some_iff.mp hlate
  obtain ⟨hitems, hfirst⟩ := Prod.mk.inj hgiven
  obtain ⟨hitems', hfirst'⟩ := Prod.mk.inj hgiven'
  obtain ⟨hstarts, -, -, halone⟩ := listing_sees_first_loads europeTable changingEvents "early"
    early ho
  exact ⟨early, late, ho, ho', hitems, hitems', hfirst, hfirst', hstarts, halone⟩

end GeoRouting.Pool
