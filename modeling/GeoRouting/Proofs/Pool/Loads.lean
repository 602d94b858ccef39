import GeoRouting.Proofs.Pool.Course

/-!
# What a pull loads into the cache

The cache of a listing only grows: a pull adds the groups that it loads, with what the table of the
backend makes of them at that time, and leaves the entries it has. A record set that a pull gives
has the territories that the cache then holds for the group of the first row of its run.
-/

namespace GeoRouting

namespace TerritoryCache
variable {territories : String → Except GeoError (List String)} {cache after last : TerritoryCache}
  {ids more : List String}

/-- Whether a cache keeps the entries of another one and has, besides, what loads of some ids come
to. A load that fails adds nothing. -/
def Loads (territories : String → Except GeoError (List String)) (cache : TerritoryCache)
    (ids : List String) (after : TerritoryCache) : Prop :=
  ∀ id, after.get? id =
    (cache.get? id).or (if id ∈ ids then (territories id).toOption else none)

theorem loads_nil : Loads territories cache [] cache := by simp [Loads]

theorem Loads.trans (h : Loads territories cache ids after)
    (h' : Loads territories after more last) : Loads territories cache (ids ++ more) last := by
  intro id
  rw [h' id, h id, Option.or_assoc]
  by_cases hid : id ∈ ids
  · by_cases hmore : id ∈ more <;> simp [hid, hmore]
  · simp [hid]

section
variable {σ : Type} {load : TerritorySource σ} {data : String → Except GeoError (List String)}
  {regions : Option RegionTable} {s : σ}

theorem loads_of_resolve (hs : load.Steady data s) (id : String) :
    Loads (resolved regions data) cache (cache.missing id)
      ((cache.resolve load regions id).run s).answer.2 := by
  rw [missing, Dict.contains_eq_isSome]
  cases hc : cache.get? id with
  | some kept =>
    rw [run_resolve_hit hc]
    exact loads_nil
  | none =>
    rw [run_resolve_miss hc, hs.answer]
    intro key
    change (cache.keeping id (resolved regions data id)).get? key = _
    by_cases hk : id = key
    · subst hk
      cases resolved regions data id with
      | error e => simp [keeping, hc, Except.toOption]
      | ok codes => simp [keeping, hc, Except.toOption]
    · cases resolved regions data id with
      | error e => simp [keeping, Ne.symm hk]
      | ok codes => simp [keeping, hk, Ne.symm hk]

/-- What a group is resolved to is in the cache afterwards. -/
theorem get?_of_resolve {id : String} {codes : List String}
    (h : ((cache.resolve load regions id).run s).answer.1 = .ok codes) :
    ((cache.resolve load regions id).run s).answer.2.get? id = some codes := by
  cases hc : cache.get? id with
  | some kept =>
    rw [run_resolve_hit hc] at h ⊢
    rw [← Except.ok.inj h]
    exact hc
  | none =>
    rw [run_resolve_miss hc] at h ⊢
    dsimp only at h ⊢
    rw [h, keeping, Dict.get?_insert, if_pos rfl]

end

end TerritoryCache

open TerritoryCache (Loads loads_nil resolved)

namespace Run
variable {σ : Type} {provider : String} {load : TerritorySource σ}
  {data : String → Except GeoError (List String)} {regions : Option RegionTable}
  {cache : TerritoryCache} {first : Row} {source : List Row} {s : σ}

theorem loads_build (hs : load.Steady data s) :
    Loads (resolved regions data) cache (first.missing cache)
      ((build provider load regions cache first source).run s).answer.2.1 := by
  rw [Row.missing]
  cases hgroup : first.group? with
  | none =>
    rw [build, hgroup]
    exact loads_nil
  | some group =>
    rw [(cache_state_build hgroup).1]
    exact TerritoryCache.loads_of_resolve hs group.id

/-- A record set that is built has the territories that the cache then holds for the group of its
first row. -/
theorem territories_of_build {r : RoutedRecordSet}
    (h : ((build provider load regions cache first source).run s).answer.1 = .ok r) :
    ∃ group codes, first.group? = some group ∧
      ((build provider load regions cache first source).run s).answer.2.1.get? group.id =
        some codes ∧
      r.geo? = some ⟨group.name, codes, first.noResponse⟩ := by
  obtain ⟨group, codes, hgroup, hcodes, -, -, -, rfl⟩ :=
    item_eq_ok.mp ((build_item provider load regions cache first source s).symm.trans h)
  refine ⟨group, codes, hgroup, ?_, rfl⟩
  rw [(cache_state_build hgroup).1]
  exact TerritoryCache.get?_of_resolve hcodes

end Run

theorem Grouping.loads_next {σ : Type} {load : TerritorySource σ}
    {data : String → Except GeoError (List String)} {cache : TerritoryCache} {g : Grouping} {s : σ}
    (hs : load.Steady data s) :
    Loads (resolved g.regions data) cache (g.missing cache)
      ((g.next load cache).run s).answer.2.1 := by
  rw [next, missing]
  cases g.failed with
  | true => exact loads_nil
  | false =>
    rw [if_neg Bool.false_ne_true, if_neg Bool.false_ne_true]
    cases g.rows.next? with
    | none => exact loads_nil
    | some p => exact Run.loads_build hs

theorem Grouping.regions_next {σ : Type} (load : TerritorySource σ) (cache : TerritoryCache)
    (g : Grouping) (s : σ) : ((g.next load cache).run s).answer.2.2.regions = g.regions := by
  rw [next]
  split
  · rfl
  · split <;> rfl

namespace BucketCursor
variable {σ : Type} {source : PoolSource σ} {data : (c : PoolCall) → Except GeoError c.Reply}
  {regions : RegionTable} {cache : TerritoryCache} {c : BucketCursor} {s : σ}

theorem loads_next (hs : source.Steady data s) (hr : c.Resolves regions) :
    Loads (Pool.territories data regions) cache (c.missing cache)
      ((c.next source cache).run s).answer.2.1 := by
  cases c with
  | idle => exact loads_nil
  | broken e => exact loads_nil
  | rows g =>
    have hloads := @Grouping.loads_next _ _ _ cache g s (PoolSource.territories_steady hs)
    rw [show g.regions = some regions from hr] at hloads
    exact hloads

theorem resolves_next (hr : c.Resolves regions) :
    ((c.next source cache).run s).answer.2.2.Resolves regions := by
  cases c with
  | idle => trivial
  | broken e => trivial
  | rows g => exact (Grouping.regions_next source.territories cache g s).trans hr

theorem resolves_fetch (zone : String) (b : String × Bucket) :
    ((fetch source zone regions b.1 b.2).run s).answer.Resolves regions := by
  simp only [fetch, Act.run_bind]
  split
  · rfl
  · trivial

end BucketCursor

namespace PoolListing
variable {σ : Type} {source : PoolSource σ} {data : (c : PoolCall) → Except GeoError c.Reply}
  {l m : PoolListing} {s t : σ} {calls : List PoolCall}

open BucketCursor

theorem Skips.loads (h : Skips source l s calls m t) (hs : source.Steady data s)
    (hr : l.cursor.Resolves l.regions) :
    Loads (Pool.territories data l.regions) l.cache (PoolCall.loads calls) m.cache ∧
      m.cursor.Resolves l.regions ∧ source.Steady data t := by
  induction h with
  | stay l s => exact ⟨loads_nil, hr, hs⟩
  | @drop l m s t calls item given unkept _ ih =>
    have hstate := @state_next σ source l.cache l.cursor s
    obtain ⟨hloads, hrest⟩ := ih (hs.of_reaches ⟨_, hstate.symm⟩) (resolves_next hr)
    rw [PoolCall.loads_append, PoolCall.loads_territories]
    exact ⟨(loads_next hs hr).trans hloads, hrest⟩
  | @turn l m s t calls b pending ended left _ ih =>
    have hstate := @state_fetch σ source s l.zone l.regions b
    exact ih (hs.of_reaches ⟨_, hstate.symm⟩) (resolves_fetch l.zone b)

/-- A pull leaves what its advance leaves, and notes whether an error was given. -/
theorem exists_failed_of_next (source : PoolSource σ) (l : PoolListing) (s : σ) :
    let out := (advance source l l.cache l.cursor l.pending).run s
    ((next source l).run s).state = out.state ∧
      ∃ failed, ((next source l).run s).answer.2 = { out.answer.2 with failed } := by
  cases hf : l.failed with
  | true =>
    rw [next_of_failed hf]
    exact ⟨rfl, _, rfl⟩
  | false =>
    rw [next_of_not_failed hf]
    exact ⟨rfl, _, rfl⟩

/-- What a pull asks for and what is in the cache afterwards. -/
theorem loads_of_next (hs : source.Steady data s) (hr : l.cursor.Resolves l.regions) :
    let out := (next source l).run s
    ∃ calls, out.state = source.after calls s ∧
      Loads (Pool.territories data l.regions) l.cache (PoolCall.loads calls) out.answer.2.cache ∧
      out.answer.2.regions = l.regions ∧ out.answer.2.cursor.Resolves l.regions := by
  obtain ⟨calls, m, t, hskips, hstate, -, hlisting, -⟩ :=
    exists_skips_of_advance source l l.cache l.cursor l.pending s
  obtain ⟨hloads, hresolves, hsteady⟩ := hskips.loads hs hr
  obtain ⟨-, hregions, -⟩ := hskips.scope_eq
  obtain ⟨hstate', failed, hnext⟩ := exists_failed_of_next source l s
  refine ⟨calls ++ (m.cursor.missing m.cache).map PoolCall.territories, ?_, ?_, ?_, ?_⟩
  · rw [hstate', hstate, state_next, hskips.state_eq, ← Source.after_append]
  · rw [hnext, hlisting, PoolCall.loads_append, PoolCall.loads_territories]
    exact hloads.trans (BucketCursor.loads_next hsteady hresolves)
  · rw [hnext, hlisting]
    exact hregions
  · rw [hnext, hlisting]
    dsimp only
    split
    · exact resolves_next hresolves
    · trivial

/-! ### The run of an item -/

/-- Where a listing stands does not change how it moves on from elsewhere. -/
theorem advance_of_moved (source : PoolSource σ) (l : PoolListing) (stood : TerritoryCache)
    (place : BucketCursor) (left : List (String × Bucket)) (cache : TerritoryCache)
    (cursor : BucketCursor) (pending : List (String × Bucket)) :
    advance source { l with cache := stood, cursor := place, pending := left } cache cursor
      pending = advance source l cache cursor pending := by
  induction pending generalizing cache cursor with
  | nil => rfl
  | cons b pending ih => simp only [advance, ih]

theorem advance_congr {cache cache' : TerritoryCache} {cursor cursor' : BucketCursor}
    (hanswer : ((cursor.nextKept source l.only cache).run s).answer =
      ((cursor'.nextKept source l.only cache').run t).answer)
    (hstate : ((cursor.nextKept source l.only cache).run s).state =
      ((cursor'.nextKept source l.only cache').run t).state) (pending : List (String × Bucket)) :
    ((advance source l cache cursor pending).run s).answer =
        ((advance source l cache' cursor' pending).run t).answer ∧
      ((advance source l cache cursor pending).run s).state =
        ((advance source l cache' cursor' pending).run t).state := by
  cases pending with
  | nil =>
    simp only [advance, Act.run_bind, Act.run_pure, hanswer, hstate]
    exact ⟨trivial, trivial⟩
  | cons b pending =>
    simp only [advance, Act.run_bind, hanswer, hstate]
    exact ⟨trivial, trivial⟩

theorem answer_advance_of_kept {cache cache' : TerritoryCache} {cursor cursor' : BucketCursor}
    {item : Item}
    (h : ((cursor.nextKept source l.only cache).run s).answer = (some item, cache', cursor'))
    (pending : List (String × Bucket)) :
    ((advance source l cache cursor pending).run s).answer =
      (some item, { l with cache := cache', cursor := cursor', pending }) := by
  cases pending with
  | nil =>
    simp only [advance, Act.run_bind, Act.run_pure, h]
    rfl
  | cons b pending =>
    simp only [advance, Act.run_bind, h]
    rfl

/-- What a listing goes past on its way to an item does not change the item. -/
theorem Skips.advance_eq (h : Skips source l s calls m t) :
    let out := (advance source l l.cache l.cursor l.pending).run s
    let rest := (advance source m m.cache m.cursor m.pending).run t
    out.answer = rest.answer ∧ out.state = rest.state := by
  induction h with
  | stay l s => exact ⟨rfl, rfl⟩
  | @drop l m s t calls item given unkept _ ih =>
    obtain ⟨hanswer, hstate⟩ := run_nextKept_of_not_keeps given unkept
    rw [advance_of_moved] at ih
    obtain ⟨hskipped, hskipped'⟩ := advance_congr hanswer hstate l.pending
    exact ⟨hskipped.trans ih.1, hskipped'.trans ih.2⟩
  | @turn l m s t calls b pending ended left _ ih =>
    rw [advance_of_moved] at ih
    have hturn : (advance source l l.cache l.cursor l.pending).run s =
        (advance source l l.cache l.cursor (b :: pending)).run s := by rw [left]
    rw [hturn, advance, Act.run_bind, nextKept_of_over ended]
    exact ih

/-- Whether the run of the next kept item, whether it can be built or not, starts with a row. -/
def RunStarts (source : PoolSource σ) (l : PoolListing) (s : σ) (first : Row) : Prop :=
  ∃ calls m t g rest, Skips source l s calls m t ∧ m.cursor = .rows g ∧ g.failed = false ∧
    g.rows.toList = first :: rest ∧
    ∀ item ∈ ((m.cursor.next source m.cache).run t).answer.1, keeps m.only item = true

theorem not_failed_of_given {item : Item} (h : ((next source l).run s).answer.1 = some item) :
    l.failed = false := by
  cases hf : l.failed with
  | false => rfl
  | true =>
    rw [next_of_failed hf] at h
    cases h

/-- Every record set that a pull gives is that of a run. -/
theorem exists_runStarts {r : RoutedRecordSet}
    (h : ((next source l).run s).answer.1 = some (.ok r)) :
    ∃ first, RunStarts source l s first := by
  rw [next_of_not_failed (not_failed_of_given h)] at h
  obtain ⟨calls, m, t, hskips, -, hitem, -, -, hkept⟩ :=
    exists_skips_of_advance source l l.cache l.cursor l.pending s
  have honly := hskips.scope_eq.2.2.1
  rw [hitem] at hkept
  have hgiven : ((m.cursor.next source m.cache).run t).answer.1 = some (.ok r) :=
    hitem.symm.trans h
  cases hcursor : m.cursor with
  | idle =>
    rw [hcursor] at hgiven
    cases hgiven
  | broken e =>
    rw [hcursor] at hgiven
    cases hgiven
  | rows g =>
    have hopen : ¬ m.cursor.Over := by
      intro hover
      rw [BucketCursor.next_of_over hover] at hgiven
      cases hgiven
    rw [hcursor] at hopen
    obtain ⟨hfailed, hrows⟩ := not_or.mp hopen
    obtain ⟨first, rest, hrows⟩ := List.exists_cons_of_ne_nil hrows
    exact ⟨first, calls, m, t, g, rest, hskips, hcursor, Bool.eq_false_iff.mpr hfailed, hrows,
      honly ▸ hkept⟩

/-- A record set that a pull gives has the territories that the cache then holds for the group of
the first row of its run. -/
theorem territories_of_next {r : RoutedRecordSet} {first : Row}
    (h : ((next source l).run s).answer.1 = some (.ok r)) (hfirst : RunStarts source l s first) :
    ∃ group codes, first.group? = some group ∧
      ((next source l).run s).answer.2.cache.get? group.id = some codes ∧
      r.geo? = some ⟨group.name, codes, first.noResponse⟩ := by
  obtain ⟨calls, m, t, g, rest, hskips, hcursor, hfailed, hrows, hkept⟩ := hfirst
  obtain ⟨hadvance, -⟩ := hskips.advance_eq
  have hbuilt : ((m.cursor.next source m.cache).run t).answer =
      (some ((Run.build g.provider source.territories g.regions m.cache first rest).run t).answer.1,
        ((Run.build g.provider source.territories g.regions m.cache first rest).run t).answer.2.1,
        ((m.cursor.next source m.cache).run t).answer.2.2) := by
    rw [hcursor, BucketCursor.next, Act.run_bind, Grouping.run_next_of_cons hfailed hrows]
    rfl
  have hreached := answer_advance_of_kept ((run_nextKept_of_keeps hkept).1.trans hbuilt) m.pending
  have hf : l.failed = false := not_failed_of_given h
  rw [next_of_not_failed hf] at h ⊢
  simp only [hadvance, hreached] at h ⊢
  exact Run.territories_of_build (Option.some.inj h)

end PoolListing

end GeoRouting
