import GeoRouting.Proofs.Row.Drain
import GeoRouting.Proofs.ZoneCheck

/-!
# What a listing of directional pools gives

Over a backend whose data does not change, a listing has a fixed sequence of items left: those of
the bucket it is in, then those of the buckets it has not reached, cut after the first error. The
cache that all buckets share shows in none of them. Each pull takes the first of the items off.
-/

namespace GeoRouting

/-- What groups resolve to over the data of a pool backend. -/
def Pool.territories (data : (c : PoolCall) → Except GeoError c.Reply) (regions : RegionTable) :
    String → Except GeoError (List String) :=
  TerritoryCache.resolved (some regions) fun id => data (.territories id)

namespace BucketCursor
variable {σ : Type}

theorem filter_keeps_none (items : List Item) :
    items.filter (keeps none) = items := by
  apply List.filter_eq_self.mpr
  rintro (_ | _) -
  · rfl
  · rfl

/-- The items that a bucket still has, of all record types. -/
def remaining (territories : String → Except GeoError (List String)) :
    BucketCursor → List Item
  | .idle => []
  | .rows g => g.remaining territories
  | .broken e => [.error e]

/-- Whether the groups of a bucket are resolved by a region table. -/
def Resolves (regions : RegionTable) : BucketCursor → Prop
  | .rows g => g.regions = some regions
  | _ => True

/-- What stays true while a listing goes on. -/
structure Sound (source : PoolSource σ) (data : (c : PoolCall) → Except GeoError c.Reply)
    (regions : RegionTable) (cache : TerritoryCache) (c : BucketCursor) (s : σ) : Prop where
  steady : source.Steady data s
  holds : cache.Holds (Pool.territories data regions)
  resolves : c.Resolves regions

section
variable {source : PoolSource σ} {data : (c : PoolCall) → Except GeoError c.Reply}
  {regions : RegionTable} {cache : TerritoryCache} {c : BucketCursor} {s : σ}

theorem next_sound (h : c.Sound source data regions cache s) :
    let out := (c.next source cache).run s
    let left := c.remaining (Pool.territories data regions)
    out.answer.2.2.Sound source data regions out.answer.2.1 out.state ∧
      out.answer.1 = left.head? ∧
      out.answer.2.2.remaining (Pool.territories data regions) = left.tail := by
  obtain ⟨hs, hc, hr⟩ := h
  cases c with
  | idle => exact ⟨⟨hs, hc, hr⟩, rfl, rfl⟩
  | broken e => exact ⟨⟨hs, hc, trivial⟩, rfl, rfl⟩
  | rows g =>
    have hg : TerritoryCache.resolved g.regions (fun id => data (.territories id)) =
        Pool.territories data regions := by
      rw [show g.regions = some regions from hr]
      rfl
    have hn := Grouping.next_steady (PoolSource.territories_steady hs) (hg ▸ hc)
    rw [hg] at hn
    obtain ⟨hreach, hholds, hregions, hitem, hrest⟩ := hn
    refine ⟨⟨?_, hholds, ?_⟩, hitem, hrest⟩
    · exact hs.of_reaches (PoolSource.reaches_of_territories hreach)
    · exact hregions.trans hr

theorem run_nextKept_of_keeps {only : Option String}
    (h : ∀ item ∈ ((c.next source cache).run s).answer.1, keeps only item = true) :
    ((c.nextKept source only cache).run s).answer = ((c.next source cache).run s).answer ∧
      ((c.nextKept source only cache).run s).state = ((c.next source cache).run s).state := by
  rw [nextKept]
  dsimp only
  split <;> rename_i hnext
  · rw [hnext]
    exact ⟨rfl, rfl⟩
  · rw [hnext] at h ⊢
    rw [if_pos (h _ rfl)]
    exact ⟨rfl, rfl⟩

theorem run_nextKept_of_not_keeps {only : Option String} {item : Item}
    (hi : ((c.next source cache).run s).answer.1 = some item) (hk : keeps only item = false) :
    let out := (c.next source cache).run s
    let rest := (out.answer.2.2.nextKept source only out.answer.2.1).run out.state
    ((c.nextKept source only cache).run s).answer = rest.answer ∧
      ((c.nextKept source only cache).run s).state = rest.state := by
  rw [nextKept]
  dsimp only
  split <;> rename_i hnext
  · rw [hnext] at hi
    cases hi
  · rw [hnext] at hi ⊢
    cases Option.some.inj hi
    rw [if_neg (by rw [hk]; exact Bool.false_ne_true)]
    exact ⟨rfl, rfl⟩

theorem nextKept_sound (h : c.Sound source data regions cache s) (only : Option String) :
    let out := (c.nextKept source only cache).run s
    let left := (c.remaining (Pool.territories data regions)).filter (keeps only)
    out.answer.2.2.Sound source data regions out.answer.2.1 out.state ∧
      out.answer.1 = left.head? ∧
      (out.answer.2.2.remaining (Pool.territories data regions)).filter (keeps only) =
        left.tail := by
  generalize hitems : c.remaining (Pool.territories data regions) = items
  intro out left
  induction items generalizing c cache s with
  | nil =>
    obtain ⟨hsound, hitem, hrest⟩ := next_sound h
    rw [hitems] at hitem hrest
    have hall : ∀ i ∈ ((c.next source cache).run s).answer.1, keeps only i = true := by
      rw [hitem]
      intro i hi
      cases hi
    obtain ⟨ha, hst⟩ := run_nextKept_of_keeps hall
    rw [ha, hst, hitem, hrest]
    exact ⟨hsound, rfl, rfl⟩
  | cons item items ih =>
    obtain ⟨hsound, hitem, hrest⟩ := next_sound h
    rw [hitems] at hitem hrest
    cases hkeep : keeps only item with
    | true =>
      have hall : ∀ i ∈ ((c.next source cache).run s).answer.1, keeps only i = true := by
        rw [hitem]
        intro i hi
        exact Option.some.inj hi ▸ hkeep
      obtain ⟨ha, hst⟩ := run_nextKept_of_keeps hall
      have hleft : left = item :: items.filter (keeps only) := List.filter_cons_of_pos hkeep
      rw [ha, hst, hitem, hrest, hleft]
      exact ⟨hsound, rfl, rfl⟩
    | false =>
      obtain ⟨ha, hst⟩ := run_nextKept_of_not_keeps hitem hkeep
      have hleft : left = items.filter (keeps only) :=
        List.filter_cons_of_neg (by rw [hkeep]; exact Bool.false_ne_true)
      rw [ha, hst, hleft]
      exact ih hsound hrest

/-- The items of one bucket of a name. -/
def bucketItems (data : (c : PoolCall) → Except GeoError c.Reply) (zone : String)
    (regions : RegionTable) (b : String × Bucket) : List Item :=
  match data (.rows zone b.1 b.2) with
  | .error e => [.error e]
  | .ok fetched =>
    Item.upToError (Run.items Pool.provider (Pool.territories data regions) (Row.sort fetched))

theorem fetch_sound (hs : source.Steady data s)
    (hc : cache.Holds (Pool.territories data regions)) (zone : String) (b : String × Bucket) :
    let out := (fetch source zone regions b.1 b.2).run s
    out.answer.Sound source data regions cache out.state ∧
      out.answer.remaining (Pool.territories data regions) =
        bucketItems data zone regions b := by
  have ha := hs.answer (.rows zone b.1 b.2)
  have hafter := hs.of_reaches (Source.reaches_call (.rows zone b.1 b.2) s)
  rw [fetch, bucketItems]
  simp only [Act.run_bind, Act.run_say, Source.run_ask, ha]
  cases data (.rows zone b.1 b.2) with
  | error e => exact ⟨⟨hafter, hc, trivial⟩, rfl⟩
  | ok rows => exact ⟨⟨hafter, hc, rfl⟩, rfl⟩

end

end BucketCursor

namespace PoolListing
variable {σ : Type}

open BucketCursor

/-- The items of the buckets that a listing has not finished, errors behind errors included. -/
def upcoming (data : (c : PoolCall) → Except GeoError c.Reply) (l : PoolListing) : List Item :=
  (l.cursor.remaining (Pool.territories data l.regions)).filter (keeps l.only) ++
    l.pending.flatMap fun b => (bucketItems data l.zone l.regions b).filter (keeps l.only)

/-- The items that a listing still has to give. -/
def remaining (data : (c : PoolCall) → Except GeoError c.Reply) (l : PoolListing) : List Item :=
  if l.failed then [] else Item.upToError (l.upcoming data)

theorem eq_nil_of_remaining_error {data : (c : PoolCall) → Except GeoError c.Reply}
    {l : PoolListing} {e : GeoError} {items : List Item}
    (h : l.remaining data = .error e :: items) : items = [] := by
  unfold remaining at h
  split at h
  · cases h
  · exact Item.eq_nil_of_upToError_error h

/-- What stays true while a listing goes on. -/
def Sound (source : PoolSource σ) (data : (c : PoolCall) → Except GeoError c.Reply)
    (l : PoolListing) (s : σ) : Prop :=
  l.cursor.Sound source data l.regions l.cache s

section
variable {source : PoolSource σ} {data : (c : PoolCall) → Except GeoError c.Reply} {s : σ}

theorem advance_sound (l : PoolListing) {cache : TerritoryCache} {cursor : BucketCursor}
    (h : cursor.Sound source data l.regions cache s) (pending : List (String × Bucket)) :
    let out := (advance source l cache cursor pending).run s
    let left := { l with cache, cursor, pending }.upcoming data
    out.answer.2.Sound source data out.state ∧ out.answer.2.failed = l.failed ∧
      out.answer.1 = left.head? ∧ out.answer.2.upcoming data = left.tail := by
  induction pending generalizing cache cursor s with
  | nil =>
    obtain ⟨hsound, hitem, hrest⟩ := nextKept_sound h l.only
    unfold upcoming
    simp only [advance, Act.run_bind, Act.run_pure, List.flatMap_nil, List.append_nil]
    rw [hitem]
    cases hleft : (cursor.remaining (Pool.territories data l.regions)).filter (keeps l.only) with
    | nil => exact ⟨⟨hsound.steady, hsound.holds, trivial⟩, trivial, rfl, rfl⟩
    | cons item items =>
      rw [hleft] at hrest
      exact ⟨hsound, trivial, rfl, hrest⟩
  | cons b pending ih =>
    obtain ⟨hsound, hitem, hrest⟩ := nextKept_sound h l.only
    unfold upcoming
    simp only [advance, Act.run_bind, List.flatMap_cons]
    rw [hitem]
    cases hleft : (cursor.remaining (Pool.territories data l.regions)).filter (keeps l.only) with
    | nil =>
      obtain ⟨hfetch, hbucket⟩ := fetch_sound hsound.steady hsound.holds l.zone b
      have hnext := ih hfetch
      unfold upcoming at hnext
      rw [hbucket] at hnext
      exact hnext
    | cons item items =>
      rw [hleft] at hrest
      refine ⟨hsound, rfl, rfl, ?_⟩
      exact congrArg (· ++ _) hrest

theorem next_sound {l : PoolListing} (h : l.Sound source data s) :
    let out := (next source l).run s
    out.answer.2.Sound source data out.state ∧ out.answer.1 = (l.remaining data).head? ∧
      out.answer.2.remaining data = (l.remaining data).tail := by
  obtain ⟨hsound, hfailed, hitem, hrest⟩ := advance_sound l h l.pending
  have hl : ({ l with cache := l.cache, cursor := l.cursor, pending := l.pending } : PoolListing) =
      l := rfl
  rw [hl] at hitem hrest
  rw [next]
  simp only [Act.run_bind]
  generalize (advance source l l.cache l.cursor l.pending).run s = advanced at *
  obtain ⟨⟨item, after⟩, t, log⟩ := advanced
  dsimp only at *
  by_cases hf : l.failed = true
  · rw [hf] at hfailed
    rw [if_pos hf, remaining, if_pos hf]
    refine ⟨hsound, rfl, ?_⟩
    change after.remaining data = []
    rw [remaining, if_pos hfailed]
  · rw [if_neg hf, remaining, if_neg hf, hitem]
    rw [← hfailed] at hf
    cases hleft : l.upcoming data with
    | nil =>
      rw [hleft] at hrest
      refine ⟨hsound, rfl, ?_⟩
      change after.remaining data = []
      rw [remaining, if_neg hf, hrest]
      rfl
    | cons item items =>
      rw [hleft] at hrest
      cases item with
      | error e => exact ⟨hsound, rfl, rfl⟩
      | ok r => exact ⟨hsound, rfl, congrArg Item.upToError hrest⟩

theorem pulls (source : PoolSource σ) (data : (c : PoolCall) → Except GeoError c.Reply) :
    Item.Pulls (next source) (fun l s => l.Sound source data s) (remaining data) where
  step := fun _ _ h => next_sound h
  cut := fun _ _ _ h => eq_nil_of_remaining_error h

theorem answer_drain (source : PoolSource σ) (l : PoolListing) (s : σ) :
    let out := (next source l).run s
    ((drain source l).run s).answer =
      match out.answer.1 with
      | none => []
      | some (.error e) => [.error e]
      | some (.ok r) => .ok r :: ((drain source out.answer.2).run out.state).answer := by
  rw [drain]
  dsimp only
  split <;> rename_i h <;> rw [h]

theorem drain_sound {l : PoolListing} (h : l.Sound source data s) :
    ((drain source l).run s).answer = l.remaining data :=
  (pulls source data).answer_drain (answer_drain source) h

end

end PoolListing

/-! ## By selection -/

namespace Pool
variable {σ : Type}

/-- All items of a selection up to the end or the first error. -/
def items (source : PoolSource σ) (zone : String) (regions : RegionTable)
    (selection : Selection) : Query σ (List Item) := do
  let l ← list source zone regions selection
  ExceptT.lift (l.drain source)

/-- The listing that a checked selection starts in a zone that is there. -/
def planned (data : (c : PoolCall) → Except GeoError c.Reply) (zone : String)
    (regions : RegionTable) : Selection → Except GeoError PoolListing
  | .all =>
    (data (.pools zone)).map fun pools =>
      { zone, regions, only := none, pending := geoBuckets pools }
  | .named name => .ok { zone, regions, only := none, pending := bucketsOf Bucket.all name }
  | .typed name type =>
    .ok { zone, regions, only := some type, pending := bucketsOf (Bucket.holding type) name }

section
variable {source : PoolSource σ} {data : (c : PoolCall) → Except GeoError c.Reply} {s : σ}
  {zone : String} {regions : RegionTable}

theorem run_requireZone (hs : source.Steady data s) (hz : data (.zoneExists zone) = .ok true) :
    ((requireZone source zone).run.run s).answer = .ok () ∧
      source.Reaches s ((requireZone source zone).run.run s).state := by
  rw [run_requireZone_eq, hs.answer (.zoneExists zone), hz]
  exact ⟨rfl, Source.reaches_call _ s⟩

theorem list_steady (hs : source.Steady data s) (hz : data (.zoneExists zone) = .ok true)
    {selection checked : Selection} (hc : selection.check provider = .ok checked)
    (regions : RegionTable) :
    let out := (list source zone regions selection).run.run s
    out.answer = planned data zone regions checked ∧ source.Reaches s out.state := by
  have hcheck : ((Query.ofExcept (selection.check provider) : Query σ Selection).run.run
      s).answer = .ok checked := hc
  obtain ⟨hzone, hreach⟩ := run_requireZone hs hz
  rw [list, Query.run_bind_ok hcheck, Query.run_ofExcept]
  dsimp only
  rw [Query.run_bind_ok hzone]
  generalize ((requireZone source zone).run.run s).state = t at hreach ⊢
  have ht := hs.of_reaches hreach
  cases checked with
  | all =>
    dsimp only [planned]
    rw [Query.run_bind_ok rfl, Query.run_say]
    have ha := ht.answer (.pools zone)
    cases hp : data (.pools zone) with
    | error e =>
      rw [hp] at ha
      rw [Query.run_bind_error (e := e) (by rw [Source.run_ask, ha])]
      exact ⟨rfl, hreach.trans (Source.reaches_call _ t)⟩
    | ok pools =>
      rw [hp] at ha
      rw [Query.run_bind_ok (a := pools) (by rw [Source.run_ask, ha])]
      exact ⟨rfl, hreach.trans (Source.reaches_call _ t)⟩
  | named name => exact ⟨rfl, hreach⟩
  | typed name type =>
    dsimp only [planned]
    split
    · exact ⟨rfl, hreach⟩
    · exact ⟨rfl, hreach⟩

theorem planned_sound (hs : source.Steady data s) {selection : Selection} {l : PoolListing}
    (h : planned data zone regions selection = .ok l) : l.Sound source data s := by
  have hidle : ∀ only pending, ({ zone, regions, only, pending } : PoolListing).Sound source
      data s := fun _ _ => ⟨hs, TerritoryCache.holds_empty, trivial⟩
  cases selection with
  | all =>
    unfold planned at h
    cases hp : data (.pools zone) with
    | error e =>
      rw [hp] at h
      cases h
    | ok pools =>
      rw [hp] at h
      cases h
      exact hidle none _
  | named name =>
    cases h
    exact hidle none _
  | typed name type =>
    cases h
    exact hidle (some type) _

/-- A listing gives the items of the buckets that its selection names. -/
theorem items_steady (hs : source.Steady data s) (hz : data (.zoneExists zone) = .ok true)
    {selection checked : Selection} (hc : selection.check provider = .ok checked) :
    ((items source zone regions selection).run.run s).answer =
      (planned data zone regions checked).map (PoolListing.remaining data) := by
  obtain ⟨ha, hreach⟩ := list_steady hs hz hc regions
  rw [items]
  cases hp : planned data zone regions checked with
  | error e =>
    rw [hp] at ha
    rw [Query.run_bind_error ha]
    rfl
  | ok l =>
    rw [hp] at ha
    rw [Query.run_bind_ok ha, Query.run_lift]
    exact congrArg Except.ok (PoolListing.drain_sound (planned_sound (hs.of_reaches hreach) hp))

theorem items_named_steady (hs : source.Steady data s)
    (hz : data (.zoneExists zone) = .ok true) {name : String} (hn : Text.isBlank name = false) :
    ((items source zone regions (.named name)).run.run s).answer =
      .ok (Item.upToError
        ((bucketsOf Bucket.all name).flatMap fun b =>
          (BucketCursor.bucketItems data zone regions b).filter (BucketCursor.keeps none))) := by
  rw [items_steady hs hz (Selection.check_named hn)]
  rfl

theorem items_typed_steady (hs : source.Steady data s)
    (hz : data (.zoneExists zone) = .ok true) {name type : String}
    (hn : Text.isBlank name = false) (ht : Text.isBlank type = false) :
    ((items source zone regions (.typed name type)).run.run s).answer =
      .ok (Item.upToError
        ((bucketsOf (Bucket.holding (Text.upper type)) name).flatMap fun b =>
          (BucketCursor.bucketItems data zone regions b).filter
            (BucketCursor.keeps (some (Text.upper type))))) := by
  rw [items_steady hs hz (Selection.check_typed hn ht)]
  rfl

end

end Pool

end GeoRouting
