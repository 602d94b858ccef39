import GeoRouting.Pool.Source
import GeoRouting.Row.Grouping

/-!
# Listings of directional pools

A listing visits the buckets of its pools in order. The rows of a bucket are fetched when
the bucket is reached, sorted by type and group, and grouped; all buckets share the cache of
territories of their listing. After an error a listing gives nothing more, but every further
pull still moves on through the buckets that are left.
-/

namespace GeoRouting

/-- The bucket that a listing is in. -/
inductive BucketCursor where
  /-- Before the first bucket or after the last. -/
  | idle
  | rows (g : Grouping)
  /-- The rows could not be fetched; the error is still to be given. -/
  | broken (e : GeoError)
deriving DecidableEq, Repr

/-- A listing in progress. -/
structure PoolListing where
  zone : String
  regions : RegionTable
  /-- The record type that is kept, if not all are. -/
  only : Option String
  cache : TerritoryCache := .empty
  cursor : BucketCursor := .idle
  /-- The buckets not reached yet, each with the name of its pool. -/
  pending : List (String × Bucket)
  /-- An error was given. -/
  failed : Bool := false
deriving DecidableEq, Repr

namespace BucketCursor
variable {σ : Type}

/-- The rows, or the error, that are left. -/
def size : BucketCursor → Nat
  | .idle => 0
  | .rows g => g.rows.size
  | .broken _ => 1

/-- The next item of the bucket. -/
def next (source : PoolSource σ) (cache : TerritoryCache) :
    BucketCursor → Act σ (Option Item × TerritoryCache × BucketCursor)
  | .idle => return (none, cache, .idle)
  | .broken e => return (some (.error e), cache, .idle)
  | .rows g => do
    let (item, cache, g) ← g.next source.territories cache
    return (item, cache, .rows g)

theorem next_size {source : PoolSource σ} {cache : TerritoryCache} {c : BucketCursor} {s : σ}
    (h : ((c.next source cache).run s).answer.1.isSome) :
    ((c.next source cache).run s).answer.2.2.size < c.size := by
  cases c with
  | idle => simp [next] at h
  | broken e => simp [next, size]
  | rows g => exact Grouping.next_size (by simpa [next] using h)

/-- Fetches the rows of a bucket. -/
def fetch (source : PoolSource σ) (zone : String) (regions : RegionTable)
    (name : String) (bucket : Bucket) : Act σ BucketCursor := do
  Act.say .debug
    s!"[{Pool.provider}] list directional records zone={zone} name={name} bucket={bucket.label}"
  match ← (source.ask (.rows zone name bucket)).run with
  | .ok fetched => return .rows (.ofRows Pool.provider (some regions) (Row.sort fetched))
  | .error e => return .broken e

/-- Whether a listing of one record type gives an item. Errors are always given. -/
def keeps (only : Option String) : Item → Bool
  | .error _ => true
  | .ok r => only.all fun type => r.type == type

/-- The next item of the bucket that is kept. -/
def nextKept (source : PoolSource σ) (only : Option String) (cache : TerritoryCache)
    (c : BucketCursor) : Act σ (Option Item × TerritoryCache × BucketCursor) := ⟨fun s =>
  match _h : (c.next source cache).run s with
  | ⟨(none, cache, c), s, log⟩ => ⟨(none, cache, c), s, log⟩
  | ⟨(some item, cache, c'), s, log⟩ =>
    if keeps only item then ⟨(some item, cache, c'), s, log⟩
    else
      let rest := (nextKept source only cache c').run s
      ⟨rest.answer, rest.state, log ++ rest.log⟩⟩
termination_by c.size
decreasing_by
  have := @next_size σ source _ c _ (by rw [_h]; rfl)
  rwa [_h] at this

theorem nextKept_size {source : PoolSource σ} {only : Option String} {cache : TerritoryCache}
    {c : BucketCursor} {s : σ}
    (h : ((c.nextKept source only cache).run s).answer.1.isSome) :
    ((c.nextKept source only cache).run s).answer.2.2.size < c.size := by
  rw [nextKept] at h ⊢
  dsimp only at h ⊢
  split at h
  · simp at h
  · rename_i item cache' c' s' log hr
    have hs : c'.size < c.size := by
      have := @next_size σ source cache c s (by rw [hr]; rfl)
      rwa [hr] at this
    split at h
    · simp [*]
    · have := @nextKept_size source only cache' c' s' h
      simp only [*]
      exact Nat.lt_trans this hs
termination_by c.size
decreasing_by exact hs

end BucketCursor

namespace PoolListing
variable {σ : Type}

/-- The next kept item of a listing, from its bucket or from one that is pending. -/
def advance (source : PoolSource σ) (l : PoolListing) (cache : TerritoryCache)
    (cursor : BucketCursor) : List (String × Bucket) → Act σ (Option Item × PoolListing)
  | [] => do
    let (item, cache, cursor) ← cursor.nextKept source l.only cache
    let cursor := if item.isSome then cursor else .idle
    return (item, { l with cache, cursor, pending := [] })
  | b :: pending => do
    let (item, cache, cursor) ← cursor.nextKept source l.only cache
    match item with
    | some item => return (some item, { l with cache, cursor, pending := b :: pending })
    | none =>
      let cursor ← BucketCursor.fetch source l.zone l.regions b.1 b.2
      advance source l cache cursor pending

/-- Pulls the next item. -/
def next (source : PoolSource σ) (l : PoolListing) : Act σ (Option Item × PoolListing) := do
  let (item, after) ← advance source l l.cache l.cursor l.pending
  if l.failed then return (none, after)
  match item with
  | none => return (none, after)
  | some item => return (some item, { after with failed := !item.isOk })

/-- A pull that gives an item leaves fewer buckets, or as many and less of the current one. -/
theorem advance_size {source : PoolSource σ} {l : PoolListing} {cache : TerritoryCache}
    {cursor : BucketCursor} {pending : List (String × Bucket)} {s : σ}
    (h : ((advance source l cache cursor pending).run s).answer.1.isSome) :
    let after := ((advance source l cache cursor pending).run s).answer.2
    after.pending.length < pending.length ∨
      after.pending.length = pending.length ∧ after.cursor.size < cursor.size := by
  induction pending generalizing cache cursor s with
  | nil =>
    simp only [advance, Act.run_bind, Act.run_pure] at h ⊢
    simp only [h, if_true]
    exact .inr ⟨trivial, BucketCursor.nextKept_size h⟩
  | cons b pending ih =>
    simp only [advance, Act.run_bind] at h ⊢
    cases hk : ((cursor.nextKept source l.only cache).run s).answer.1 with
    | some item =>
      simp only [Act.run_pure]
      exact .inr ⟨trivial, BucketCursor.nextKept_size (by simp [hk])⟩
    | none =>
      simp only [hk, Act.run_bind] at h ⊢
      rcases ih h with h | h
      · exact .inl (Nat.lt_succ_of_lt h)
      · exact .inl (by simp only [List.length_cons]; omega)

theorem next_size {source : PoolSource σ} {l : PoolListing} {s : σ}
    (h : ((next source l).run s).answer.1.isSome) :
    let after := ((next source l).run s).answer.2
    after.pending.length < l.pending.length ∨
      after.pending.length = l.pending.length ∧ after.cursor.size < l.cursor.size := by
  have ha := @advance_size σ source l l.cache l.cursor l.pending s
  simp only [next, Act.run_bind] at h ⊢
  cases hf : l.failed
  · simp only [hf, Bool.false_eq_true, if_false] at h ⊢
    split at h
    · simp at h
    · simp_all
  · simp [hf] at h

/-- All items up to the end or the first error. -/
def drain (source : PoolSource σ) (l : PoolListing) : Act σ (List Item) := ⟨fun s =>
  match _h : (next source l).run s with
  | ⟨(none, _), s, log⟩ => ⟨[], s, log⟩
  | ⟨(some (.error e), _), s, log⟩ => ⟨[.error e], s, log⟩
  | ⟨(some (.ok r), l'), s, log⟩ =>
    let rest := (drain source l').run s
    ⟨.ok r :: rest.answer, rest.state, log ++ rest.log⟩⟩
termination_by (l.pending.length, l.cursor.size)
decreasing_by
  have hn := @next_size σ source l _ (by rw [_h]; rfl)
  rw [_h] at hn
  rcases hn with hn | ⟨he, hn⟩
  · exact .left _ _ hn
  · simp only [he]; exact .right _ hn

end PoolListing

end GeoRouting
