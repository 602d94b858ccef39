import GeoRouting.Proofs.Pool.ListingItems
import GeoRouting.Proofs.Reader.Ending
import GeoRouting.Proofs.Watching

/-!
# The course of a listing

Between two items a listing goes past items that it does not keep and past the ends of buckets. On
the way it loads territories and fetches the rows of the next buckets, one after the other in the
order in which they are pending.
-/

namespace GeoRouting

namespace PoolCall

/-- The call for the rows of a bucket of a name. -/
def ofBucket (zone : String) (b : String × Bucket) : PoolCall := .rows zone b.1 b.2

/-- The calls for rows among some calls. -/
def fetches (calls : List PoolCall) : List PoolCall := calls.filter fun c => c.kind = .rows

/-- The ids of the groups whose territories some calls load. -/
def loads (calls : List PoolCall) : List String :=
  calls.filterMap fun
    | .territories id => some id
    | _ => none

theorem fetches_append (calls more : List PoolCall) :
    fetches (calls ++ more) = fetches calls ++ fetches more :=
  List.filter_append calls more

theorem fetches_territories (ids : List String) : fetches (ids.map territories) = [] := by
  apply List.filter_eq_nil_iff.mpr
  intro c hc
  obtain ⟨id, -, rfl⟩ := List.mem_map.mp hc
  exact Bool.false_ne_true

theorem loads_append (calls more : List PoolCall) :
    loads (calls ++ more) = loads calls ++ loads more :=
  List.filterMap_append

theorem loads_territories (ids : List String) : loads (ids.map territories) = ids := by
  unfold loads
  rw [List.filterMap_map]
  exact List.filterMap_some

end PoolCall

namespace BucketCursor
variable {σ : Type} {source : PoolSource σ} {cache : TerritoryCache} {c : BucketCursor} {s : σ}

/-- The ids to load before the next item of a bucket. -/
def missing (cache : TerritoryCache) : BucketCursor → List String
  | .rows g => g.missing cache
  | _ => []

theorem state_next :
    ((c.next source cache).run s).state =
      source.after ((c.missing cache).map PoolCall.territories) s := by
  cases c with
  | idle => rfl
  | broken e => rfl
  | rows g =>
    rw [missing, ← PoolSource.after_territories, ← Grouping.state_next]
    rfl

theorem adds_of_next {r : RoutedRecordSet}
    (h : ((c.next source cache).run s).answer.1 = some (.ok r)) :
    cache.Adds (c.missing cache) ((c.next source cache).run s).answer.2.1 := by
  cases c with
  | idle => cases h
  | broken e => cases h
  | rows g => exact Grouping.adds_of_next h

/-- Whether a bucket has nothing more to give. -/
def Over : BucketCursor → Prop
  | .idle => True
  | .rows g => g.Over
  | .broken _ => False

theorem next_of_over (h : c.Over) : (c.next source cache).run s = ⟨(none, cache, c), s, []⟩ := by
  cases c with
  | idle => rfl
  | broken e => cases h
  | rows g =>
    rw [next, Act.run_bind, Grouping.next_of_over h]
    rfl

/-- A bucket that gives no record set has nothing more to give. -/
theorem over_of_next (h : ∀ r, ((c.next source cache).run s).answer.1 ≠ some (.ok r)) :
    ((c.next source cache).run s).answer.2.2.Over := by
  cases c with
  | idle => trivial
  | broken e => trivial
  | rows g => exact Grouping.over_of_next h

theorem over_of_next_eq_none (h : ((c.next source cache).run s).answer.1 = none) : c.Over := by
  cases c with
  | idle => trivial
  | broken e => cases h
  | rows g =>
    by_contra hover
    obtain ⟨hf, hr⟩ := not_or.mp hover
    obtain ⟨first, rest, hrows⟩ := List.exists_cons_of_ne_nil hr
    have hrun := @Grouping.run_next_of_cons σ source.territories cache g s _ _
      (Bool.eq_false_iff.mpr hf) hrows
    rw [next, Act.run_bind, hrun] at h
    cases h

/-- The next kept item is the next item when that is kept, and else the next kept one after it. -/
theorem nextKept_eq (source : PoolSource σ) (only : Option String) (cache : TerritoryCache)
    (c : BucketCursor) :
    c.nextKept source only cache = c.next source cache >>= fun out =>
      match out.1 with
      | none => pure out
      | some item =>
        if keeps only item then pure out else out.2.2.nextKept source only out.2.1 := by
  apply Act.ext_run
  intro s
  rw [nextKept]
  simp only [Act.run_bind]
  split <;> rename_i hnext
  · simp [hnext]
  · rw [hnext]
    dsimp only
    split <;> simp

theorem nextKept_of_over (h : c.Over) (only : Option String) :
    (c.nextKept source only cache).run s = ⟨(none, cache, c), s, []⟩ := by
  rw [nextKept_eq, Act.run_bind, next_of_over h]
  rfl

theorem state_fetch (zone : String) (regions : RegionTable) (b : String × Bucket) :
    ((fetch source zone regions b.1 b.2).run s).state =
      source.after [PoolCall.ofBucket zone b] s := by
  simp only [fetch, Act.run_bind, Act.run_say, Source.run_ask]
  split
  · rfl
  · rfl

end BucketCursor

namespace PoolListing
variable {σ : Type} {source : PoolSource σ}

open BucketCursor

/-- What a listing goes past without giving an item, with the calls that are made on the way. -/
inductive Skips (source : PoolSource σ) :
    PoolListing → σ → List PoolCall → PoolListing → σ → Prop
  | stay (l : PoolListing) (s : σ) : Skips source l s [] l s
  | drop {l m : PoolListing} {s t : σ} {calls : List PoolCall} {item : Item}
      (given : ((l.cursor.next source l.cache).run s).answer.1 = some item)
      (unkept : keeps l.only item = false)
      (rest : Skips source
        { l with
          cache := ((l.cursor.next source l.cache).run s).answer.2.1
          cursor := ((l.cursor.next source l.cache).run s).answer.2.2 }
        ((l.cursor.next source l.cache).run s).state calls m t) :
      Skips source l s ((l.cursor.missing l.cache).map PoolCall.territories ++ calls) m t
  | turn {l m : PoolListing} {s t : σ} {calls : List PoolCall} {b : String × Bucket}
      {pending : List (String × Bucket)} (ended : l.cursor.Over) (left : l.pending = b :: pending)
      (rest : Skips source
        { l with cursor := ((fetch source l.zone l.regions b.1 b.2).run s).answer, pending }
        ((fetch source l.zone l.regions b.1 b.2).run s).state calls m t) :
      Skips source l s (PoolCall.ofBucket l.zone b :: calls) m t

theorem Skips.trans {l m n : PoolListing} {s t u : σ} {calls more : List PoolCall}
    (h : Skips source l s calls m t) (h' : Skips source m t more n u) :
    Skips source l s (calls ++ more) n u := by
  induction h with
  | stay l s => exact h'
  | drop given unkept _ ih =>
    rw [List.append_assoc]
    exact .drop given unkept (ih h')
  | turn ended left _ ih => exact .turn ended left (ih h')

/-- The state is the one after the calls. -/
theorem Skips.state_eq {l m : PoolListing} {s t : σ} {calls : List PoolCall}
    (h : Skips source l s calls m t) : t = source.after calls s := by
  induction h with
  | stay l s => rfl
  | drop _ _ _ ih =>
    rw [ih, state_next, ← Source.after_append]
  | turn _ _ _ ih =>
    rw [ih, state_fetch, ← Source.after_append]
    rfl

/-- What a listing is for stays as it is. -/
theorem Skips.scope_eq {l m : PoolListing} {s t : σ} {calls : List PoolCall}
    (h : Skips source l s calls m t) :
    m.zone = l.zone ∧ m.regions = l.regions ∧ m.only = l.only ∧ m.failed = l.failed := by
  induction h with
  | stay l s => exact ⟨rfl, rfl, rfl, rfl⟩
  | drop _ _ _ ih => exact ih
  | turn _ _ _ ih => exact ih

theorem Skips.kind_of_mem {l m : PoolListing} {s t : σ} {calls : List PoolCall}
    (h : Skips source l s calls m t) {c : PoolCall} (hc : c ∈ calls) :
    c.kind = .rows ∨ c.kind = .territories := by
  induction h with
  | stay l s => cases hc
  | drop _ _ _ ih =>
    rcases List.mem_append.mp hc with hc | hc
    · obtain ⟨id, -, rfl⟩ := List.mem_map.mp hc
      exact .inr rfl
    · exact ih hc
  | turn _ _ _ ih =>
    rcases List.mem_cons.mp hc with rfl | hc
    · exact .inl rfl
    · exact ih hc

/-- Buckets are fetched in the order in which they are pending. -/
theorem Skips.pending_eq {l m : PoolListing} {s t : σ} {calls : List PoolCall}
    (h : Skips source l s calls m t) :
    l.pending.map (PoolCall.ofBucket l.zone) =
      PoolCall.fetches calls ++ m.pending.map (PoolCall.ofBucket l.zone) := by
  induction h with
  | stay l s => rfl
  | drop _ _ _ ih =>
    rw [PoolCall.fetches_append, PoolCall.fetches_territories, List.nil_append]
    exact ih
  | turn _ left _ ih =>
    rw [left, List.map_cons, ih]
    rfl

/-- The next kept item of a bucket is the next item after what is skipped in the bucket. -/
theorem exists_skips_of_nextKept (source : PoolSource σ) (l : PoolListing) (s : σ) :
    let out := (l.cursor.nextKept source l.only l.cache).run s
    ∃ calls cache cursor t, Skips source l s calls { l with cache, cursor } t ∧
      out.answer = ((cursor.next source cache).run t).answer ∧
      out.state = ((cursor.next source cache).run t).state ∧
      ∀ item ∈ out.answer.1, keeps l.only item = true := by
  induction hn : l.cursor.size using Nat.strong_induction_on generalizing l s with
  | _ n ih =>
    intro out
    have hout : out = (l.cursor.nextKept source l.only l.cache).run s := rfl
    rw [nextKept_eq, Act.run_bind] at hout
    cases hitem : ((l.cursor.next source l.cache).run s).answer.1 with
    | none =>
      rw [hitem] at hout
      refine ⟨[], l.cache, l.cursor, s, .stay l s, ?_, ?_, ?_⟩
      · rw [hout]
        rfl
      · rw [hout]
        rfl
      · rw [hout]
        intro item hmem
        simp [hitem] at hmem
    | some item =>
      rw [hitem] at hout
      dsimp only at hout
      cases hkeeps : keeps l.only item with
      | true =>
        rw [hkeeps, if_pos rfl] at hout
        refine ⟨[], l.cache, l.cursor, s, .stay l s, ?_, ?_, ?_⟩
        · rw [hout]
          rfl
        · rw [hout]
          rfl
        · rw [hout]
          intro item' hmem
          rw [show item' = item by simpa [hitem] using hmem.symm]
          exact hkeeps
      | false =>
        rw [hkeeps, if_neg Bool.false_ne_true] at hout
        have hsize := @BucketCursor.next_size σ source l.cache l.cursor s (by rw [hitem]; rfl)
        obtain ⟨calls, cache, cursor, t, hskips, hanswer, hstate, hkept⟩ :=
          ih _ (hn ▸ hsize)
            { l with
              cache := ((l.cursor.next source l.cache).run s).answer.2.1
              cursor := ((l.cursor.next source l.cache).run s).answer.2.2 }
            ((l.cursor.next source l.cache).run s).state rfl
        refine ⟨_, cache, cursor, t, .drop hitem hkeeps hskips, ?_, ?_, ?_⟩
        · rw [hout]
          exact hanswer
        · rw [hout]
          exact hstate
        · rw [hout]
          exact hkept

/-- A pull skips some and then takes the next item of the bucket it has come to. It finds none only
when no bucket is left. -/
theorem exists_skips_of_advance (source : PoolSource σ) (l : PoolListing) (cache : TerritoryCache)
    (cursor : BucketCursor) (pending : List (String × Bucket)) (s : σ) :
    let out := (advance source l cache cursor pending).run s
    ∃ calls m t, Skips source { l with cache, cursor, pending } s calls m t ∧
      out.state = ((m.cursor.next source m.cache).run t).state ∧
      out.answer.1 = ((m.cursor.next source m.cache).run t).answer.1 ∧
      out.answer.2 = { m with
        cache := ((m.cursor.next source m.cache).run t).answer.2.1
        cursor := if out.answer.1.isSome then ((m.cursor.next source m.cache).run t).answer.2.2
          else .idle } ∧
      (out.answer.1 = none → m.pending = []) ∧ ∀ item ∈ out.answer.1, keeps l.only item = true := by
  induction pending generalizing cache cursor s with
  | nil =>
    obtain ⟨calls, cache', cursor', t, hskips, hanswer, hstate, hkept⟩ :=
      exists_skips_of_nextKept source { l with cache, cursor, pending := [] } s
    dsimp only at hanswer hstate hkept
    simp only [advance, Act.run_bind, Act.run_pure]
    simp only [hanswer] at hkept ⊢
    exact ⟨calls, _, t, hskips, hstate, rfl, rfl, fun _ => rfl, hkept⟩
  | cons b pending ih =>
    obtain ⟨calls, cache', cursor', t, hskips, hanswer, hstate, hkept⟩ :=
      exists_skips_of_nextKept source { l with cache, cursor, pending := b :: pending } s
    dsimp only at hanswer hstate hkept
    simp only [advance, Act.run_bind]
    simp only [hanswer, hstate] at hkept ⊢
    cases hitem : ((cursor'.next source cache').run t).answer.1 with
    | some item =>
      rw [hitem] at hkept
      refine ⟨calls, _, t, hskips, rfl, hitem.symm, rfl, ?_, hkept⟩
      intro h
      cases h
    | none =>
      have hover := over_of_next_eq_none hitem
      rw [BucketCursor.next_of_over hover]
      obtain ⟨more, m, u, hrest, hrest'⟩ :=
        ih cache' ((fetch source l.zone l.regions b.1 b.2).run t).answer
          ((fetch source l.zone l.regions b.1 b.2).run t).state
      exact ⟨_, m, u, hskips.trans (.turn hover rfl hrest), hrest'⟩

theorem next_of_failed {l : PoolListing} (h : l.failed = true) (s : σ) :
    (next source l).run s =
      let out := (advance source l l.cache l.cursor l.pending).run s
      ⟨(none, out.answer.2), out.state, out.log⟩ := by
  rw [next, h]
  simp

theorem next_of_not_failed {l : PoolListing} (h : l.failed = false) (s : σ) :
    (next source l).run s =
      let out := (advance source l l.cache l.cursor l.pending).run s
      ⟨(out.answer.1, { out.answer.2 with failed := out.answer.1.any fun item => !item.isOk }),
        out.state, out.log⟩ := by
  have hf := @failed_advance σ source l l.cache l.cursor l.pending s
  rw [h] at hf
  rw [next, h]
  simp only [Bool.false_eq_true, if_false, Act.run_bind]
  split
  · rename_i hitem
    simp [hitem, ← hf]
  · rename_i item hitem
    simp [hitem]

/-- The calls of a pull: some of the pending buckets are fetched, in their order, and otherwise
only territories are loaded. -/
theorem exists_calls_of_next (source : PoolSource σ) (l : PoolListing) (s : σ) :
    let out := (next source l).run s
    ∃ calls, out.state = source.after calls s ∧
      (∀ c ∈ calls, c.kind = .rows ∨ c.kind = .territories) ∧
      l.pending.map (PoolCall.ofBucket l.zone) =
        PoolCall.fetches calls ++ out.answer.2.pending.map (PoolCall.ofBucket l.zone) ∧
      out.answer.2.zone = l.zone := by
  obtain ⟨calls, m, t, hskips, hstate, -, hlisting, -⟩ :=
    exists_skips_of_advance source l l.cache l.cursor l.pending s
  obtain ⟨hzone, -⟩ := hskips.scope_eq
  have hpending : ((advance source l l.cache l.cursor l.pending).run s).answer.2.pending =
      m.pending := by rw [hlisting]
  have hzone' : ((advance source l l.cache l.cursor l.pending).run s).answer.2.zone =
      m.zone := by rw [hlisting]
  obtain ⟨hstate', hpending', hzone''⟩ : ((next source l).run s).state =
        ((advance source l l.cache l.cursor l.pending).run s).state ∧
      ((next source l).run s).answer.2.pending = m.pending ∧
      ((next source l).run s).answer.2.zone = m.zone := by
    cases hf : l.failed with
    | true =>
      rw [next_of_failed hf]
      exact ⟨rfl, hpending, hzone'⟩
    | false =>
      rw [next_of_not_failed hf]
      exact ⟨rfl, hpending, hzone'⟩
  refine ⟨calls ++ (m.cursor.missing m.cache).map PoolCall.territories, ?_, ?_, ?_, ?_⟩
  · rw [hstate', hstate, state_next, hskips.state_eq, ← Source.after_append]
  · intro c hc
    rcases List.mem_append.mp hc with hc | hc
    · exact hskips.kind_of_mem hc
    · obtain ⟨id, -, rfl⟩ := List.mem_map.mp hc
      exact .inr rfl
  · rw [hpending', PoolCall.fetches_append, PoolCall.fetches_territories, List.append_nil]
    exact hskips.pending_eq
  · exact hzone''.trans hzone

/-- The same of any number of pulls. -/
theorem exists_calls_of_reached (source : PoolSource σ) (l : PoolListing) (s : σ) (n : Nat) :
    let p := Item.reached (next source) l s n
    ∃ calls, p.2 = source.after calls s ∧ (∀ c ∈ calls, c.kind = .rows ∨ c.kind = .territories) ∧
      l.pending.map (PoolCall.ofBucket l.zone) =
        PoolCall.fetches calls ++ p.1.pending.map (PoolCall.ofBucket l.zone) ∧
      p.1.zone = l.zone := by
  induction n with
  | zero => exact ⟨[], rfl, by simp, rfl, rfl⟩
  | succ n ih =>
    obtain ⟨calls, hstate, hkinds, hpending, hzone⟩ := ih
    obtain ⟨more, hstate', hkinds', hpending', hzone'⟩ := exists_calls_of_next source
      (Item.reached (next source) l s n).1 (Item.reached (next source) l s n).2
    refine ⟨calls ++ more, ?_, ?_, ?_, ?_⟩
    · rw [Source.after_append, ← hstate]
      exact hstate'
    · intro c hc
      rcases List.mem_append.mp hc with hc | hc
      · exact hkinds c hc
      · exact hkinds' c hc
    · rw [PoolCall.fetches_append, List.append_assoc, hpending, ← hzone]
      exact congrArg (PoolCall.fetches calls ++ ·) hpending'
    · exact hzone'.trans hzone

/-! ### Draining -/

theorem drain_eq (source : PoolSource σ) (l : PoolListing) :
    l.drain source = next source l >>= fun out =>
      match out.1 with
      | none => pure []
      | some (.error e) => pure [.error e]
      | some (.ok r) => out.2.drain source >>= fun rest => pure (.ok r :: rest) := by
  apply Act.ext_run
  intro s
  rw [drain]
  simp only [Act.run_bind]
  split <;> rename_i hnext
  · simp [hnext]
  · simp [hnext]
  · rw [hnext]
    simp

/-- What holds of a listing whenever it holds after a pull that gives an item holds of every
listing: such pulls come to an end. -/
theorem pull_induction (source : PoolSource σ) {motive : PoolListing → σ → Prop}
    (step : ∀ l s, (((next source l).run s).answer.1.isSome = true →
      motive ((next source l).run s).answer.2 ((next source l).run s).state) → motive l s)
    (l : PoolListing) (s : σ) : motive l s :=
  step l s fun _ => pull_induction source step _ _
termination_by (l.pending.length, l.cursor.size)
decreasing_by
  rename_i hitem
  rcases next_size hitem with hn | ⟨he, hn⟩
  · exact .left _ _ hn
  · rw [he]
    exact .right _ hn

/-- A drain leaves its backend as some number of pulls does. -/
theorem exists_reached_of_drain (source : PoolSource σ) (l : PoolListing) (s : σ) :
    ∃ n, ((l.drain source).run s).state = (Item.reached (next source) l s n).2 := by
  induction l, s using pull_induction source with
  | step l s ih =>
    rw [drain_eq, Act.run_bind]
    split
    · exact ⟨1, rfl⟩
    · exact ⟨1, rfl⟩
    · rename_i r hr
      obtain ⟨n, hn⟩ := ih (by rw [hr]; rfl)
      refine ⟨n + 1, ?_⟩
      rw [Item.reached_succ]
      exact hn

/-- A drain ends with the pull that gives nothing. -/
theorem state_drain_of_given {l : PoolListing} {s : σ} {n : Nat} {sets : List RoutedRecordSet}
    (h : (List.range n).map (Item.given (next source) l s) = sets.map fun r => some (.ok r))
    (hend : Item.given (next source) l s n = none) :
    ((l.drain source).run s).state = (Item.reached (next source) l s (n + 1)).2 := by
  induction n generalizing l s sets with
  | zero =>
    rw [drain_eq, Act.run_bind, show ((next source l).run s).answer.1 = none from hend]
    rfl
  | succ n ih =>
    rw [Item.map_given_succ] at h
    rw [Item.given_succ] at hend
    cases sets with
    | nil => cases h
    | cons r sets =>
      obtain ⟨hitem, hrest⟩ := List.cons.inj h
      rw [drain_eq, Act.run_bind, hitem, Item.reached_succ, ← ih hrest hend]
      rfl

end PoolListing

/-! ## From the opening on -/

/-- A check changes a selection in the case of its type only. -/
theorem Selection.cases_of_check {provider : String} {selection checked : Selection}
    (h : selection.check provider = .ok checked) :
    selection = .all ∧ checked = .all ∨
      (∃ name, selection = .named name ∧ checked = .named name) ∨
      ∃ name type, selection = .typed name type ∧ checked = .typed name (Text.upper type) := by
  cases eq_upperCased_of_check h
  cases selection with
  | all => exact .inl ⟨rfl, rfl⟩
  | named name => exact .inr (.inl ⟨name, rfl, rfl⟩)
  | typed name type => exact .inr (.inr ⟨name, type, rfl, rfl⟩)

namespace Pool
variable {σ : Type} {source : PoolSource σ} {zone : String} {regions : RegionTable}
  {selection : Selection} {s : σ}

/-- The calls that start a listing. -/
def opening (zone : String) : Selection → List PoolCall
  | .all => [.zoneExists zone, .pools zone]
  | _ => [.zoneExists zone]

theorem opening_of_check {checked : Selection} (h : selection.check provider = .ok checked) :
    opening zone checked = opening zone selection := by
  obtain ⟨rfl, rfl⟩ | ⟨name, rfl, rfl⟩ | ⟨name, type, rfl, rfl⟩ := Selection.cases_of_check h
  · rfl
  · rfl
  · rfl

theorem state_requireZone (source : PoolSource σ) (zone : String) (s : σ) :
    ((requireZone source zone).run.run s).state = source.after [PoolCall.zoneExists zone] s := by
  rw [run_requireZone_eq, state_zoneOutcome]
  rfl

/-- Starting a listing makes no calls but those of the opening, and all of them when the listing is
handed out. The listing has not begun then. -/
theorem exists_calls_of_list (source : PoolSource σ) (zone : String) (regions : RegionTable)
    (selection : Selection) (s : σ) :
    let out := (list source zone regions selection).run.run s
    ∃ calls, out.state = source.after calls s ∧ calls <+: opening zone selection ∧
      ∀ l, out.answer = .ok l → calls = opening zone selection ∧ l.zone = zone ∧
        l.regions = regions ∧ l.cache = .empty ∧ l.cursor = .idle ∧ l.failed = false := by
  intro out
  have hout : out = (list source zone regions selection).run.run s := rfl
  rw [list] at hout
  cases hc : selection.check provider with
  | error e =>
    rw [hc, Query.run_bind_error rfl] at hout
    rw [hout]
    exact ⟨[], rfl, List.nil_prefix, fun l h => by cases h⟩
  | ok checked =>
    rw [hc, Query.run_bind_ok rfl] at hout
    have hstate := state_requireZone source zone s
    have hopening : opening zone checked = opening zone selection := opening_of_check hc
    simp only [Query.run_ofExcept, List.nil_append] at hout
    cases hz : ((requireZone source zone).run.run s).answer with
    | error e =>
      rw [Query.run_bind_error hz, hstate] at hout
      rw [hout, ← hopening]
      refine ⟨[.zoneExists zone], rfl, ?_, fun l h => by cases h⟩
      cases checked with
      | all => exact List.prefix_append [PoolCall.zoneExists zone] [PoolCall.pools zone]
      | named name => exact List.prefix_rfl
      | typed name type => exact List.prefix_rfl
    | ok _ =>
      rw [Query.run_bind_ok hz, hstate] at hout
      rw [← hopening]
      cases checked with
      | all =>
        dsimp only at hout
        rw [Query.run_bind_ok rfl, Query.run_say] at hout
        cases hp : (source (.pools zone) (source.after [PoolCall.zoneExists zone] s)).1 with
        | error e =>
          rw [Query.run_bind_error (by rw [Source.run_ask, hp])] at hout
          rw [hout]
          exact ⟨opening zone .all, rfl, List.prefix_rfl, fun l h => by cases h⟩
        | ok pools =>
          rw [Query.run_bind_ok (by rw [Source.run_ask, hp])] at hout
          rw [hout]
          refine ⟨opening zone .all, rfl, List.prefix_rfl, ?_⟩
          rintro l ⟨⟩
          exact ⟨rfl, rfl, rfl, rfl, rfl, rfl⟩
      | named name =>
        rw [hout]
        refine ⟨opening zone (.named name), rfl, List.prefix_rfl, ?_⟩
        rintro l ⟨⟩
        exact ⟨rfl, rfl, rfl, rfl, rfl, rfl⟩
      | typed name type =>
        dsimp only at hout
        have hstarted : out.state = source.after (opening zone (.typed name type)) s ∧
            out.answer = .ok ⟨zone, regions, some type, .empty, .idle,
              bucketsOf (Bucket.holding type) name, false⟩ := by
          rw [hout]
          split
          · exact ⟨rfl, rfl⟩
          · exact ⟨rfl, rfl⟩
        refine ⟨_, hstarted.1, List.prefix_rfl, ?_⟩
        intro l hl
        rw [hstarted.2] at hl
        cases hl
        exact ⟨rfl, rfl, rfl, rfl, rfl, rfl⟩

/-- Starts a listing and pulls it a number of times. -/
def pulled (source : PoolSource σ) (zone : String) (regions : RegionTable) (selection : Selection)
    (n : Nat) : Query σ (List (Option Item)) := do
  let l ← list source zone regions selection
  ExceptT.lift (Item.pull (PoolListing.next source) l n)

theorem run_pulled_of_error {e : GeoError}
    (h : ((list source zone regions selection).run.run s).answer = .error e) (n : Nat) :
    ((pulled source zone regions selection n).run.run s).answer = .error e ∧
      ((pulled source zone regions selection n).run.run s).state =
        ((list source zone regions selection).run.run s).state := by
  rw [pulled, Query.run_bind_error h]
  exact ⟨rfl, rfl⟩

theorem run_pulled_of_ok {l : PoolListing}
    (h : ((list source zone regions selection).run.run s).answer = .ok l) (n : Nat) :
    let t := ((list source zone regions selection).run.run s).state
    ((pulled source zone regions selection n).run.run s).answer =
        .ok ((List.range n).map (Item.given (PoolListing.next source) l t)) ∧
      ((pulled source zone regions selection n).run.run s).state =
        (Item.reached (PoolListing.next source) l t n).2 := by
  intro t
  obtain ⟨hanswer, hstate⟩ := Item.run_pull (PoolListing.next source) l t n
  rw [pulled, Query.run_bind_ok h, Query.run_lift]
  exact ⟨congrArg Except.ok hanswer, hstate⟩

/-- The calls that starting a listing and pulling it a number of times makes. -/
def callsAfter (source : PoolSource σ) (zone : String) (regions : RegionTable)
    (selection : Selection) (s : σ) (n : Nat) : List PoolCall :=
  ((pulled source.watched zone regions selection n).run.run ⟨s, []⟩).state.calls

/-- After the opening every pull makes calls of its own, and the buckets that are not pending any
more have been fetched. -/
theorem exists_calls_of_pulled {l : PoolListing} {w : Watched σ PoolCall}
    (hl : ((list source.watched zone regions selection).run.run ⟨s, []⟩).answer = .ok l)
    (hw : ((list source.watched zone regions selection).run.run ⟨s, []⟩).state = w) (n : Nat) :
    let p := Item.reached (PoolListing.next source.watched) l w n
    callsAfter source zone regions selection s n = p.2.calls ∧
      ∃ calls, p.2.calls = opening zone selection ++ calls ∧
        (∀ c ∈ calls, c.kind = .rows ∨ c.kind = .territories) ∧
        l.pending.map (PoolCall.ofBucket zone) =
          PoolCall.fetches p.2.calls ++ p.1.pending.map (PoolCall.ofBucket zone) ∧
        p.1.zone = zone := by
  intro p
  obtain ⟨opened, hstate, -, hlisting⟩ :=
    exists_calls_of_list source.watched zone regions selection ⟨s, []⟩
  obtain ⟨rfl, hzone, -⟩ := hlisting l hl
  obtain ⟨calls, hp, hkinds, hpending, hpzone⟩ :=
    PoolListing.exists_calls_of_reached source.watched l w n
  rw [hw, Source.after_watched] at hstate
  rw [Source.after_watched] at hp
  have hcalls : p.2.calls = opening zone selection ++ calls := by
    have hopened : w.calls = opening zone selection := congrArg Watched.calls hstate
    rw [← hopened]
    exact congrArg Watched.calls hp
  have hnone : PoolCall.fetches (opening zone selection) = [] := by
    cases selection <;> rfl
  refine ⟨?_, calls, hcalls, hkinds, ?_, hpzone.trans hzone⟩
  · rw [callsAfter, (run_pulled_of_ok hl n).2, hw]
  · rw [hcalls, PoolCall.fetches_append, hnone, List.nil_append, ← hzone]
    exact hpending

/-- An alias in each of the address buckets, to a group of its own. -/
def twoGroupStore : PoolStore := .ofHistory
  [.addZone "z.",
    .addRow "z." .ipv4
      { name := "a.z.", type := "CNAME", ttl := some 60, values := ["one.z."],
        geoGroup := some ⟨"1", "eu"⟩ },
    .addRow "z." .ipv6
      { name := "a.z.", type := "CNAME", ttl := some 60, values := ["two.z."],
        geoGroup := some ⟨"2", "us"⟩ },
    .setTerritories "1" ["BE"], .setTerritories "2" ["US"]]

/-- What a listing of the aliases starts with. -/
def twoGroupListing : PoolListing where
  zone := "z."
  regions := ⟨.empty⟩
  only := some "CNAME"
  pending := [("a.z.", .ipv4), ("a.z.", .ipv6)]

/-- The record set of one alias to one group. -/
def twoGroupSet (target group territory : String) : RoutedRecordSet :=
  ⟨⟨"a.z.", "CNAME", some 60, [.single "cname" (.text target)]⟩,
    .single Route.geoKind (.geo ⟨group, [territory], false⟩)⟩

end Pool

end GeoRouting
