import GeoRouting.Proofs.Faults
import GeoRouting.Proofs.Pool.Course

/-!
# Queries to a pool backend that fails

When one call of a query fails, everything before that call is as it would have been, and nothing
comes after it. A listing keeps the record sets that it had given by then and gives the error as its
last item. While a listing is being started, and in getting a group, the query as a whole fails.
-/

namespace GeoRouting

theorem PoolSource.territories_cuts {σ : Type} {j : Nat} {e : GeoError}
    {source broken : PoolSource (Watched σ PoolCall)} (h : Source.Cuts j e source broken) :
    Source.Cuts j e source.territories broken.territories :=
  fun id w => h (.territories id) w

section
variable {σ : Type} {j : Nat} {e : GeoError} {source broken : PoolSource (Watched σ PoolCall)}
  {w : Watched σ PoolCall}

namespace BucketCursor

theorem next_cutAt (h : Source.Cuts j e source broken) (cache : TerritoryCache)
    (c : BucketCursor) :
    Act.CutAt j w (fun out => out.1 = some (.error e)) (c.next source cache)
      (c.next broken cache) := by
  cases c with
  | idle => exact .of_silent rfl _
  | broken e' => exact .of_silent rfl _
  | rows g =>
    apply (Grouping.next_cutAt (PoolSource.territories_cuts h) cache g).bind
    · exact .of_silent rfl _
    · intro out v hout
      exact ⟨rfl, hout⟩

theorem nextKept_cutAt (h : Source.Cuts j e source broken) (only : Option String)
    (cache : TerritoryCache) (c : BucketCursor) :
    Act.CutAt j w (fun out => out.1 = some (.error e)) (c.nextKept source only cache)
      (c.nextKept broken only cache) := by
  induction hn : c.size using Nat.strong_induction_on generalizing cache c w with
  | _ n ih =>
    rw [nextKept_eq, nextKept_eq]
    apply (next_cutAt h cache c).bind
    · cases hitem : ((c.next source cache).run w).answer.1 with
      | none => exact .of_silent rfl _
      | some item =>
        dsimp only
        cases keeps only item with
        | true =>
          rw [if_pos rfl, if_pos rfl]
          exact .of_silent rfl _
        | false =>
          rw [if_neg Bool.false_ne_true, if_neg Bool.false_ne_true]
          have hsize := @BucketCursor.next_size _ source cache c w (by rw [hitem]; rfl)
          exact ih _ (hn ▸ hsize) _ _ rfl
    · rintro ⟨item, cache', c'⟩ v hitem
      cases hitem
      dsimp only
      rw [if_pos (show keeps only (.error e) = true from rfl)]
      exact ⟨rfl, rfl⟩

theorem fetch_cutAt (h : Source.Cuts j e source broken) (zone : String) (regions : RegionTable)
    (name : String) (bucket : Bucket) :
    Act.CutAt j w (· = .broken e) (fetch source zone regions name bucket)
      (fetch broken zone regions name bucket) := by
  apply (Act.CutAt.of_silent rfl fun _ => False).bind
  · apply (h (.rows zone name bucket) _).bind
    · apply Act.CutAt.of_silent
      split
      · rfl
      · rfl
    · rintro answer v rfl
      exact ⟨rfl, rfl⟩
  · intro _ _ hfalse
    exact hfalse.elim

end BucketCursor

namespace PoolListing

open BucketCursor

theorem run_advance_broken {σ : Type} (source : PoolSource σ) (l : PoolListing)
    (cache : TerritoryCache) (e : GeoError) (pending : List (String × Bucket)) (s : σ) :
    (advance source l cache (.broken e) pending).run s =
      ⟨(some (.error e), { l with cache, cursor := .idle, pending }), s, []⟩ := by
  have hkept : (BucketCursor.nextKept source l.only cache (.broken e)).run s =
      ⟨(some (.error e), cache, .idle), s, []⟩ := by
    rw [nextKept_eq]
    rfl
  cases pending with
  | nil =>
    rw [advance, Act.run_bind, hkept]
    rfl
  | cons b pending =>
    rw [advance, Act.run_bind, hkept]
    rfl

theorem advance_cutAt (h : Source.Cuts j e source broken) (l : PoolListing)
    (cache : TerritoryCache) (cursor : BucketCursor) (pending : List (String × Bucket)) :
    Act.CutAt j w (fun out => out.1 = some (.error e)) (advance source l cache cursor pending)
      (advance broken l cache cursor pending) := by
  induction pending generalizing cache cursor w with
  | nil =>
    apply (nextKept_cutAt h l.only cache cursor).bind
    · exact .of_silent rfl _
    · intro out v hout
      exact ⟨rfl, hout⟩
  | cons b pending ih =>
    apply (nextKept_cutAt h l.only cache cursor).bind
    · cases hitem : ((cursor.nextKept source l.only cache).run w).answer.1 with
      | some item =>
        dsimp only
        rw [hitem]
        exact .of_silent rfl _
      | none =>
        dsimp only
        rw [hitem]
        apply (fetch_cutAt h l.zone l.regions b.1 b.2).bind
        · exact ih _ _
        · rintro c v rfl
          rw [run_advance_broken]
          exact ⟨rfl, rfl⟩
    · rintro ⟨item, cache', cursor'⟩ v hitem
      cases hitem
      exact ⟨rfl, rfl⟩

theorem next_cutAt (h : Source.Cuts j e source broken) {l : PoolListing} (hf : l.failed = false) :
    Act.CutAt j w (fun out => out.1 = some (.error e)) (next source l) (next broken l) := by
  apply (advance_cutAt h l l.cache l.cursor l.pending).bind
  · dsimp only
    rw [hf, if_neg Bool.false_ne_true]
    apply Act.CutAt.of_silent
    split
    · rfl
    · rfl
  · rintro ⟨item, after⟩ v hitem
    cases hitem
    dsimp only
    rw [hf, if_neg Bool.false_ne_true]
    exact ⟨rfl, rfl⟩

/-- What a drain gives when it is cut short: the record sets of the pulls before the one that comes
to the call, and then the error. -/
def CutShort (source : PoolSource (Watched σ PoolCall)) (j : Nat) (e : GeoError) (l : PoolListing)
    (w : Watched σ PoolCall) (items : List Item) : Prop :=
  ∃ (n : Nat) (sets : List RoutedRecordSet),
    (List.range n).map (Item.given (next source) l w) =
      sets.map (fun r => some (.ok r)) ∧
    (Item.reached (next source) l w n).2.calls.length ≤ j ∧
    j < (Item.reached (next source) l w (n + 1)).2.calls.length ∧
    items = sets.map .ok ++ [.error e]

theorem cutShort_of_next {l : PoolListing} (hw : w.calls.length ≤ j)
    (hj : j < ((next source l).run w).state.calls.length) :
    CutShort source j e l w [.error e] :=
  ⟨0, [], rfl, hw, hj, rfl⟩

theorem CutShort.cons {l : PoolListing} {r : RoutedRecordSet} {items : List Item}
    (hr : ((next source l).run w).answer.1 = some (.ok r))
    (h : CutShort source j e ((next source l).run w).answer.2 ((next source l).run w).state
      items) : CutShort source j e l w (.ok r :: items) := by
  obtain ⟨n, sets, hgiven, hbefore, hafter, rfl⟩ := h
  refine ⟨n + 1, r :: sets, ?_, ?_, ?_, rfl⟩
  · rw [Item.map_given_succ, hr, hgiven]
    rfl
  · rwa [Item.reached_succ]
  · rwa [Item.reached_succ]

theorem drain_cutAt (h : Source.Cuts j e source broken) {l : PoolListing}
    (hf : l.failed = false) (w : Watched σ PoolCall) :
    Act.CutAt j w (CutShort source j e l w) (l.drain source) (l.drain broken) := by
  induction l, w using pull_induction source with
  | step l w ih =>
    rw [drain_eq, drain_eq]
    apply (next_cutAt h hf).within.bind
    · split
      · exact .of_silent rfl _
      · exact .of_silent rfl _
      · rename_i r hr
        have hok : ((next source l).run w).answer.2.failed = false := by
          rw [next_of_not_failed hf] at hr ⊢
          dsimp only at hr ⊢
          rw [hr]
          rfl
        apply (ih (by rw [hr]; rfl) hok).bind
        · exact .of_silent rfl _
        · intro items v hitems
          exact ⟨rfl, hitems.cons hr⟩
    · rintro ⟨item, after⟩ v ⟨hitem, hw, hj⟩
      cases hitem
      exact ⟨rfl, cutShort_of_next hw hj⟩

end PoolListing

namespace Pool

theorem requireZone_cutAt (h : Source.Cuts j e source broken) (zone : String) :
    Act.CutAt j w (· = .error e) (requireZone source zone).run (requireZone broken zone).run := by
  apply Query.cutAt_bind (h (.zoneExists zone) w)
  intro found _
  cases found with
  | true => exact .of_silent rfl _
  | false => exact .of_silent rfl _

theorem list_cutAt (h : Source.Cuts j e source broken) (zone : String) (regions : RegionTable)
    (selection : Selection) :
    Act.CutAt j w (· = .error e) (list source zone regions selection).run
      (list broken zone regions selection).run := by
  apply Query.cutAt_bind (.of_silent rfl _)
  intro checked _
  apply Query.cutAt_bind (requireZone_cutAt h zone)
  intro _ _
  cases checked with
  | all =>
    apply Query.cutAt_bind (.of_silent rfl _)
    intro _ _
    apply Query.cutAt_bind (h (.pools zone) _)
    intro pools _
    exact .of_silent rfl _
  | named name => exact .of_silent rfl _
  | typed name type =>
    apply Act.CutAt.of_silent
    dsimp only
    split
    · rfl
    · rfl

theorem targetRows_cutAt (h : Source.Cuts j e source broken) (zone : String) (t : Target)
    (buckets : List Bucket) :
    Act.CutAt j w (· = .error e) (targetRows source zone t buckets).run
      (targetRows broken zone t buckets).run := by
  induction buckets generalizing w with
  | nil => exact .of_silent rfl _
  | cons b buckets ih =>
    apply Query.cutAt_bind (h (.groupRows ⟨zone, t.name, b.code, t.group⟩) w)
    intro rows _
    apply Query.cutAt_bind ih
    intro others _
    exact .of_silent rfl _

theorem getTarget_cutAt (h : Source.Cuts j e source broken) (zone : String)
    (regions : RegionTable) (target : Target) :
    Act.CutAt j w (· = .error e) (getTarget source zone regions target).run
      (getTarget broken zone regions target).run := by
  apply Query.cutAt_bind (.of_silent rfl _)
  intro t _
  apply Query.cutAt_bind (requireZone_cutAt h zone)
  intro _ _
  apply Query.cutAt_bind (targetRows_cutAt h zone t (Bucket.holding t.type))
  intro rows _
  rw [ExceptT.run_bind_lift, ExceptT.run_bind_lift]
  apply (Grouping.next_cutAt (PoolSource.territories_cuts h) .empty _).bind
  · apply Act.CutAt.of_silent
    dsimp only
    split
    · rfl
    · rename_i item _
      cases item with
      | error e' => rfl
      | ok r => rfl
  · rintro ⟨item, after⟩ v hitem
    cases hitem
    exact ⟨rfl, rfl⟩

theorem items_cutAt (h : Source.Cuts j e source broken) (zone : String) (regions : RegionTable)
    (selection : Selection) (w : Watched σ PoolCall) :
    let opened := (list source zone regions selection).run.run w
    Act.CutAt j w
      (fun answer =>
        j < opened.state.calls.length ∧ answer = .error e ∨
        opened.state.calls.length ≤ j ∧ ∃ l items, opened.answer = .ok l ∧ answer = .ok items ∧
          PoolListing.CutShort source j e l opened.state items)
      (items source zone regions selection).run (items broken zone regions selection).run := by
  intro opened
  rw [items, items, ExceptT.run_bind, ExceptT.run_bind]
  apply (list_cutAt h zone regions selection).within.bind
  · cases hl : opened.answer with
    | error e' => exact .of_silent rfl _
    | ok l =>
      dsimp only
      rw [ExceptT.run_lift, ExceptT.run_lift, map_eq_pure_bind, map_eq_pure_bind]
      obtain ⟨calls, -, -, hlisting⟩ := exists_calls_of_list source zone regions selection w
      obtain ⟨-, -, -, -, -, hf⟩ := hlisting l hl
      apply (PoolListing.drain_cutAt h hf opened.state).within.bind
      · exact .of_silent rfl _
      · rintro items v ⟨hcut, hopened, -⟩
        exact ⟨rfl, .inr ⟨hopened, l, items, rfl, rfl, hcut⟩⟩
  · rintro answer v ⟨rfl, -, hj⟩
    exact ⟨rfl, .inl ⟨hj, rfl⟩⟩

end Pool

end

namespace Pool
variable {σ : Type}

theorem kind_of_mem_opening {zone : String} {selection : Selection} {c : PoolCall}
    (h : c ∈ opening zone selection) : c.kind = .zoneExists ∨ c.kind = .pools := by
  cases selection with
  | all =>
    rcases List.mem_cons.mp h with rfl | h
    · exact .inl rfl
    · exact .inr (List.mem_singleton.mp h ▸ rfl)
  | named name => exact .inl (List.mem_singleton.mp h ▸ rfl)
  | typed name type => exact .inl (List.mem_singleton.mp h ▸ rfl)

/-- All items of a selection take the calls that start its listing and then calls for rows and
territories. -/
theorem exists_calls_of_items (source : PoolSource σ) (zone : String) (regions : RegionTable)
    (selection : Selection) (s : σ) :
    let opened := ((list source.watched zone regions selection).run.run ⟨s, []⟩).state.calls
    (∀ c ∈ opened, c.kind = .zoneExists ∨ c.kind = .pools) ∧
      ∃ later, ((items source.watched zone regions selection).run.run ⟨s, []⟩).state.calls =
          opened ++ later ∧ ∀ c ∈ later, c.kind = .rows ∨ c.kind = .territories := by
  intro opened
  constructor
  · obtain ⟨calls, hstate, hopening, -⟩ :=
      exists_calls_of_list source.watched zone regions selection ⟨s, []⟩
    rw [Source.after_watched, List.nil_append] at hstate
    intro c hc
    rw [show opened = calls from congrArg Watched.calls hstate] at hc
    exact kind_of_mem_opening (hopening.subset hc)
  · rw [items]
    cases hl : ((list source.watched zone regions selection).run.run ⟨s, []⟩).answer with
    | error e =>
      rw [Query.run_bind_error hl]
      exact ⟨[], (List.append_nil _).symm, by simp⟩
    | ok l =>
      rw [Query.run_bind_ok hl, Query.run_lift]
      dsimp only
      obtain ⟨n, hn⟩ := PoolListing.exists_reached_of_drain source.watched l
        ((list source.watched zone regions selection).run.run ⟨s, []⟩).state
      obtain ⟨later, hlater, hkinds, -⟩ := PoolListing.exists_calls_of_reached source.watched l
        ((list source.watched zone regions selection).run.run ⟨s, []⟩).state n
      rw [Source.after_watched] at hlater
      rw [hn, hlater]
      exact ⟨later, rfl, hkinds⟩

/-- A call is for the zone or its pools exactly when it is one of those that start the listing. -/
theorem kind_of_items {source : PoolSource σ} {zone : String} {regions : RegionTable}
    {selection : Selection} {s : σ} {i : Nat} {c : PoolCall}
    (h : ((items source.watched zone regions selection).run.run ⟨s, []⟩).state.calls[i]? =
      some c) :
    (c.kind = .zoneExists ∨ c.kind = .pools) ↔
      i < ((list source.watched zone regions selection).run.run ⟨s, []⟩).state.calls.length := by
  obtain ⟨hopened, later, hlater, hkinds⟩ := exists_calls_of_items source zone regions selection s
  rw [hlater] at h
  constructor
  · intro hkind
    by_contra hi
    rw [List.getElem?_append_right (Nat.not_lt.mp hi)] at h
    rcases hkinds c (List.mem_of_getElem? h) with hc | hc
    · rw [hc] at hkind
      revert hkind
      decide
    · rw [hc] at hkind
      revert hkind
      decide
  · intro hi
    rw [List.getElem?_append_left hi] at h
    exact hopened c (List.mem_of_getElem? h)

/-- A query is cut short at a call that fails. While a listing is started, and in getting a group,
the whole query answers with the error. After that the listing gives the record sets of the pulls
before the one that comes to the call, and then the error. -/
theorem answers_of_failed_call (source : PoolSource σ) (zone : String) (regions : RegionTable)
    (s : σ) (j : Nat) (e : GeoError) :
    (∀ selection,
      let whole := (items source.watched zone regions selection).run.run ⟨s, []⟩
      let cut := (items (source.failingAt j e) zone regions selection).run.run ⟨s, []⟩
      (whole.state.calls.length ≤ j → cut = whole) ∧
      ∀ c, whole.state.calls[j]? = some c →
        cut.state.calls = whole.state.calls.take (j + 1) ∧
        if c.kind = .zoneExists ∨ c.kind = .pools then cut.answer = .error e
        else ∃ (n : Nat) (sets : List RoutedRecordSet) (rest : List Item),
          ((pulled source.watched zone regions selection n).run.run ⟨s, []⟩).answer =
            .ok (sets.map fun r => some (.ok r)) ∧
          (callsAfter source zone regions selection s n).length ≤ j ∧
          j < (callsAfter source zone regions selection s (n + 1)).length ∧
          whole.answer = .ok (sets.map .ok ++ rest) ∧
          cut.answer = .ok (sets.map .ok ++ [.error e])) ∧
    ∀ target,
      let whole := (getTarget source.watched zone regions target).run.run ⟨s, []⟩
      let cut := (getTarget (source.failingAt j e) zone regions target).run.run ⟨s, []⟩
      (whole.state.calls.length ≤ j → cut = whole) ∧
      (j < whole.state.calls.length →
        cut.state.calls = whole.state.calls.take (j + 1) ∧ cut.answer = .error e) := by
  have hcuts := Source.failingAt_cuts j e source
  constructor
  · intro selection whole cut
    have hcut := items_cutAt hcuts zone regions selection ⟨s, []⟩
    refine ⟨hcut.agrees, ?_⟩
    intro c hc
    have hj : j < whole.state.calls.length := (List.getElem?_eq_some_iff.mp hc).1
    obtain ⟨hcalls, hanswer⟩ := hcut.stops (Nat.zero_le j) hj
    refine ⟨hcalls, ?_⟩
    have hkind := kind_of_items hc
    rcases hanswer with ⟨hopened, hanswer⟩ | ⟨hopened, l, given, hl, hanswer, hshort⟩
    · rw [if_pos (hkind.mpr hopened)]
      exact hanswer
    · rw [if_neg (hkind.not.mpr (Nat.not_lt.mpr hopened))]
      obtain ⟨n, sets, hsets, hbefore, hafter, rfl⟩ := hshort
      obtain ⟨rest, hwhole⟩ : ∃ rest, whole.answer = .ok (sets.map .ok ++ rest) := by
        change ∃ rest, ((items source.watched zone regions selection).run.run ⟨s, []⟩).answer = _
        rw [items, Query.run_bind_ok hl, Query.run_lift]
        exact ⟨_, congrArg Except.ok (Item.DrainsByPulls.answer_of_given
          (PoolListing.answer_drain source.watched) hsets)⟩
      refine ⟨n, sets, rest, ?_, ?_, ?_, hwhole, hanswer⟩
      · rw [(run_pulled_of_ok hl n).1, hsets]
      · rw [callsAfter, (run_pulled_of_ok hl n).2]
        exact hbefore
      · rw [callsAfter, (run_pulled_of_ok hl (n + 1)).2]
        exact hafter
  · intro target whole cut
    have hcut := @getTarget_cutAt _ j e _ _ ⟨s, []⟩ hcuts zone regions target
    exact ⟨hcut.agrees, hcut.stops (Nat.zero_le j)⟩

/-- The territories of the second group fail to load when its record set is asked for; the record
set of the first group was given before. -/
theorem answers_of_failed_load :
    let whole := (items PoolStore.source.watched "z." ⟨.empty⟩ (.typed "a.z." "cname")).run.run
      ⟨twoGroupStore, []⟩
    let cut := (items (PoolStore.source.failingAt 4 (.backend provider "down")) "z." ⟨.empty⟩
      (.typed "a.z." "cname")).run.run ⟨twoGroupStore, []⟩
    whole.state.calls[4]? = some (.territories "2") ∧
      cut.state.calls = whole.state.calls.take 5 ∧
      ∃ (n : Nat) (sets : List RoutedRecordSet),
        (callsAfter PoolStore.source "z." ⟨.empty⟩ (.typed "a.z." "cname") twoGroupStore n).length ≤
          4 ∧
        4 < (callsAfter PoolStore.source "z." ⟨.empty⟩ (.typed "a.z." "cname") twoGroupStore
          (n + 1)).length ∧
        cut.answer = .ok (sets.map .ok ++ [.error (.backend provider "down")]) := by
  intro whole cut
  have hl : ((list PoolStore.source.watched "z." ⟨.empty⟩ (.typed "a.z." "cname")).run.run
      ⟨twoGroupStore, []⟩).answer = .ok twoGroupListing := by decide +kernel
  have hgiven : (List.range 2).map (Item.given (PoolListing.next PoolStore.source.watched)
        twoGroupListing ((list PoolStore.source.watched "z." ⟨.empty⟩
          (.typed "a.z." "cname")).run.run ⟨twoGroupStore, []⟩).state) =
      [twoGroupSet "one.z." "eu" "BE", twoGroupSet "two.z." "us" "US"].map
        fun r => some (.ok r) := by decide +kernel
  have hc : whole.state.calls[4]? = some (.territories "2") := by
    change ((items PoolStore.source.watched "z." ⟨.empty⟩ (.typed "a.z." "cname")).run.run
      ⟨twoGroupStore, []⟩).state.calls[4]? = _
    rw [items, Query.run_bind_ok hl, Query.run_lift]
    dsimp only
    rw [PoolListing.state_drain_of_given hgiven (by decide +kernel)]
    decide +kernel
  obtain ⟨hlistings, -⟩ := answers_of_failed_call PoolStore.source "z." ⟨.empty⟩ twoGroupStore 4
    (.backend provider "down")
  obtain ⟨-, hfailed⟩ := hlistings (.typed "a.z." "cname")
  obtain ⟨hcalls, hanswer⟩ := hfailed _ hc
  rw [if_neg (by decide)] at hanswer
  obtain ⟨n, sets, rest, -, hbefore, hafter, -, hcut⟩ := hanswer
  exact ⟨hc, hcalls, n, sets, hbefore, hafter, hcut⟩

end Pool

end GeoRouting
