import GeoRouting.Proofs.Watching

/-!
# Failing calls

A source can be made to fail at one call, the one after a number of others. A computation over it
does what it does over the source itself as long as it does not come to that call. There it is cut
short: no later call is made, and the error is all that is added to what was there before.
-/

namespace GeoRouting

/-- The same source, writing down every call, except that the call after `j` others fails. -/
def Source.failingAt {Call : Type} {Reply : Call → Type} {σ : Type} (j : Nat) (e : GeoError)
    (source : Source Call Reply σ) : Source Call Reply (Watched σ Call) := fun c w =>
  if w.calls.length = j then (.error e, { w with calls := w.calls ++ [c] })
  else source.watched c w

namespace Act
variable {σ Call α β : Type} {j : Nat} {w : Watched σ Call}

/-- Whether `y` is `x` cut short at the call after `j` others: the two agree when `x` does not make
that call, and else it is the last one that `y` makes before it answers as `bad` says. -/
structure CutAt (j : Nat) (w : Watched σ Call) (bad : α → Prop)
    (x y : Act (Watched σ Call) α) : Prop where
  grows : w.calls <+: (x.run w).state.calls
  agrees : (x.run w).state.calls.length ≤ j → y.run w = x.run w
  stops : w.calls.length ≤ j → j < (x.run w).state.calls.length →
    (y.run w).state.calls = (x.run w).state.calls.take (j + 1) ∧ bad (y.run w).answer

/-- A computation without calls is not cut short. -/
theorem CutAt.of_silent {x : Act (Watched σ Call) α} (h : (x.run w).state.calls = w.calls)
    (bad : α → Prop) : CutAt j w bad x x where
  grows := h ▸ List.prefix_rfl
  agrees := fun _ => rfl
  stops := by
    intro hw hj
    rw [h] at hj
    exact absurd hj (Nat.not_lt.mpr hw)

variable {bad : α → Prop} {x y : Act (Watched σ Call) α}

/-- Only a computation that comes to the call is cut short. -/
theorem CutAt.within (h : CutAt j w bad x y) :
    CutAt j w (fun a => bad a ∧ w.calls.length ≤ j ∧ j < (x.run w).state.calls.length) x y where
  grows := h.grows
  agrees := h.agrees
  stops := by
    intro hw hj
    obtain ⟨hcalls, hbad⟩ := h.stops hw hj
    exact ⟨hcalls, hbad, hw, hj⟩

/-- What follows a computation that was cut short must make no calls. -/
theorem CutAt.bind {bad' : β → Prop} {f g : α → Act (Watched σ Call) β} (h : CutAt j w bad x y)
    (hf : CutAt j (x.run w).state bad' (f (x.run w).answer) (g (x.run w).answer))
    (hg : ∀ a v, bad a → ((g a).run v).state.calls = v.calls ∧ bad' ((g a).run v).answer) :
    CutAt j w bad' (x >>= f) (y >>= g) where
  grows := h.grows.trans hf.grows
  agrees := by
    intro hj
    have hx := h.agrees (hf.grows.length_le.trans hj)
    rw [run_bind, run_bind, hx, hf.agrees hj]
  stops := by
    intro hw hj
    rw [run_bind] at hj
    rw [run_bind, run_bind]
    rcases Nat.lt_or_ge j (x.run w).state.calls.length with hx | hx
    · obtain ⟨hcalls, hbad⟩ := h.stops hw hx
      obtain ⟨hrest, hbad'⟩ := hg _ (y.run w).state hbad
      refine ⟨?_, hbad'⟩
      dsimp only
      rw [hrest, hcalls]
      obtain ⟨more, hmore⟩ := hf.grows
      rw [← hmore, List.take_append_of_le_length hx]
    · rw [h.agrees hx]
      exact hf.stops hx hj

end Act

namespace Source
variable {σ Call Key : Type} {Reply : Key → Type} {j : Nat} {e : GeoError}

/-- Whether every call of `broken` is the one of `source` cut short. -/
def Cuts (j : Nat) (e : GeoError) (source broken : Source Key Reply (Watched σ Call)) : Prop :=
  ∀ c w, Act.CutAt j w (· = .error e) (source.ask c).run (broken.ask c).run

theorem failingAt_cuts {Reply : Call → Type} (j : Nat) (e : GeoError)
    (source : Source Call Reply σ) : Cuts j e source.watched (source.failingAt j e) := by
  intro c w
  have hcalls : (((source.watched.ask c).run).run w).state.calls = w.calls ++ [c] := rfl
  refine ⟨?_, ?_, ?_⟩
  · rw [hcalls]
    exact List.prefix_append w.calls [c]
  · intro hj
    rw [hcalls, List.length_append, List.length_singleton] at hj
    rw [run_ask, run_ask, failingAt, if_neg (by omega)]
  · intro hw hj
    rw [hcalls, List.length_append, List.length_singleton] at hj
    have hlength : w.calls.length = j := by omega
    rw [hcalls, run_ask, failingAt, if_pos hlength, List.take_of_length_le (by simp [hlength])]
    exact ⟨rfl, rfl⟩

end Source

namespace Query
variable {σ Call α β : Type} {j : Nat} {e : GeoError} {w : Watched σ Call}
  {x y : Query (Watched σ Call) α} {f g : α → Query (Watched σ Call) β}

theorem cutAt_bind (h : Act.CutAt j w (· = .error e) x.run y.run)
    (hf : ∀ a, (x.run.run w).answer = .ok a →
      Act.CutAt j (x.run.run w).state (· = .error e) (f a).run (g a).run) :
    Act.CutAt j w (· = .error e) (x >>= f).run (y >>= g).run := by
  rw [ExceptT.run_bind, ExceptT.run_bind]
  apply h.bind
  · cases ha : (x.run.run w).answer with
    | ok a => exact hf a ha
    | error e' => exact .of_silent rfl _
  · rintro a v rfl
    exact ⟨rfl, rfl⟩

end Query

/-! ## Grouping over a source that fails -/

section
variable {σ Call : Type} {j : Nat} {e : GeoError} {w : Watched σ Call}
  {load broken : TerritorySource (Watched σ Call)}

theorem TerritoryCache.resolve_cutAt (h : Source.Cuts j e load broken)
    (regions : Option RegionTable) (cache : TerritoryCache) (id : String) :
    Act.CutAt j w (fun out => out.1 = .error e) (cache.resolve load regions id)
      (cache.resolve broken regions id) := by
  rw [resolve, resolve]
  cases cache.get? id with
  | some codes => exact .of_silent rfl _
  | none =>
    apply (Act.CutAt.of_silent rfl fun _ => False).bind
    · apply (h id _).bind
      · apply Act.CutAt.of_silent
        split <;> rfl
      · rintro answer v rfl
        exact ⟨rfl, rfl⟩
    · intro _ _ hfalse
      exact hfalse.elim

theorem Run.build_cutAt (h : Source.Cuts j e load broken) (provider : String)
    (regions : Option RegionTable) (cache : TerritoryCache) (first : Row) (source : List Row) :
    Act.CutAt j w (fun built => built.1 = .error e)
      (build provider load regions cache first source)
      (build provider broken regions cache first source) := by
  rw [build, build]
  cases first.group? with
  | none =>
    apply Act.CutAt.of_silent
    simp only [Act.run_bind, Act.run_pure, RunFault.state_report]
  | some group =>
    apply (TerritoryCache.resolve_cutAt h regions cache group.id).bind
    · apply Act.CutAt.of_silent
      split
      · rfl
      · split
        · simp only [Act.run_bind, Act.run_pure, RunFault.state_report]
        · rfl
    · rintro ⟨answer, after⟩ v rfl
      exact ⟨rfl, rfl⟩

theorem Grouping.next_cutAt (h : Source.Cuts j e load broken) (cache : TerritoryCache)
    (g : Grouping) :
    Act.CutAt j w (fun out => out.1 = some (.error e)) (g.next load cache)
      (g.next broken cache) := by
  rw [next, next]
  cases g.failed with
  | true =>
    rw [if_pos rfl, if_pos rfl]
    exact .of_silent rfl _
  | false =>
    rw [if_neg Bool.false_ne_true, if_neg Bool.false_ne_true]
    cases g.rows.next? with
    | none => exact .of_silent rfl _
    | some p =>
      apply (Run.build_cutAt h g.provider g.regions cache p.1 p.2).bind
      · exact .of_silent rfl _
      · rintro built v hbuilt
        exact ⟨rfl, congrArg some hbuilt⟩

end

end GeoRouting
