import GeoRouting.Pool.Store

/-!
# Sources whose data does not change

From some state on, a source may answer every call as a function of that call alone, whatever is
asked in between. Its state may still move: a source that counts its calls is steady as well.
What a listing over a steady source gives can then be said without the state.
-/

namespace GeoRouting.Source
variable {Call : Type} {Reply : Call → Type} {σ : Type}

/-- The state of a source after a run of calls. -/
def after (source : Source Call Reply σ) (calls : List Call) (s : σ) : σ :=
  calls.foldl (fun s c => (source c s).2) s

/-- Every call is answered from `data`, now and after any calls made from here. -/
def Steady (source : Source Call Reply σ) (data : (c : Call) → Except GeoError (Reply c))
    (s : σ) : Prop :=
  ∀ calls c, (source c (source.after calls s)).1 = data c

section
variable {source : Source Call Reply σ} {data : (c : Call) → Except GeoError (Reply c)} {s : σ}

theorem after_append (calls later : List Call) (s : σ) :
    source.after (calls ++ later) s = source.after later (source.after calls s) :=
  List.foldl_append

/-- Whether a state can be reached from another by calls. -/
def Reaches (source : Source Call Reply σ) (s t : σ) : Prop := ∃ calls, source.after calls s = t

theorem reaches_refl (s : σ) : source.Reaches s s := ⟨[], rfl⟩

theorem reaches_call (c : Call) (s : σ) : source.Reaches s (source c s).2 := ⟨[c], rfl⟩

theorem Reaches.trans {s t u : σ} (h : source.Reaches s t) (h' : source.Reaches t u) :
    source.Reaches s u := by
  obtain ⟨calls, rfl⟩ := h
  obtain ⟨later, rfl⟩ := h'
  exact ⟨calls ++ later, after_append calls later s⟩

theorem Steady.answer (h : source.Steady data s) (c : Call) : (source c s).1 = data c := h [] c

theorem Steady.of_reaches {t : σ} (h : source.Steady data s) (ht : source.Reaches s t) :
    source.Steady data t := by
  obtain ⟨calls, rfl⟩ := ht
  intro later c
  rw [← after_append]
  exact h (calls ++ later) c

theorem after_of_unchanged (h : ∀ c, (source c s).2 = s) (calls : List Call) :
    source.after calls s = s := by
  induction calls with
  | nil => rfl
  | cons d calls ih =>
    rw [after, List.foldl_cons, h d]
    exact ih

/-- A source that calls leave as it is answers from what it has. -/
theorem steady_of_unchanged (h : ∀ c, source c s = (data c, s)) : source.Steady data s := by
  intro calls c
  have hs : ∀ d, (source d s).2 = s := fun d => congrArg Prod.snd (h d)
  rw [after_of_unchanged hs, h c]

end

theorem fixed_steady (data : (c : Call) → Except GeoError (Reply c)) (s : Unit) :
    (fixed data).Steady data s :=
  steady_of_unchanged fun _ => rfl

end GeoRouting.Source

namespace GeoRouting

theorem PoolSource.after_territories {σ : Type} (source : PoolSource σ) (ids : List String)
    (s : σ) :
    source.territories.after ids s = source.after (ids.map PoolCall.territories) s := by
  induction ids generalizing s with
  | nil => rfl
  | cons id ids ih => exact ih _

theorem PoolSource.reaches_of_territories {σ : Type} {source : PoolSource σ} {s t : σ}
    (h : source.territories.Reaches s t) : source.Reaches s t := by
  obtain ⟨ids, rfl⟩ := h
  exact ⟨ids.map PoolCall.territories, (source.after_territories ids s).symm⟩

/-- The territories that a pool backend answers with are steady when the backend is. -/
theorem PoolSource.territories_steady {σ : Type} {source : PoolSource σ}
    {data : (c : PoolCall) → Except GeoError c.Reply} {s : σ} (h : source.Steady data s) :
    source.territories.Steady (fun id => data (.territories id)) s := by
  intro ids id
  rw [PoolSource.after_territories]
  exact h _ (.territories id)

/-- A store of pools answers from the state that it is in. -/
theorem PoolStore.source_steady (s : PoolStore) : PoolStore.source.Steady s.reply s :=
  Source.steady_of_unchanged fun _ => rfl

end GeoRouting
