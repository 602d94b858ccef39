import GeoRouting.Error
import GeoRouting.Log

/-!
# Computations over a backend

A computation runs over the state of a backend. It gives an answer, leaves a state and logs
lines, in the order of its steps. A query is a computation that can fail; what it did to the
backend and what it logged before the failure stays done.
-/

namespace GeoRouting

structure Outcome (σ α : Type) where
  answer : α
  state : σ
  log : List LogLine

structure Act (σ α : Type) where
  run : σ → Outcome σ α

namespace Act
variable {σ α β : Type}

instance : Monad (Act σ) where
  pure a := ⟨fun s => ⟨a, s, []⟩⟩
  bind x f := ⟨fun s =>
    let first := x.run s
    let second := (f first.answer).run first.state
    ⟨second.answer, second.state, first.log ++ second.log⟩⟩

@[simp] theorem run_pure (a : α) (s : σ) : (pure a : Act σ α).run s = ⟨a, s, []⟩ := rfl

@[simp] theorem run_bind (x : Act σ α) (f : α → Act σ β) (s : σ) :
    (x >>= f).run s =
      ⟨((f (x.run s).answer).run (x.run s).state).answer,
        ((f (x.run s).answer).run (x.run s).state).state,
        (x.run s).log ++ ((f (x.run s).answer).run (x.run s).state).log⟩ := rfl

@[simp] theorem run_map (f : α → β) (x : Act σ α) (s : σ) :
    (f <$> x).run s = ⟨f (x.run s).answer, (x.run s).state, (x.run s).log⟩ := by
  change (x >>= (pure ∘ f)).run s = _
  simp

theorem ext_run {x y : Act σ α} (h : ∀ s, x.run s = y.run s) : x = y := by
  cases x; cases y; congr; exact funext h

instance : LawfulMonad (Act σ) := .mk' (Act σ)
  (fun x => ext_run fun s => by simp)
  (fun a f => ext_run fun s => by simp)
  (fun x f g => ext_run fun s => by simp)

/-- Logs one line. -/
def say (level : Level) (text : String) : Act σ Unit := ⟨fun s => ⟨(), s, [⟨level, text⟩]⟩⟩

@[simp] theorem run_say (level : Level) (text : String) (s : σ) :
    (say level text).run s = ⟨(), s, [⟨level, text⟩]⟩ := rfl

/-- The state. -/
def get : Act σ σ := ⟨fun s => ⟨s, s, []⟩⟩

@[simp] theorem run_get (s : σ) : (get : Act σ σ).run s = ⟨s, s, []⟩ := rfl

/-- Changes the state. -/
def modify (f : σ → σ) : Act σ Unit := ⟨fun s => ⟨(), f s, []⟩⟩

@[simp] theorem run_modify (f : σ → σ) (s : σ) : (modify f).run s = ⟨(), f s, []⟩ := rfl

end Act

/-- A computation that can fail. -/
abbrev Query (σ α : Type) : Type := ExceptT GeoError (Act σ) α

namespace Query
variable {σ α β : Type}

def fail (e : GeoError) : Query σ α := throw e

/-- Logs one line. -/
def say (level : Level) (text : String) : Query σ Unit := ExceptT.lift (Act.say level text)

/-- Changes the state. -/
def modify (f : σ → σ) : Query σ Unit := ExceptT.lift (Act.modify f)

def ofExcept (r : Except GeoError α) : Query σ α := ExceptT.mk (pure r)

@[simp] theorem run_pure (a : α) (s : σ) : (pure a : Query σ α).run.run s = ⟨.ok a, s, []⟩ := rfl

@[simp] theorem run_fail (e : GeoError) (s : σ) :
    (fail e : Query σ α).run.run s = ⟨.error e, s, []⟩ := rfl

@[simp] theorem run_say (level : Level) (text : String) (s : σ) :
    (say level text).run.run s = ⟨.ok (), s, [⟨level, text⟩]⟩ := rfl

@[simp] theorem run_modify (f : σ → σ) (s : σ) :
    (modify f : Query σ Unit).run.run s = ⟨.ok (), f s, []⟩ := rfl

@[simp] theorem run_ofExcept (r : Except GeoError α) (s : σ) :
    (ofExcept r).run.run s = ⟨r, s, []⟩ := rfl

@[simp] theorem run_lift (x : Act σ α) (s : σ) :
    (ExceptT.lift x : Query σ α).run.run s =
      ⟨.ok (x.run s).answer, (x.run s).state, (x.run s).log⟩ := by
  simp

theorem run_bind_ok {x : Query σ α} {f : α → Query σ β} {s : σ} {a : α}
    (h : (x.run.run s).answer = .ok a) :
    (x >>= f).run.run s =
      ⟨((f a).run.run (x.run.run s).state).answer, ((f a).run.run (x.run.run s).state).state,
        (x.run.run s).log ++ ((f a).run.run (x.run.run s).state).log⟩ := by
  rw [ExceptT.run_bind, Act.run_bind, h]

theorem run_bind_error {x : Query σ α} {f : α → Query σ β} {s : σ} {e : GeoError}
    (h : (x.run.run s).answer = .error e) :
    (x >>= f).run.run s = ⟨.error e, (x.run.run s).state, (x.run.run s).log⟩ := by
  rw [ExceptT.run_bind, Act.run_bind, h]
  simp

theorem bind_eq_ok {x : Query σ α} {f : α → Query σ β} {s : σ} {b : β} :
    ((x >>= f).run.run s).answer = .ok b ↔
      ∃ a, (x.run.run s).answer = .ok a ∧
        ((f a).run.run (x.run.run s).state).answer = .ok b := by
  cases h : (x.run.run s).answer with
  | error e =>
    rw [run_bind_error h]
    constructor
    · intro hb
      cases hb
    · rintro ⟨_, ha, _⟩
      cases ha
  | ok a =>
    rw [run_bind_ok h]
    exact ⟨fun hb => ⟨a, rfl, hb⟩, fun ⟨_, ha, hb⟩ => Except.ok.inj ha ▸ hb⟩

end Query

end GeoRouting
