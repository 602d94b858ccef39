import GeoRouting.Act

/-!
# Sources

A source answers calls over a state of its own. What it answers may change from call to call
and may be an error. A source can be watched, so that the calls made to it are known, and it
can be made to fail on purpose.
-/

namespace GeoRouting

abbrev Source (Call : Type) (Reply : Call → Type) (σ : Type) : Type :=
  (c : Call) → σ → Except GeoError (Reply c) × σ

/-- A source with the calls made to it so far. -/
structure Watched (σ Call : Type) where
  source : σ
  calls : List Call

/-- A source with the errors it still has to answer with, each for one kind of call. -/
structure Failing (σ κ : Type) where
  source : σ
  errors : List (κ × GeoError)

namespace Source
variable {Call : Type} {Reply : Call → Type} {σ κ : Type}

/-- A source whose data does not change. -/
def fixed (data : (c : Call) → Except GeoError (Reply c)) : Source Call Reply Unit :=
  fun c s => (data c, s)

/-- The same source, writing down every call. -/
def watched (source : Source Call Reply σ) : Source Call Reply (Watched σ Call) := fun c w =>
  let (reply, s) := source c w.source
  (reply, ⟨s, w.calls ++ [c]⟩)

/-- Takes the first error of a kind out of a list. -/
def takeError [BEq κ] (kind : κ) : List (κ × GeoError) → Option (GeoError × List (κ × GeoError))
  | [] => none
  | e :: es =>
    if e.1 == kind then some (e.2, es) else (takeError kind es).map fun p => (p.1, e :: p.2)

/-- The same source, except that a call is answered by the first error of its kind while
there is one. -/
def failing [BEq κ] (kind : Call → κ) (source : Source Call Reply σ) :
    Source Call Reply (Failing σ κ) := fun c f =>
  match takeError (kind c) f.errors with
  | some (e, errors) => (.error e, { f with errors })
  | none =>
    let (reply, s) := source c f.source
    (reply, { f with source := s })

/-- Makes a call. -/
def ask (source : Source Call Reply σ) (c : Call) : Query σ (Reply c) := .mk ⟨fun s =>
  let (reply, s) := source c s
  ⟨reply, s, []⟩⟩

@[simp] theorem run_ask (source : Source Call Reply σ) (c : Call) (s : σ) :
    (source.ask c).run.run s = ⟨(source c s).1, (source c s).2, []⟩ := rfl

end Source

end GeoRouting
