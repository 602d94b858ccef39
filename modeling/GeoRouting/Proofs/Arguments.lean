import GeoRouting.Selection

/-!
# The arguments of a query

A query checks its arguments in the order name, type, group. The outcome is the error for the first
one that is blank, or else the query with its type in upper case.
-/

namespace GeoRouting

/-- The parameter of the first argument that is blank. -/
def firstBlank? (arguments : List (String × String)) : Option String :=
  (arguments.find? fun a => Text.isBlank a.2).map Prod.fst

/-- What checking some arguments gives: `checked`, unless one of them is blank. -/
def checkedUnlessBlank {α : Type} (provider : String) (arguments : List (String × String))
    (checked : α) : Except GeoError α :=
  (firstBlank? arguments).elim (.ok checked) fun param => .error (.emptyArgument provider param)

theorem firstBlank?_cons (param value : String) (arguments : List (String × String)) :
    firstBlank? ((param, value) :: arguments) =
      if Text.isBlank value then some param else firstBlank? arguments := by
  rw [firstBlank?, List.find?_cons]
  cases Text.isBlank value with
  | true => rfl
  | false => rfl

section
variable {α β : Type} {provider : String} {arguments : List (String × String)} {checked : α}

/-- One argument is looked at before the others. -/
theorem checkedUnlessBlank_cons (param value : String) :
    checkedUnlessBlank provider ((param, value) :: arguments) checked =
      (requireText provider param value >>= fun _ =>
        checkedUnlessBlank provider arguments checked) := by
  rw [checkedUnlessBlank, checkedUnlessBlank, firstBlank?_cons, requireText]
  cases Text.isBlank value with
  | true => rfl
  | false => rfl

theorem checkedUnlessBlank_of_none (h : firstBlank? arguments = none) :
    checkedUnlessBlank provider arguments checked = .ok checked := by
  rw [checkedUnlessBlank, h]
  rfl

theorem checkedUnlessBlank_of_some {param : String} (h : firstBlank? arguments = some param) :
    checkedUnlessBlank provider arguments checked = .error (.emptyArgument provider param) := by
  rw [checkedUnlessBlank, h]
  rfl

theorem eq_ok_of_checkedUnlessBlank_bind {f : α → Except GeoError β} {b : β}
    (h : (checkedUnlessBlank provider arguments checked).bind f = .ok b) : f checked = .ok b := by
  cases hfirst : firstBlank? arguments with
  | none =>
    rw [checkedUnlessBlank_of_none hfirst] at h
    exact h
  | some param =>
    rw [checkedUnlessBlank_of_some hfirst] at h
    cases h

/-- What is blank among the arguments decides the error. -/
theorem checkedUnlessBlank_bind_congr {others : List (String × String)} {checked' : α}
    {f : α → Except GeoError β} (hfirst : firstBlank? arguments = firstBlank? others)
    (hf : f checked = f checked') :
    (checkedUnlessBlank provider arguments checked).bind f =
      (checkedUnlessBlank provider others checked').bind f := by
  rw [checkedUnlessBlank, checkedUnlessBlank, hfirst]
  cases firstBlank? others with
  | none => exact hf
  | some param => rfl

end

/-- The texts that a listing takes, each with its parameter, in the order in which they are looked
at. -/
def Selection.arguments : Selection → List (String × String)
  | .all => []
  | .named name => [("name", name)]
  | .typed name type => [("name", name), ("type", type)]

theorem Selection.check_eq (provider : String) (selection : Selection) :
    selection.check provider =
      checkedUnlessBlank provider selection.arguments selection.upperCased := by
  cases selection with
  | all => rfl
  | named name =>
    rw [arguments, checkedUnlessBlank_cons]
    rfl
  | typed name type =>
    rw [arguments, checkedUnlessBlank_cons, checkedUnlessBlank_cons]
    rfl

/-- The texts of a target, in the same way. -/
def Target.arguments (t : Target) : List (String × String) :=
  [("name", t.name), ("type", t.type), ("group", t.group)]

theorem Target.check_eq (provider : String) (t : Target) :
    t.check provider =
      checkedUnlessBlank provider t.arguments { t with type := Text.upper t.type } := by
  rw [arguments, checkedUnlessBlank_cons, checkedUnlessBlank_cons, checkedUnlessBlank_cons]
  rfl

end GeoRouting
