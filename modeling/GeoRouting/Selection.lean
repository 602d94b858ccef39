import GeoRouting.Error
import GeoRouting.Text.Blank
import GeoRouting.Text.Case

/-!
# What a query asks for

Every text of a query has to hold more than white space; the first that does not is
reported. Record types are asked for in upper case.
-/

namespace GeoRouting

/-- Refuses a blank argument. -/
def requireText (provider param value : String) : Except GeoError Unit :=
  if Text.isBlank value then .error (.emptyArgument provider param) else .ok ()

theorem requireText_eq_ok {provider param value : String} :
    requireText provider param value = .ok () ↔ Text.isBlank value = false := by
  unfold requireText
  cases Text.isBlank value <;> simp

theorem eq_ok_of_requireText_bind {α : Type} {provider param value : String}
    {f : Unit → Except GeoError α} {a : α}
    (h : (requireText provider param value >>= f) = .ok a) : f () = .ok a := by
  cases hv : requireText provider param value with
  | error e =>
    rw [hv] at h
    cases h
  | ok _ =>
    rw [hv] at h
    exact h

/-- The record sets that a listing covers. -/
inductive Selection where
  | all
  | named (name : String)
  | typed (name type : String)
deriving DecidableEq, Repr

/-- The selection if none of its texts is blank, with its type in upper case. -/
def Selection.check (provider : String) : Selection → Except GeoError Selection
  | .all => .ok .all
  | .named name => do
    requireText provider "name" name
    return .named name
  | .typed name type => do
    requireText provider "name" name
    requireText provider "type" type
    return .typed name (Text.upper type)

namespace Selection
variable {provider name type : String}

theorem check_all : all.check provider = .ok .all := rfl

theorem check_named (hn : Text.isBlank name = false) :
    (named name).check provider = .ok (.named name) := by
  rw [check, requireText_eq_ok.mpr hn]
  rfl

theorem check_typed (hn : Text.isBlank name = false) (ht : Text.isBlank type = false) :
    (typed name type).check provider = .ok (.typed name (Text.upper type)) := by
  rw [check, requireText_eq_ok.mpr hn, requireText_eq_ok.mpr ht]
  rfl

/-- The selection with its type in upper case. -/
def upperCased : Selection → Selection
  | .all => .all
  | .named name => .named name
  | .typed name type => .typed name (Text.upper type)

theorem eq_upperCased_of_check {selection checked : Selection}
    (h : selection.check provider = .ok checked) : checked = selection.upperCased := by
  cases selection with
  | all => exact (Except.ok.inj h).symm
  | named name =>
    rw [check] at h
    have hname := eq_ok_of_requireText_bind h
    exact (Except.ok.inj hname).symm
  | typed name type =>
    rw [check] at h
    have hname := eq_ok_of_requireText_bind h
    have htype := eq_ok_of_requireText_bind hname
    exact (Except.ok.inj htype).symm

end Selection

/-- The record set of one name and type that is answered to one group. -/
structure Target where
  name : String
  type : String
  group : String
deriving DecidableEq, Repr

/-- The target with its type in upper case. -/
def Target.check (provider : String) (t : Target) : Except GeoError Target := do
  requireText provider "name" t.name
  requireText provider "type" t.type
  requireText provider "group" t.group
  return { t with type := Text.upper t.type }

theorem Target.check_eq_ok {provider : String} {t : Target} (hn : Text.isBlank t.name = false)
    (ht : Text.isBlank t.type = false) (hg : Text.isBlank t.group = false) :
    t.check provider = .ok { t with type := Text.upper t.type } := by
  rw [check, requireText_eq_ok.mpr hn, requireText_eq_ok.mpr ht, requireText_eq_ok.mpr hg]
  rfl

end GeoRouting
