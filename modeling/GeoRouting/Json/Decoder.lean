import GeoRouting.Json.Tree

/-!
# Reading records from JSON documents

A decoder takes a document and how many levels of arrays and objects it may still enter. A
record is read from an object, whose fields may stand in any order, or from an array of its
fields in declared order. In an object a declared field may stand once, and fields that are
not declared are passed over unread. In an array the last fields may be left out when they
have a default.
-/

namespace GeoRouting.Json

/-- A document nests at most this many arrays and objects. -/
def depthLimit : Nat := 127

abbrev Decoder (α : Type) := Nat → Tree → Option α

namespace Decoder
variable {α β : Type}

def text : Decoder String
  | _, .text s => s
  | _, _ => none

def bool : Decoder Bool
  | _, .bool b => some b
  | _, _ => none

/-- A natural number below `limit`, written as an integer. -/
def natural (limit : Nat) : Decoder Nat
  | _, .number (some (.integer n)) => if 0 ≤ n ∧ n < limit then some n.toNat else none
  | _, _ => none

def word16 : Decoder UInt16 := fun room t => (natural UInt16.size room t).map UInt16.ofNat

def word32 : Decoder UInt32 := fun room t => (natural UInt32.size room t).map UInt32.ofNat

/-- Reads `null` as absence. -/
def optional (d : Decoder α) : Decoder (Option α)
  | _, .null => some none
  | room, t => (d room t).map some

def list (d : Decoder α) : Decoder (List α)
  | 0, _ => none
  | room + 1, .array items => items.mapM (d room)
  | _, _ => none

/-- Reads an object with any fields; the last of one name stays. -/
def dict (d : Decoder α) : Decoder (Dict α)
  | 0, _ => none
  | room + 1, .object fields =>
    let entry (f : Option String × Tree) : Option (String × α) := do
      some (← f.1, ← d room f.2)
    (fields.mapM entry).map Dict.ofList
  | _, _ => none

def value : Decoder Value := Tree.value?

/-- Reads the whole document as a value before it reads the record, so that also the fields
passed over have to be sound. -/
def sound (d : Decoder α) : Decoder α := fun room t =>
  (t.value? room).bind fun _ => d room t

/-- A name out of a list. -/
def name (names : List (String × α)) : Decoder α := fun room t =>
  (text room t).bind fun s => names.lookup s

/-- A name out of a list, or an object that maps that name to null. -/
def choice (names : List (String × α)) : Decoder α
  | _ + 1, .object [(some s, .null)] => names.lookup s
  | room, t => name names room t

/-- The one field of a name; `none` when it is repeated. -/
def field (name : String) (fields : List (Option String × Tree)) : Option (Option Tree) :=
  match fields.filter fun f => f.1 == some name with
  | [] => some none
  | [f] => some (some f.2)
  | _ => none

/-- The declared fields of an object; every name in it has to be sound. -/
def fieldsOf (names : List String) (fields : List (Option String × Tree)) :
    Option (List (Option Tree)) :=
  if fields.all fun f => f.1.isSome then names.mapM (field · fields) else none

/-- The declared fields of a record, those left out as `none`. An array gives at least the
first `needed` of them. -/
def slots (names : List String) (needed : Nat) : Decoder (List (Option Tree))
  | 0, _ => none
  | _ + 1, .object fields => fieldsOf names fields
  | _ + 1, .array items =>
    if needed ≤ items.length ∧ items.length ≤ names.length then
      some (items.map some ++ List.replicate (names.length - items.length) none)
    else none
  | _, _ => none

/-- A field that has to be given. -/
def needed (d : Decoder α) (room : Nat) : Option Tree → Option α
  | none => none
  | some t => d (room - 1) t

/-- A field that may be left out or null. -/
def maybe (d : Decoder α) (room : Nat) : Option Tree → Option (Option α)
  | none => some none
  | some t => optional d (room - 1) t

/-- A field that may be left out. -/
def orElse (d : Decoder α) (value : α) (room : Nat) : Option Tree → Option α
  | none => some value
  | some t => d (room - 1) t

/-- Reads a record of several forms. The form stands in a field of its own, or first in an
array; what is left is read as the rest of the record. -/
def tagged (tag : String) (form : String → Option (Decoder α)) : Decoder α :=
  sound fun room t =>
    match t with
    | .object fields =>
      match fields.filter fun f => f.1 == some tag with
      | [(_, .text (some s))] =>
        (form s).bind fun d => d room (.object (fields.filter fun f => f.1 != some tag))
      | _ => none
    | .array (.text (some s) :: items) => (form s).bind fun d => d room (.array items)
    | _ => none

/-- Reads a text. -/
def read (d : Decoder α) (s : String) : Option α := (Tree.parse s).bind (d depthLimit)

end Decoder

end GeoRouting.Json
