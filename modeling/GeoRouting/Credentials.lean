import GeoRouting.Json.Decoder
import GeoRouting.Text.Quoted

/-!
# Credentials

A provider declares the forms of credentials it accepts. Positional values fit a form by
their number, named values by their names. Nothing that describes credentials, neither their
summary nor the reason of a rejection, shows a value.
-/

namespace GeoRouting

inductive Credentials where
  | anonymous
  | list (values : List String)
  | map (values : Dict String)
deriving DecidableEq, Repr

namespace Credentials

/-- How many values are supplied. -/
def size : Credentials → Nat
  | .anonymous => 0
  | .list values => values.length
  | .map values => values.size

def isEmpty (c : Credentials) : Bool := c.size == 0

/-- The kind of credentials with the number or the names of the values. -/
def summary : Credentials → String
  | .anonymous => "Anonymous"
  | .list values => s!"List(<{values.length} values>)"
  | .map values => "Map(" ++ Text.quotedList values.keys ++ ")"

end Credentials

/-- A named list of parameters in positional order. -/
structure CredentialForm where
  name : String
  parameters : List String
deriving DecidableEq, Repr

namespace CredentialForm

def text (f : CredentialForm) : String := f.name ++ ": " ++ ", ".intercalate f.parameters

/-- The parameter names in key order, each once. -/
def parameterSet (f : CredentialForm) : List String :=
  (Dict.ofList (f.parameters.map fun p => (p, ()))).keys

def accepts (f : CredentialForm) : Credentials → Bool
  | .anonymous => f.parameters.isEmpty
  | .list values => values.length == f.parameters.length
  | .map values => values.size == f.parameters.length && f.parameterSet == values.keys

end CredentialForm

/-- The forms that a provider accepts, in declared order. -/
structure CredentialCatalog where
  provider : String
  forms : List CredentialForm
deriving DecidableEq, Repr

namespace CredentialCatalog

/-- What the provider requires. A single form is told by its own name. -/
def requirement (c : CredentialCatalog) : String :=
  match c.forms with
  | [] => s!"{c.provider} does not accept credentials"
  | [f] => f.name ++ " requires " ++ ", ".intercalate f.parameters
  | fs =>
    c.provider ++ " requires one of the following forms: when type is " ++
      "; ".intercalate (fs.map CredentialForm.text)

end CredentialCatalog

inductive CredentialRejection where
  /-- There is nothing to check against. -/
  | noProvider
  | notSupplied (requirement : String)
  | incorrect (requirement : String)
deriving DecidableEq, Repr

namespace CredentialRejection

def code : CredentialRejection → String
  | .noProvider => "ProviderMissing"
  | .notSupplied _ => "NotSupplied"
  | .incorrect _ => "Incorrect"

def message : CredentialRejection → String
  | .noProvider => "provider cannot be null"
  | .notSupplied requirement => s!"no credentials supplied. {requirement}"
  | .incorrect requirement => s!"incorrect credentials supplied. {requirement}"

end CredentialRejection

namespace Credentials

/-- The credentials to use with a provider. Absent, anonymous and empty credentials all count
as not supplied, which suits a provider without forms only. -/
def check (supplied : Option Credentials) (catalog : Option CredentialCatalog) :
    Except CredentialRejection Credentials :=
  match catalog with
  | none => .error .noProvider
  | some catalog =>
    match supplied.filter fun c => !c.isEmpty with
    | none =>
      if catalog.forms.isEmpty then .ok .anonymous
      else .error (.notSupplied catalog.requirement)
    | some c =>
      if catalog.forms.any fun f => f.accepts c then .ok c
      else .error (.incorrect catalog.requirement)

end Credentials

/-! ## JSON -/

open Json Decoder

namespace Credentials

def encode : Credentials → Value
  | .anonymous => .object [("type", .text "anonymous")]
  | .list values => .object [("type", .text "list"), ("values", .texts values)]
  | .map values =>
    .object [("type", .text "map"),
      ("values", .object (values.entries.map fun e => (e.1, .text e.2)))]

/-- How the values of a kind of credentials are read; anonymous ones have none. -/
def decodeValues (room : Nat) (values : Option Tree) : List (String × Option Credentials) :=
  [("anonymous", match values with
      | none | some .null => some .anonymous
      | some _ => none),
    ("list", (needed (Decoder.list .text) room values).map .list),
    ("map", (needed (dict .text) room values).map .map)]

/-- In an array the type is a plain name, in an object it may be a name mapped to null. -/
def decode : Decoder Credentials := fun room t => do
  let [type, values] ← slots ["type", "values"] 2 room t | none
  let kinds := decodeValues room values
  match t with
  | .array _ => needed (name kinds) room type >>= id
  | _ => needed (choice kinds) room type >>= id

end Credentials

namespace CredentialForm

def encode (f : CredentialForm) : Value :=
  .object [("name", .text f.name), ("parameters", .texts f.parameters)]

def decode : Decoder CredentialForm := fun room t => do
  let [name, parameters] ← slots ["name", "parameters"] 2 room t | none
  some {
    name := ← needed .text room name
    parameters := ← needed (list .text) room parameters }

end CredentialForm

namespace CredentialCatalog

def encode (c : CredentialCatalog) : Value :=
  .object [("provider", .text c.provider), ("shapes", .array (c.forms.map CredentialForm.encode))]

def decode : Decoder CredentialCatalog := fun room t => do
  let [provider, forms] ← slots ["provider", "shapes"] 2 room t | none
  some {
    provider := ← needed .text room provider
    forms := ← needed (list CredentialForm.decode) room forms }

end CredentialCatalog

end GeoRouting
