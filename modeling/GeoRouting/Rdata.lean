import GeoRouting.Dict
import GeoRouting.Error
import GeoRouting.Json.Value
import GeoRouting.Text.Blank

/-!
# Record data

Backends hand the data of a record over as a list of strings. Each record type lays them out
as named fields, and numeric fields are read as numbers, so that data from different
backends compares equal.
-/

namespace GeoRouting

/-- The data of one record by field. -/
abbrev Rdata := Dict Json.Value

namespace Rdata

inductive Field where
  | text (key : String)
  | number (key : String)
deriving DecidableEq, Repr

def Field.key : Field → String
  | .text key | .number key => key

/-- The fields of each record type in positional order. -/
def layouts : List (String × List Field) :=
  [("A", [.text "address"]),
    ("AAAA", [.text "address"]),
    ("CNAME", [.text "cname"]),
    ("MX", [.number "preference", .text "exchange"]),
    ("NAPTR", [.number "order", .number "preference", .text "flags", .text "services",
      .text "regexp", .text "replacement"]),
    ("NS", [.text "nsdname"]),
    ("PTR", [.text "ptrdname"]),
    ("SPF", [.text "txtdata"]),
    ("SRV", [.number "priority", .number "weight", .number "port", .text "target"]),
    ("TXT", [.text "txtdata"])]

def layout? (type : String) : Option (List Field) := layouts.lookup type

def isSupported (type : String) : Bool := (layout? type).isSome

/-- The field that joins all values with spaces: the backend may have split the text. -/
def joined : List Field := [.text "txtdata"]

/-- Numeric fields are below this bound. -/
def numberLimit : Nat := UInt32.size

/-- The number that a field holds: white space around it, one plus sign and leading zeros
are allowed. -/
def number? (raw : String) : Option Nat :=
  let digits := match (Text.trim raw).toList with
    | '+' :: cs => cs
    | cs => cs
  if digits ≠ [] ∧ digits.all Char.isDigit then
    let n := digits.foldl (fun n c => 10 * n + (c.toNat - '0'.toNat)) 0
    if n < numberLimit then some n else none
  else none

/-- Why values are no data of a record type. -/
inductive Fault where
  | unknownType
  | count (fields : List Field) (got : Nat)
  | notNumber (key raw : String)
deriving DecidableEq, Repr

def Fault.error (provider type : String) : Fault → GeoError
  | .unknownType => .unsupportedRecordType provider type
  | .count fields got =>
    let keys := ", ".intercalate (fields.map Field.key)
    .invalidArgument provider "rdata"
      s!"{type} expects {fields.length} values ({keys}), got {got}"
  | .notNumber key raw =>
    .invalidArgument provider "rdata" s!"{type} {key} is not a number: {raw}"

def Field.read (f : Field) (raw : String) : Except Fault Json.Value :=
  match f with
  | .text _ => .ok (.text raw)
  | .number key =>
    match number? raw with
    | some n => .ok (.number (.integer n))
    | none => .error (.notNumber key raw)

/-- Reads each value by the field at its position; the first that is no number is reported. -/
def readFields : List Field → List String → Except Fault (List (String × Json.Value))
  | f :: fs, raw :: raws => do
    let value ← f.read raw
    let rest ← readFields fs raws
    .ok ((f.key, value) :: rest)
  | _, _ => .ok []

/-- The data that a list of values stands for. -/
def ofValues (type : String) (values : List String) : Except Fault Rdata :=
  match layout? type with
  | none => .error .unknownType
  | some fields =>
    if fields = joined ∧ values ≠ [] then
      .ok (.single "txtdata" (.text (" ".intercalate values)))
    else if values.length ≠ fields.length then .error (.count fields values.length)
    else (readFields fields values).map Dict.ofList

/-- As `ofValues`, with the error labelled by a provider. -/
def convert (provider type : String) (values : List String) : Except GeoError Rdata :=
  (ofValues type values).mapError (Fault.error provider type)

end Rdata

end GeoRouting
