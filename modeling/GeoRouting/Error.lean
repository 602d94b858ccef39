import GeoRouting.Json.Decoder

/-!
# Errors

Every error names the provider it arose at. Some are part of ordinary use and answer what a
caller asked for; the others mean that a backend, or the data it holds, is at fault.
-/

namespace GeoRouting

inductive GeoError where
  | zoneNotFound (provider zone : String)
  | invalidArgument (provider param detail : String)
  /-- Rows that cannot be normalized. -/
  | contractViolation (provider detail : String)
  | unsupportedRecordType (provider type : String)
  | backend (provider detail : String)
deriving DecidableEq, Repr

namespace GeoError

/-- The name of the kind of error. -/
def code : GeoError → String
  | .zoneNotFound .. => "ZoneNotFound"
  | .invalidArgument .. => "InvalidArgument"
  | .contractViolation .. => "ContractViolation"
  | .unsupportedRecordType .. => "UnsupportedRecordType"
  | .backend .. => "Backend"

/-- The parameter that stands for credentials; its errors are shown without a preamble. -/
def credentialsParam : String := "credentials"

def message : GeoError → String
  | .zoneNotFound p zone => s!"[{p}] zone {zone} not found"
  | .invalidArgument p param detail =>
    if param = credentialsParam then s!"[{p}] {detail}"
    else s!"[{p}] Invalid argument '{param}': {detail}"
  | .contractViolation p detail => s!"[{p}] Contract violation: {detail}"
  | .unsupportedRecordType p type => s!"[{p}] Unsupported record type: {type}"
  | .backend p detail => s!"[{p}] Backend error: {detail}"

/-- Whether the error is part of ordinary use, such as a name that does not exist. -/
def isExpected : GeoError → Bool
  | .zoneNotFound .. | .invalidArgument .. | .unsupportedRecordType .. => true
  | .contractViolation .. | .backend .. => false

/-- The error for an argument that is blank or missing. -/
def emptyArgument (provider param : String) : GeoError :=
  .invalidArgument provider param "must not be empty"

open Json

def encode (e : GeoError) : Value :=
  .object <| ("code", .text e.code) :: match e with
    | .zoneNotFound p zone => [("provider", .text p), ("zone", .text zone)]
    | .invalidArgument p param detail =>
      [("provider", .text p), ("param", .text param), ("detail", .text detail)]
    | .contractViolation p detail => [("provider", .text p), ("detail", .text detail)]
    | .unsupportedRecordType p type => [("provider", .text p), ("record_type", .text type)]
    | .backend p detail => [("provider", .text p), ("detail", .text detail)]

/-- Reads an error of two texts, the provider and one more. -/
def decodePair (name : String) (make : String → String → GeoError) : Decoder GeoError :=
  fun room t => do
    let [p, s] ← Decoder.slots ["provider", name] 2 room t | none
    some (make (← Decoder.needed .text room p) (← Decoder.needed .text room s))

def decodeArgument : Decoder GeoError := fun room t => do
  let [p, s, d] ← Decoder.slots ["provider", "param", "detail"] 3 room t | none
  some (.invalidArgument (← Decoder.needed .text room p) (← Decoder.needed .text room s)
    (← Decoder.needed .text room d))

/-- How the error of a code is read. -/
def decoders : List (String × Decoder GeoError) :=
  [("ZoneNotFound", decodePair "zone" .zoneNotFound),
    ("InvalidArgument", decodeArgument),
    ("ContractViolation", decodePair "detail" .contractViolation),
    ("UnsupportedRecordType", decodePair "record_type" .unsupportedRecordType),
    ("Backend", decodePair "detail" .backend)]

def decode : Decoder GeoError := .tagged "code" fun code => decoders.lookup code

end GeoError

end GeoRouting
