import GeoRouting.Json.Decoder
import GeoRouting.Error

/-!
# Regions

A region table names regions and lists the countries of each. A list of territories made of
one region name alone stands for the countries of that region.
-/

namespace GeoRouting

structure RegionTable where
  regions : Dict (List String)
deriving DecidableEq, Repr

namespace RegionTable

def empty : RegionTable := ⟨.empty⟩

def isRegion (t : RegionTable) (code : String) : Bool := t.regions.contains code

def countries? (t : RegionTable) (region : String) : Option (List String) := t.regions.get? region

/-- The first region, in key order, that lists a country. -/
def regionOf? (t : RegionTable) (country : String) : Option String :=
  (t.regions.entries.find? fun e => e.2.contains country).map Prod.fst

/-- A region name that stands alone becomes its countries; any other list stays. -/
def expand (t : RegionTable) (codes : List String) : List String :=
  match codes with
  | [code] => (t.countries? code).getD codes
  | _ => codes

open Json Decoder

def encode (t : RegionTable) : Value :=
  .object (t.regions.entries.map fun e => (e.1, .texts e.2))

def decode : Decoder RegionTable := fun room t => (dict (list .text) room t).map RegionTable.mk

/-- The table that a configuration text holds. -/
def ofText (text : String) : Except GeoError RegionTable :=
  match decode.read text with
  | some t => .ok t
  | none => .error (.invalidArgument "config" "regions" "invalid region table")

end RegionTable

end GeoRouting
