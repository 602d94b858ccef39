import GeoRouting.DomainName
import GeoRouting.Rdata
import GeoRouting.Text.Excerpt

/-!
# Rows

A row is one value of a directional record, as a backend stores it, with the group of
territories it is answered to. Consecutive rows that agree in name, type, time to live and
group belong to one record set.
-/

namespace GeoRouting

/-- A group as a backend refers to it: territories are loaded by the id, and groups are told
apart by the name. -/
structure GroupRef where
  id : String
  name : String
deriving DecidableEq, Repr

structure Row where
  name : String
  type : String
  ttl : Option UInt32
  /-- Positional values. -/
  values : List String
  /-- The row answers with nothing. -/
  noResponse : Bool := false
  geoGroup : Option GroupRef := none
  /-- Stands in when there is no geographic group. -/
  plainGroup : Option GroupRef := none
deriving DecidableEq, Repr

namespace Row

def group? (r : Row) : Option GroupRef := r.geoGroup <|> r.plainGroup

def groupName? (r : Row) : Option String := r.group?.map GroupRef.name

/-- Whether two rows belong to one run. A row without a group is in no run with another. -/
def sameRun (r s : Row) : Bool :=
  r.type == s.type && r.ttl == s.ttl && Text.sameLetters r.name s.name &&
    match r.groupName?, s.groupName? with
    | some g, some h => g == h
    | _, _ => false

/-- Whether a row comes before another by type and then by group, rows without a group
first. -/
def precedes (r s : Row) : Bool :=
  if r.type = s.type then
    match r.groupName?, s.groupName? with
    | none, _ => true
    | some _, none => false
    | some g, some h => g ≤ h
  else r.type < s.type

/-- Sorts rows by type and group; rows that agree in both keep their order. -/
def sort (rows : List Row) : List Row := rows.mergeSort precedes

end Row

end GeoRouting
