import GeoRouting.Record.Basic

/-!
# Drafts of record sets

A draft collects the parts of a record set in any order and checks them once, when it is
finished. A part set twice keeps its last value; data is only ever added.
-/

namespace GeoRouting

structure Draft where
  name : String := ""
  type : String := ""
  ttl : Option UInt32 := none
  rdata : List Rdata := []
  routes : Dict Route := .empty
deriving DecidableEq, Repr

namespace Draft

/-- The provider that errors about record sets themselves are reported under. -/
def provider : String := "model"

inductive Step where
  | name (name : String)
  | type (type : String)
  | ttl (ttl : Option UInt32)
  | add (rdata : Rdata)
  | addAll (rdata : List Rdata)
  /-- A route replaces the one of its kind. -/
  | route (route : Route)
deriving DecidableEq, Repr

def apply (d : Draft) : Step → Draft
  | .name name => { d with name }
  | .type type => { d with type }
  | .ttl ttl => { d with ttl }
  | .add rdata => { d with rdata := d.rdata ++ [rdata] }
  | .addAll rdata => { d with rdata := d.rdata ++ rdata }
  | .route route => { d with routes := d.routes.insert route.kind route }

def ofSteps (steps : List Step) : Draft := steps.foldl apply {}

/-- What a draft lacks, in the order it is looked for. -/
inductive Flaw where
  | noName | noType | noRoute | noGroup | silence | noTerritory
deriving DecidableEq, Repr

def Flaw.error (d : Draft) (group : String) : Flaw → GeoError
  | .noName => .emptyArgument provider "name"
  | .noType => .emptyArgument provider "type"
  | .noRoute => .invalidArgument provider "config" s!"{d.name} {d.type} has no config"
  | .noGroup => .emptyArgument provider "groupName"
  | .silence =>
    .invalidArgument provider "rdata"
      s!"{d.name} {d.type} group {group}: rdata must be empty exactly when noResponse is set"
  | .noTerritory =>
    .invalidArgument provider "territories" s!"group {group} covers no territories"

/-- The first flaw of the record set itself. -/
def nameFlaw? (d : Draft) : Option Flaw :=
  if d.name = "" then some .noName else if d.type = "" then some .noType else none

/-- The first flaw of a geographic route beside the data it routes. -/
def routeFlaw? (d : Draft) (g : GeoRoute) : Option Flaw :=
  if g.group = "" then some .noGroup
  else if g.noResponse ≠ d.rdata.isEmpty then some .silence
  else if g.noResponse = false ∧ g.territories = [] then some .noTerritory
  else none

def geo? (d : Draft) : Option GeoRoute :=
  (d.routes.get? Route.geoKind).map fun
    | .geo route => route

/-- The first flaw of a routed record set. -/
def flaw? (d : Draft) : Option Flaw :=
  d.nameFlaw? <|>
    if d.routes.isEmpty then some .noRoute else d.geo?.bind d.routeFlaw?

def toRecords (d : Draft) : RecordSet := ⟨d.name, d.type, d.ttl, d.rdata⟩

def groupName (d : Draft) : String := (d.geo?.map GeoRoute.group).getD ""

/-- The record set without its routes. Name and type have to be given. -/
def recordSet (d : Draft) : Except GeoError RecordSet :=
  match d.nameFlaw? with
  | some flaw => .error (flaw.error d d.groupName)
  | none => .ok d.toRecords

/-- The record set with its routes. There has to be one; a geographic one needs a group, and
either data and territories or the no-response flag. -/
def routed (d : Draft) : Except GeoError RoutedRecordSet :=
  match d.flaw? with
  | some flaw => .error (flaw.error d d.groupName)
  | none => .ok ⟨d.toRecords, d.routes⟩

end Draft

end GeoRouting
