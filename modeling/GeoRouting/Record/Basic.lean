import GeoRouting.Rdata
import GeoRouting.Json.Printer

/-!
# Record sets

A record set is the data of all records of one name and type. A routed record set also says
to whom it is answered: routes are keyed by their kind, and geographic routing is the only
kind there is.
-/

namespace GeoRouting

structure RecordSet where
  name : String
  type : String
  /-- Seconds, if the backend reports them. -/
  ttl : Option UInt32
  rdata : List Rdata
deriving DecidableEq, Repr

/-- Routing of a record set to the territories of a group. -/
structure GeoRoute where
  group : String
  territories : List String
  /-- The group is answered with nothing, on purpose. -/
  noResponse : Bool := false
deriving DecidableEq, Ord, Repr

inductive Route where
  | geo (route : GeoRoute)
deriving DecidableEq, Repr

namespace Route

def geoKind : String := "geo"

/-- The name that a route is keyed by. -/
def kind : Route → String
  | .geo _ => geoKind

end Route

structure RoutedRecordSet where
  records : RecordSet
  routes : Dict Route
deriving DecidableEq, Repr

namespace RoutedRecordSet

def name (r : RoutedRecordSet) : String := r.records.name

def type (r : RoutedRecordSet) : String := r.records.type

def hasKind (r : RoutedRecordSet) (kind : String) : Bool := r.routes.contains kind

/-- The geographic route, if there is one. -/
def geo? (r : RoutedRecordSet) : Option GeoRoute :=
  (r.routes.get? Route.geoKind).map fun
    | .geo route => route

end RoutedRecordSet

/-! ## Texts -/

/-- A text stands as it is, any other value as JSON. -/
def Rdata.valueText : Json.Value → String
  | .text s => s
  | v => v.print

def Rdata.text (r : Rdata) : String :=
  let entry (e : String × Json.Value) : String := e.1 ++ "=" ++ Rdata.valueText e.2
  "\x7b" ++ ", ".intercalate (r.entries.map entry) ++ "\x7d"

def RecordSet.text (r : RecordSet) : String :=
  let ttl := match r.ttl with
    | none => ""
    | some t => " " ++ toString t.toNat
  r.name ++ " " ++ r.type ++ ttl ++ " [" ++ ", ".intercalate (r.rdata.map Rdata.text) ++ "]"

def GeoRoute.text (g : GeoRoute) : String :=
  "geo(group=" ++ g.group ++ ", territories=[" ++ ", ".intercalate g.territories ++ "]" ++
    (if g.noResponse then ", noResponse" else "") ++ ")"

def Route.text : Route → String
  | .geo route => route.text

def RoutedRecordSet.text (r : RoutedRecordSet) : String :=
  r.records.text ++ String.join (r.routes.values.map fun route => " " ++ route.text)

end GeoRouting
