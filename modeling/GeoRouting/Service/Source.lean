import GeoRouting.Service.Basic
import GeoRouting.Source

/-!
# What a service backend is asked
-/

namespace GeoRouting

inductive ServiceCall where
  | zoneExists (zone : String)
  /-- Every service of the account, across all zones. -/
  | services
deriving DecidableEq, Repr

namespace ServiceCall

abbrev Reply : ServiceCall → Type
  | .zoneExists _ => Bool
  | .services => List GeoService

inductive Kind where
  | zoneExists | services
deriving DecidableEq, Repr

def kind : ServiceCall → Kind
  | .zoneExists _ => .zoneExists
  | .services => .services

def Kind.name : Kind → String
  | .zoneExists => "zone_exists"
  | .services => "list_services"

def Kind.all : List Kind := [.zoneExists, .services]

def arguments : ServiceCall → List String
  | .zoneExists zone => [zone]
  | .services => []

/-- The name of the call and its arguments. -/
def text (c : ServiceCall) : String := c.kind.name ++ " " ++ " ".intercalate c.arguments

end ServiceCall

/-- A backend that serves geo services. -/
abbrev ServiceSource (σ : Type) : Type := Source ServiceCall ServiceCall.Reply σ

end GeoRouting
