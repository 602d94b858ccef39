import GeoRouting.Pool.Basic
import GeoRouting.Source
import GeoRouting.Territory.Resolver

/-!
# What a pool backend is asked
-/

namespace GeoRouting

inductive PoolCall where
  | zoneExists (zone : String)
  | pools (zone : String)
  /-- The rows of a name in one bucket, in the order of the backend. -/
  | rows (zone name : String) (bucket : Bucket)
  | groupRows (coordinates : GroupCoordinates)
  | territories (groupId : String)
deriving DecidableEq, Repr

namespace PoolCall

abbrev Reply : PoolCall → Type
  | .zoneExists _ => Bool
  | .pools _ => List Pool
  | .rows .. => List Row
  | .groupRows _ => List Row
  | .territories _ => List String

inductive Kind where
  | zoneExists | pools | rows | groupRows | territories
deriving DecidableEq, Repr

def kind : PoolCall → Kind
  | .zoneExists _ => .zoneExists
  | .pools _ => .pools
  | .rows .. => .rows
  | .groupRows _ => .groupRows
  | .territories _ => .territories

def Kind.name : Kind → String
  | .zoneExists => "zone_exists"
  | .pools => "list_pools"
  | .rows => "list_records_by_name_and_type"
  | .groupRows => "list_records_by_group"
  | .territories => "territories_for_group_id"

def Kind.all : List Kind := [.zoneExists, .pools, .rows, .groupRows, .territories]

def arguments : PoolCall → List String
  | .zoneExists zone => [zone]
  | .pools zone => [zone]
  | .rows zone name bucket => [zone, name, toString bucket.code.toNat]
  | .groupRows c => [c.zone, c.name, toString c.type.toNat, c.group]
  | .territories groupId => [groupId]

/-- The name of the call and its arguments. -/
def text (c : PoolCall) : String := c.kind.name ++ " " ++ " ".intercalate c.arguments

end PoolCall

/-- A backend that serves directional pools. -/
abbrev PoolSource (σ : Type) : Type := Source PoolCall PoolCall.Reply σ

/-- A pool backend as a source of territories. -/
def PoolSource.territories {σ : Type} (source : PoolSource σ) : TerritorySource σ :=
  fun id => source (.territories id)

end GeoRouting
