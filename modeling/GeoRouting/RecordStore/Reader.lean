import GeoRouting.Reader
import GeoRouting.RecordStore.Basic

/-!
# Reading from a record store

A listing is a snapshot, sorted by the texts of the record sets. Record sets without a
geographic route take no part.
-/

namespace GeoRouting.RecordStore

/-- Puts record sets into the order of their texts; those of equal text keep theirs. -/
def sortByText (records : List RoutedRecordSet) : List RoutedRecordSet :=
  let keyed := records.map fun r => (r.text, r)
  (keyed.mergeSort fun a b => a.1 ≤ b.1).map Prod.snd

/-- Whether a selection, its type in upper case, covers a record set. -/
def covers : Selection → RoutedRecordSet → Bool
  | .all, _ => true
  | .named name, r => DomainName.same r.name name
  | .typed name type, r => DomainName.same r.name name && r.type == type

/-- The record sets of a zone that have a geographic route and that a selection covers. -/
def snapshot (zone : String) (selection : Selection) :
    Query RecordStore (List RoutedRecordSet) := do
  let records ← Query.ofExcept ((← ExceptT.lift Act.get).records zone)
  let chosen := sortByText (records.filter fun r => r.hasKind Route.geoKind && covers selection r)
  Query.say .debug s!"[{provider}] {chosen.length} geo records in zone={zone}"
  return chosen

def list (zone : String) (selection : Selection) : Query RecordStore (List RoutedRecordSet) := do
  let selection ← Query.ofExcept (selection.check provider)
  if selection = .all then
    Query.say .debug s!"[{provider}] list geo records zone={zone}"
  snapshot zone selection

/-- The first record set put that fits a target. -/
def getTarget (zone : String) (target : Target) : Query RecordStore (Option RoutedRecordSet) := do
  let t ← Query.ofExcept (target.check provider)
  let records ← Query.ofExcept ((← ExceptT.lift Act.get).records zone)
  return records.find? fun r =>
    covers (.typed t.name t.type) r && (r.geo?.map GeoRoute.group == some t.group)

/-- Adds the territories of a route to its group; those known already keep their place. -/
def addTerritories (regions : Dict (List String)) (g : GeoRoute) : Dict (List String) :=
  let known := (regions.get? g.group).getD []
  regions.insert g.group
    (g.territories.foldl (fun ts t => if ts.contains t then ts else ts ++ [t]) known)

/-- The groups of a zone, each with its territories in the order they first occur. -/
def regions (s : RecordStore) (zone : String) : Dict (List String) :=
  match s.records zone with
  | .ok records => (records.filterMap RoutedRecordSet.geo?).foldl addTerritories .empty
  | .error _ => .empty

/-- The record types that can be routed. -/
def types : List String := ["A", "AAAA", "CNAME", "MX", "NS", "PTR", "SPF", "SRV", "TXT"]

/-- Takes the first record set of a snapshot. -/
def next : List RoutedRecordSet → Option Item × List RoutedRecordSet
  | [] => (none, [])
  | r :: rs => (some (.ok r), rs)

/-- A reader of a zone, which has to exist. -/
def reader (zone : String) : Query RecordStore (Reader RecordStore (List RoutedRecordSet)) := do
  if !(← ExceptT.lift Act.get).containsZone zone then
    Query.say .warn s!"[{provider}] zone {zone} not found"
    Query.fail (.zoneNotFound provider zone)
  return {
    zone
    types
    regions := return (← Act.get).regions zone
    list := list zone
    next := fun listing => return next listing
    drain := fun listing => return listing.map .ok
    get := getTarget zone }

end GeoRouting.RecordStore
