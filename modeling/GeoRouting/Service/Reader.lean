import GeoRouting.Reader
import GeoRouting.Service.Source
import GeoRouting.Text.Quoted

/-!
# Reading from geo services

A query fetches all services once and keeps those with a node that matches. Their values
become rows, group by group, record set by record set and node by node, and the rows are
grouped as they stand. The territories of a group are its countries, found by the names of
the service and the group.
-/

namespace GeoRouting

/-- What a query keeps of the services; `none` keeps everything. -/
structure ServiceFilter where
  name : Option String := none
  type : Option String := none
  group : Option String := none
deriving DecidableEq, Repr

namespace ServiceFilter

def ofSelection : Selection → ServiceFilter
  | .all => {}
  | .named name => { name := some name }
  | .typed name type => { name := some name, type := some type }

def ofTarget (t : Target) : ServiceFilter :=
  { name := some t.name, type := some t.type, group := some t.group }

def keepsNode (f : ServiceFilter) (zone : String) (n : Node) : Bool :=
  n.zone == zone && f.name.all fun name => DomainName.same n.fqdn name

def keepsGroup (f : ServiceFilter) (g : RegionGroup) : Bool :=
  f.group.all fun name => name == g.name

def keepsRecords (f : ServiceFilter) (r : ServiceRecords) : Bool :=
  f.type.all fun type => type == r.type

def text (f : ServiceFilter) : String :=
  "Query \x7b name: " ++ Text.quotedOption f.name ++ ", record_type: " ++
    Text.quotedOption f.type ++ ", group: " ++ Text.quotedOption f.group ++ " \x7d"

end ServiceFilter

/-- A service listing in progress: its rows and the countries of its groups. -/
structure ServiceListing where
  countries : Dict (List String)
  cache : TerritoryCache := .empty
  grouping : Grouping
deriving DecidableEq, Repr

namespace GeoService
variable {σ : Type}

/-- The id of a group of a service. -/
def groupId (s : GeoService) (g : RegionGroup) : String := s.name ++ "/" ++ g.name

/-- The rows of one record set at one node: one a value, or one that answers nothing. -/
def nodeRows (group : GroupRef) (r : ServiceRecords) (n : Node) : List Row :=
  let row (values : List String) (noResponse : Bool) : Row :=
    { name := n.fqdn, type := r.type, ttl := r.ttl, values, noResponse, geoGroup := some group }
  if r.values.isEmpty then [row [] true] else r.values.map fun values => row values false

/-- The rows of a service that a filter keeps, the rows of a run side by side. -/
def rows (f : ServiceFilter) (zone : String) (s : GeoService) : List Row :=
  let nodes := s.nodes.filter (f.keepsNode zone)
  (s.groups.filter f.keepsGroup).flatMap fun g =>
    (g.records.filter f.keepsRecords).flatMap fun r =>
      nodes.flatMap fun n => nodeRows ⟨s.groupId g, g.name⟩ r n

/-- The countries of all groups by their ids; of two groups of one id the last stays. -/
def countries (services : List GeoService) : Dict (List String) :=
  .ofList (services.flatMap fun s => s.groups.map fun g => (s.groupId g, g.countries))

/-- Countries as a source of territories. -/
def territories (countries : Dict (List String)) : TerritorySource σ := fun id s =>
  match countries.get? id with
  | some codes => (.ok codes, s)
  | none => (.error (.backend provider s!"no region group {id}"), s)

/-- Asks whether a zone is there and fails when it is not. -/
def requireZone (source : ServiceSource σ) (zone : String) : Query σ Unit := do
  if !(← source.ask (.zoneExists zone)) then
    Query.say .warn s!"[{provider}] zone {zone} not found"
    Query.fail (.zoneNotFound provider zone)

/-- The listing of what a filter keeps. -/
def listing (source : ServiceSource σ) (zone : String) (regions : RegionTable)
    (f : ServiceFilter) : Query σ ServiceListing := do
  requireZone source zone
  Query.say .debug s!"[{provider}] list geo services zone={zone} {f.text}"
  let services ← source.ask .services
  let services := services.filter fun s => s.nodes.any (f.keepsNode zone)
  return {
    countries := countries services
    grouping := .ofRows provider (some regions) (services.flatMap (rows f zone)) }

def list (source : ServiceSource σ) (zone : String) (regions : RegionTable)
    (selection : Selection) : Query σ ServiceListing := do
  let selection ← Query.ofExcept (selection.check provider)
  listing source zone regions (.ofSelection selection)

/-- Pulls the next item. -/
def next (l : ServiceListing) : Act σ (Option Item × ServiceListing) := do
  let (item, cache, grouping) ← l.grouping.next (territories l.countries) l.cache
  return (item, { l with cache, grouping })

/-- The first record set of a target. -/
def getTarget (source : ServiceSource σ) (zone : String) (regions : RegionTable)
    (target : Target) : Query σ (Option RoutedRecordSet) := do
  let t ← Query.ofExcept (target.check provider)
  let l ← listing source zone regions (.ofTarget t)
  match (← ExceptT.lift (next l)).1 with
  | none => return none
  | some item => return some (← Query.ofExcept item)

/-- The record types that can be routed. -/
def types : List String := ["A", "AAAA", "CNAME", "MX", "NS", "PTR", "SPF", "SRV", "TXT"]

/-- A reader of a zone, whose name must not be blank. -/
def reader (source : ServiceSource σ) (regions : RegionTable) (zone : String) :
    Query σ (Reader σ ServiceListing) := do
  Query.ofExcept (requireText provider "zone" zone)
  return {
    zone
    types
    regions := return regions.regions
    list := list source zone regions
    next := next
    drain := fun l => l.grouping.drain (territories l.countries) l.cache
    get := getTarget source zone regions }

end GeoService

end GeoRouting
