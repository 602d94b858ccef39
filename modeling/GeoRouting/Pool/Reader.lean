import GeoRouting.Pool.Listing
import GeoRouting.Reader

/-!
# Reading from directional pools

Arguments are checked first, then the zone. Listing all record sets visits the pools that
choose by location; a listing by name goes to the buckets of that name, and with a type to
the buckets that can hold it. A single group is fetched bucket by bucket and grouped without
sorting.
-/

namespace GeoRouting.Pool
variable {σ : Type}

/-- Asks whether a zone is there and fails when it is not. -/
def requireZone (source : PoolSource σ) (zone : String) : Query σ Unit := do
  if !(← source.ask (.zoneExists zone)) then
    Query.say .warn s!"[{provider}] zone {zone} not found"
    Query.fail (.zoneNotFound provider zone)

/-- The buckets of one name. -/
def bucketsOf (buckets : List Bucket) (name : String) : List (String × Bucket) :=
  buckets.map fun b => (name, b)

/-- The buckets of all pools that choose by location. -/
def geoBuckets (pools : List Pool) : List (String × Bucket) :=
  (pools.filter fun p => p.kind = .geolocation).flatMap fun p => bucketsOf Bucket.all p.name

/-- Starts a listing. -/
def list (source : PoolSource σ) (zone : String) (regions : RegionTable)
    (selection : Selection) : Query σ PoolListing := do
  let selection ← Query.ofExcept (selection.check provider)
  requireZone source zone
  match selection with
  | .all =>
    Query.say .debug s!"[{provider}] list geo records zone={zone}"
    let pools ← source.ask (.pools zone)
    return { zone, regions, only := none, pending := geoBuckets pools }
  | .named name => return { zone, regions, only := none, pending := bucketsOf Bucket.all name }
  | .typed name type =>
    let buckets := Bucket.holding type
    if buckets.isEmpty then
      Query.say .debug s!"[{provider}] no directional bucket holds {type}"
    return { zone, regions, only := some type, pending := bucketsOf buckets name }

/-- The rows of a target, bucket by bucket. -/
def targetRows (source : PoolSource σ) (zone : String) (t : Target) :
    List Bucket → Query σ (List Row)
  | [] => return []
  | b :: buckets => do
    let rows ← source.ask (.groupRows ⟨zone, t.name, b.code, t.group⟩)
    return rows ++ (← targetRows source zone t buckets)

/-- The first record set that the rows of a target make. -/
def getTarget (source : PoolSource σ) (zone : String) (regions : RegionTable)
    (target : Target) : Query σ (Option RoutedRecordSet) := do
  let t ← Query.ofExcept (target.check provider)
  requireZone source zone
  let rows ← targetRows source zone t (Bucket.holding t.type)
  let grouping : Grouping := .ofRows provider (some regions) (rows.filter fun r => r.type == t.type)
  let (item, _) ← ExceptT.lift (grouping.next source.territories .empty)
  match item with
  | none => return none
  | some item => return some (← Query.ofExcept item)

/-- The record types that can be routed. -/
def types : List String := ["A", "AAAA", "CNAME", "MX", "NAPTR", "PTR", "SPF", "SRV", "TXT"]

/-- A reader of a zone, whose name must not be blank. -/
def reader (source : PoolSource σ) (regions : RegionTable) (zone : String) :
    Query σ (Reader σ PoolListing) := do
  Query.ofExcept (requireText provider "zone" zone)
  return {
    zone
    types
    regions := return regions.regions
    list := list source zone regions
    next := PoolListing.next source
    drain := PoolListing.drain source
    get := getTarget source zone regions }

end GeoRouting.Pool
