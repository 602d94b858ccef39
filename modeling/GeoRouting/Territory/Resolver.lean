import GeoRouting.Source
import GeoRouting.Territory.RegionTable
import GeoRouting.Text.Quoted

/-!
# Resolving groups to territories

The territories of a group are loaded once: a cache keeps what a load answered, after a lone
region name has been expanded. A load that failed is not kept. Several resolvers can share
one cache, each with a region table of its own, and then the first of them to load a group
decides what all of them answer.
-/

namespace GeoRouting

/-- Loads the territories of a group by its id. -/
abbrev TerritorySource (σ : Type) : Type := Source String (fun _ => List String) σ

/-- Territories by group id. -/
abbrev TerritoryCache : Type := Dict (List String)

namespace TerritoryCache
variable {σ : Type}

/-- The territories of a group, or the error of their load, and the cache after that. -/
def resolve (load : TerritorySource σ) (regions : Option RegionTable) (cache : TerritoryCache)
    (id : String) : Act σ (Except GeoError (List String) × TerritoryCache) := do
  match cache.get? id with
  | some territories => return (.ok territories, cache)
  | none =>
    Act.say .trace s!"loading territories for group {id}"
    match ← (load.ask id).run with
    | .error e => return (.error e, cache)
    | .ok loaded =>
      let territories := match regions with
        | some table => table.expand loaded
        | none => loaded
      return (.ok territories, cache.insert id territories)

end TerritoryCache

/-- Resolvers that share one cache, by the region table each of them has. -/
structure Resolvers where
  members : List (Option RegionTable)
  cache : TerritoryCache
deriving DecidableEq, Repr

namespace Resolvers
variable {σ : Type}

/-- A resolver alone with an empty cache. -/
def single (regions : Option RegionTable) : Resolvers := ⟨[regions], .empty⟩

def regions (r : Resolvers) (i : Nat) : Option RegionTable := r.members[i]?.join

/-- Resolves a group at the `i`-th resolver. -/
def resolve (load : TerritorySource σ) (r : Resolvers) (i : Nat) (id : String) :
    Act σ (Except GeoError (List String) × Resolvers) := do
  let (answer, cache) ← r.cache.resolve load (r.regions i) id
  return (answer, { r with cache })

/-- Adds a copy of the `i`-th resolver. -/
def clone (r : Resolvers) (i : Nat) : Resolvers :=
  { r with members := r.members ++ [r.regions i] }

/-- Adds a copy of a resolver that has another region table. -/
def withRegions (r : Resolvers) (table : RegionTable) : Resolvers :=
  { r with members := r.members ++ [some table] }

/-- The region table of the `i`-th resolver and the size of the cache. -/
def summary (r : Resolvers) (i : Nat) : String :=
  let regions := match r.regions i with
    | none => "None"
    | some table =>
      "Some(RegionIndex \x7b regions: " ++ Text.quotedTable table.regions ++ " \x7d)"
  "TerritoryResolver \x7b regions: " ++ regions ++ s!", cached: {r.cache.size}, .. \x7d"

end Resolvers

end GeoRouting
