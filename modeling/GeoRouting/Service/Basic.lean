import GeoRouting.DomainName
import GeoRouting.Record.Json

/-!
# Geo services

A geo service answers for nodes, which may lie in several zones. It answers each group of
countries with record sets of its own, and these hold for all of its nodes.
-/

namespace GeoRouting

/-- A name that a service answers for. -/
structure Node where
  zone : String
  fqdn : String
deriving DecidableEq, Repr

/-- The values of one record type. Without values the answer is nothing. -/
structure ServiceRecords where
  type : String
  ttl : Option UInt32
  values : List (List String)
deriving DecidableEq, Repr

/-- Countries, or one region, and what they are answered with. -/
structure RegionGroup where
  name : String
  countries : List String
  records : List ServiceRecords
deriving DecidableEq, Repr

structure GeoService where
  name : String
  nodes : List Node
  groups : List RegionGroup
deriving DecidableEq, Repr

/-- The provider that service backends are reported under. -/
def GeoService.provider : String := "dynect"

open Json Decoder

namespace Node

def encode (n : Node) : Value := .object [("zone", .text n.zone), ("fqdn", .text n.fqdn)]

def decode : Decoder Node := fun room t => do
  let [zone, fqdn] ← slots ["zone", "fqdn"] 2 room t | none
  some {
    zone := ← needed .text room zone
    fqdn := ← needed .text room fqdn }

end Node

namespace ServiceRecords

def encode (r : ServiceRecords) : Value :=
  .object [("type", .text r.type), ("ttl", encodeTtlOrNull r.ttl),
    ("values", .array (r.values.map .texts))]

def decode : Decoder ServiceRecords := fun room t => do
  let [type, ttl, values] ← slots ["type", "ttl", "values"] 3 room t | none
  some {
    type := ← needed .text room type
    ttl := ← maybe word32 room ttl
    values := ← needed (list (list .text)) room values }

end ServiceRecords

namespace RegionGroup

def encode (g : RegionGroup) : Value :=
  .object [("name", .text g.name), ("countries", .texts g.countries),
    ("recordSets", .array (g.records.map ServiceRecords.encode))]

def decode : Decoder RegionGroup := fun room t => do
  let [name, countries, records] ← slots ["name", "countries", "recordSets"] 3 room t | none
  some {
    name := ← needed .text room name
    countries := ← needed (list .text) room countries
    records := ← needed (list ServiceRecords.decode) room records }

end RegionGroup

namespace GeoService

def encode (s : GeoService) : Value :=
  .object [("name", .text s.name), ("nodes", .array (s.nodes.map Node.encode)),
    ("groups", .array (s.groups.map RegionGroup.encode))]

def decode : Decoder GeoService := fun room t => do
  let [name, nodes, groups] ← slots ["name", "nodes", "groups"] 3 room t | none
  some {
    name := ← needed .text room name
    nodes := ← needed (list Node.decode) room nodes
    groups := ← needed (list RegionGroup.decode) room groups }

end GeoService

end GeoRouting
