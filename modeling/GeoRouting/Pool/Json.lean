import GeoRouting.Pool.Basic
import GeoRouting.Json.Decoder

/-!
# Directional pools as JSON
-/

namespace GeoRouting

open Json Decoder

namespace Bucket

def encode (b : Bucket) : Value := .text b.name

def decode : Decoder Bucket := choice (all.map fun b => (b.name, b))

end Bucket

namespace PoolKind

def name : PoolKind → String
  | .geolocation => "geolocation"
  | .sourceIp => "sourceIp"

def encode (k : PoolKind) : Value := .text k.name

def decode : Decoder PoolKind := choice ([geolocation, sourceIp].map fun k => (k.name, k))

end PoolKind

namespace Pool

def encode (p : Pool) : Value := .object [("name", .text p.name), ("kind", p.kind.encode)]

def decode : Decoder Pool := fun room t => do
  let [name, kind] ← slots ["name", "kind"] 2 room t | none
  some {
    name := ← needed .text room name
    kind := ← needed PoolKind.decode room kind }

end Pool

namespace GroupCoordinates

def encode (c : GroupCoordinates) : Value :=
  .object [("zoneName", .text c.zone), ("recordName", .text c.name),
    ("recordType", .number (.integer c.type.toNat)), ("groupName", .text c.group)]

def decode : Decoder GroupCoordinates := fun room t => do
  let [zone, name, type, group] ←
    slots ["zoneName", "recordName", "recordType", "groupName"] 4 room t | none
  some {
    zone := ← needed .text room zone
    name := ← needed .text room name
    type := ← needed word16 room type
    group := ← needed .text room group }

end GroupCoordinates

end GeoRouting
