import GeoRouting.Record.Json
import GeoRouting.Row.Basic

/-!
# Rows as JSON
-/

namespace GeoRouting

open Json Decoder

namespace GroupRef

def encode (g : GroupRef) : Value := .object [("id", .text g.id), ("name", .text g.name)]

def encodeOrNull : Option GroupRef → Value
  | none => .null
  | some g => g.encode

def decode : Decoder GroupRef := fun room t => do
  let [id, name] ← slots ["id", "name"] 2 room t | none
  some {
    id := ← needed .text room id
    name := ← needed .text room name }

end GroupRef

namespace Row

def encode (r : Row) : Value :=
  .object [("name", .text r.name), ("type", .text r.type), ("ttl", encodeTtlOrNull r.ttl),
    ("rdata", .texts r.values), ("noResponse", .bool r.noResponse),
    ("geolocationGroup", GroupRef.encodeOrNull r.geoGroup),
    ("group", GroupRef.encodeOrNull r.plainGroup)]

def fieldNames : List String :=
  ["name", "type", "ttl", "rdata", "noResponse", "geolocationGroup", "group"]

def decode : Decoder Row := fun room t => do
  let [name, type, ttl, values, noResponse, geoGroup, plainGroup] ←
    slots fieldNames 4 room t | none
  some {
    name := ← needed .text room name
    type := ← needed .text room type
    ttl := ← maybe word32 room ttl
    values := ← needed (list .text) room values
    noResponse := ← orElse bool false room noResponse
    geoGroup := ← maybe GroupRef.decode room geoGroup
    plainGroup := ← maybe GroupRef.decode room plainGroup }

end Row

end GeoRouting
