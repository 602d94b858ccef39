import GeoRouting.Record.Basic

/-!
# Record sets as JSON

A routed record set is one object: the fields of the record set and its routes beside them.
It has no array form.
-/

namespace GeoRouting

open Json Decoder

def Rdata.encode (r : Rdata) : Value := .object r.entries

def Rdata.decode : Decoder Rdata := dict value

/-- A time to live that is left out when it is absent. -/
def encodeTtl (ttl : Option UInt32) : List (String × Value) :=
  match ttl with
  | none => []
  | some t => [("ttl", .number (.integer t.toNat))]

/-- A time to live that is null when it is absent. -/
def encodeTtlOrNull (ttl : Option UInt32) : Value :=
  match ttl with
  | none => .null
  | some t => .number (.integer t.toNat)

namespace RecordSet

def encodeFields (r : RecordSet) : List (String × Value) :=
  [("name", .text r.name), ("type", .text r.type)] ++ encodeTtl r.ttl ++
    [("rdata", .array (r.rdata.map Rdata.encode))]

def encode (r : RecordSet) : Value := .object r.encodeFields

def decode : Decoder RecordSet := fun room t => do
  let [name, type, ttl, rdata] ← slots ["name", "type", "ttl", "rdata"] 4 room t | none
  some {
    name := ← needed .text room name
    type := ← needed .text room type
    ttl := ← maybe word32 room ttl
    rdata := ← needed (list Rdata.decode) room rdata }

end RecordSet

namespace GeoRoute

def encodeFields (g : GeoRoute) : List (String × Value) :=
  [("groupName", .text g.group), ("territories", .texts g.territories),
    ("noResponse", .bool g.noResponse)]

def encode (g : GeoRoute) : Value := .object g.encodeFields

def decode : Decoder GeoRoute := fun room t => do
  let [group, territories, noResponse] ←
    slots ["groupName", "territories", "noResponse"] 2 room t | none
  some {
    group := ← needed .text room group
    territories := ← needed (list .text) room territories
    noResponse := ← orElse bool false room noResponse }

end GeoRoute

namespace Route

def encode : Route → Value
  | .geo route => .object (("kind", .text geoKind) :: route.encodeFields)

def decode : Decoder Route := tagged "kind" fun kind =>
  if kind = geoKind then some fun room t => (GeoRoute.decode room t).map .geo else none

end Route

namespace RoutedRecordSet

def encodeRoutes (routes : Dict Route) : Value :=
  .object (routes.entries.map fun e => (e.1, e.2.encode))

def encode (r : RoutedRecordSet) : Value :=
  .object (r.records.encodeFields ++ [("config", encodeRoutes r.routes)])

def decode : Decoder RoutedRecordSet := sound fun room t =>
  match t with
  | .object fields => do
    let routes ← field "config" fields
    some {
      records := ← RecordSet.decode room t
      routes := ← needed (dict Route.decode) room routes }
  | _ => none

end RoutedRecordSet

end GeoRouting
