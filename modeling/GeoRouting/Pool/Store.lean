import GeoRouting.Pool.Source

/-!
# Directional pools in memory

A zone lists its pools and, bucket by bucket, its rows. No two pools of a zone have the same
name, and every row has a pool.
-/

namespace GeoRouting

structure PoolZone where
  pools : List Pool := []
  rows : List (Bucket × Row) := []
deriving DecidableEq, Repr

namespace PoolZone

def hasPool (z : PoolZone) (name : String) : Bool :=
  z.pools.any fun p => DomainName.same p.name name

/-- Adds a pool unless there is one of its name. -/
def addPool (z : PoolZone) (pool : Pool) : PoolZone :=
  if z.hasPool pool.name then z else { z with pools := z.pools ++ [pool] }

/-- Adds a row. A name without a pool gets one that chooses by location. -/
def addRow (z : PoolZone) (bucket : Bucket) (row : Row) : PoolZone :=
  let z := z.addPool ⟨row.name, .geolocation⟩
  { z with rows := z.rows ++ [(bucket, row)] }

/-- The rows with a property, in the order they were added. -/
def rowsWhere (z : PoolZone) (p : Bucket → Row → Bool) : List Row :=
  (z.rows.filter fun e => p e.1 e.2).map Prod.snd

end PoolZone

structure PoolStore where
  zones : Dict PoolZone := .empty
  /-- Territories by group id. -/
  territories : Dict (List String) := .empty
deriving DecidableEq, Repr

namespace PoolStore

inductive Change where
  | addZone (zone : String)
  | addPool (zone : String) (pool : Pool)
  | addRow (zone : String) (bucket : Bucket) (row : Row)
  | setTerritories (groupId : String) (territories : List String)
deriving DecidableEq, Repr

/-- Changes a zone, which has to exist. -/
def changeZone (zone : String) (f : PoolZone → PoolZone) : Query PoolStore Unit := do
  match (← ExceptT.lift Act.get).zones.get? zone with
  | some z => Query.modify fun s => { s with zones := s.zones.insert zone (f z) }
  | none => Query.fail (.zoneNotFound Pool.provider zone)

/-- Changes the store. A zone that is there already stays as it is when it is added. -/
def perform : Change → Query PoolStore Unit
  | .addZone zone => Query.modify fun s =>
    if s.zones.contains zone then s else { s with zones := s.zones.insert zone {} }
  | .addPool zone pool => changeZone zone (·.addPool pool)
  | .addRow zone bucket row => changeZone zone (·.addRow bucket row)
  | .setTerritories groupId territories => Query.modify fun s =>
    { s with territories := s.territories.insert groupId territories }

/-- The error that a change is refused with, if it is. -/
def change (s : PoolStore) (c : Change) : Except GeoError Unit := ((perform c).run.run s).answer

/-- The store that a change leaves, refused or not. -/
def after (s : PoolStore) (c : Change) : PoolStore := ((perform c).run.run s).state

/-- The store after a history of changes. -/
def ofHistory (changes : List Change) : PoolStore := changes.foldl after {}

theorem after_addZone (s : PoolStore) (zone : String) :
    s.after (.addZone zone) =
      if s.zones.contains zone then s else { s with zones := s.zones.insert zone {} } := rfl

theorem run_changeZone_of_present {s : PoolStore} {zone : String} {z : PoolZone}
    (h : s.zones.get? zone = some z) (f : PoolZone → PoolZone) :
    (changeZone zone f).run.run s =
      ⟨.ok (), { s with zones := s.zones.insert zone (f z) }, []⟩ := by
  rw [changeZone, Query.run_bind_ok rfl]
  simp only [Query.run_lift, Act.run_get, h]
  rfl

theorem run_changeZone_of_absent {s : PoolStore} {zone : String} (h : s.zones.get? zone = none)
    (f : PoolZone → PoolZone) :
    (changeZone zone f).run.run s = ⟨.error (.zoneNotFound Pool.provider zone), s, []⟩ := by
  rw [changeZone, Query.run_bind_ok rfl]
  simp only [Query.run_lift, Act.run_get, h]
  rfl

def zone (s : PoolStore) (zone : String) : Except GeoError PoolZone :=
  match s.zones.get? zone with
  | some z => .ok z
  | none => .error (.zoneNotFound Pool.provider zone)

/-- What the store answers to a call. -/
def reply (s : PoolStore) : (c : PoolCall) → Except GeoError c.Reply
  | .zoneExists zone => .ok (s.zones.contains zone)
  | .pools zone => (s.zone zone).map PoolZone.pools
  | .rows zone name bucket =>
    (s.zone zone).map (·.rowsWhere fun b r => b == bucket && DomainName.same r.name name)
  | .groupRows c =>
    (s.zone c.zone).map (·.rowsWhere fun b r =>
      b.code == c.type && DomainName.same r.name c.name && r.groupName? == some c.group)
  | .territories groupId =>
    match s.territories.get? groupId with
    | some territories => .ok territories
    | none => .error (.backend Pool.provider s!"no directional group {groupId}")

/-- The store as a backend. Calls leave it as it is. -/
def source : PoolSource PoolStore := fun c s => (s.reply c, s)

end PoolStore

end GeoRouting
