import GeoRouting.Service.Source

/-!
# Geo services in memory

Services by name. Every node of a service lies in a known zone.
-/

namespace GeoRouting

structure ServiceStore where
  zones : Dict Unit := .empty
  services : Dict GeoService := .empty
deriving DecidableEq, Repr

namespace ServiceStore

inductive Change where
  | addZone (zone : String)
  | putService (service : GeoService)
deriving DecidableEq, Repr

/-- Puts a service. The zones of all its nodes have to exist. -/
def putService (service : GeoService) : Query ServiceStore Unit := do
  let s ← ExceptT.lift Act.get
  match service.nodes.find? fun n => !s.zones.contains n.zone with
  | some node => Query.fail (.zoneNotFound GeoService.provider node.zone)
  | none => Query.modify fun s => { s with services := s.services.insert service.name service }

/-- Changes the store. -/
def perform : Change → Query ServiceStore Unit
  | .addZone zone => Query.modify fun s => { s with zones := s.zones.insert zone () }
  | .putService service => putService service

/-- The error that a change is refused with, if it is. -/
def change (s : ServiceStore) (c : Change) : Except GeoError Unit := ((perform c).run.run s).answer

/-- The store that a change leaves, refused or not. -/
def after (s : ServiceStore) (c : Change) : ServiceStore := ((perform c).run.run s).state

/-- The store after a history of changes. -/
def ofHistory (changes : List Change) : ServiceStore := changes.foldl after {}

theorem run_putService_of_located {s : ServiceStore} {service : GeoService}
    (h : (service.nodes.find? fun n => !s.zones.contains n.zone) = none) :
    (putService service).run.run s =
      ⟨.ok (), { s with services := s.services.insert service.name service }, []⟩ := by
  rw [putService, Query.run_bind_ok rfl]
  simp only [Query.run_lift, Act.run_get, h]
  rfl

theorem run_putService_of_unknown {s : ServiceStore} {service : GeoService} {node : Node}
    (h : (service.nodes.find? fun n => !s.zones.contains n.zone) = some node) :
    (putService service).run.run s =
      ⟨.error (.zoneNotFound GeoService.provider node.zone), s, []⟩ := by
  rw [putService, Query.run_bind_ok rfl]
  simp only [Query.run_lift, Act.run_get, h]
  rfl

/-- What the store answers to a call. -/
def reply (s : ServiceStore) : (c : ServiceCall) → Except GeoError c.Reply
  | .zoneExists zone => .ok (s.zones.contains zone)
  | .services => .ok s.services.values

/-- The store as a backend. Calls leave it as it is. -/
def source : ServiceSource ServiceStore := fun c s => (s.reply c, s)

end ServiceStore

end GeoRouting
