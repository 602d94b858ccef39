import GeoRouting.Pool.Reader
import GeoRouting.Service.Reader

/-!
# Asking for a zone

A query asks its backend whether its zone is there. It goes on when it is, and else it fails, with a
warning if the zone is missing and with the error of the backend if there was one.
-/

namespace GeoRouting

/-- What becomes of a query by the answer on its zone, in the state of the backend after it. -/
def zoneOutcome {σ : Type} (provider zone : String) (answer : Except GeoError Bool) (s : σ) :
    Outcome σ (Except GeoError Unit) :=
  match answer with
  | .ok true => ⟨.ok (), s, []⟩
  | .ok false =>
    ⟨.error (.zoneNotFound provider zone), s, [⟨.warn, s!"[{provider}] zone {zone} not found"⟩]⟩
  | .error e => ⟨.error e, s, []⟩

theorem state_zoneOutcome {σ : Type} (provider zone : String) (answer : Except GeoError Bool)
    (s : σ) : (zoneOutcome provider zone answer s).state = s := by
  cases answer with
  | error e => rfl
  | ok found => cases found <;> rfl

theorem run_zoneOutcome {σ : Type} {provider zone : String} {asked : Query σ Bool} {s t : σ}
    {answer : Except GeoError Bool} (h : asked.run.run s = ⟨answer, t, []⟩) :
    (do
      if !(← asked) then
        Query.say .warn s!"[{provider}] zone {zone} not found"
        Query.fail (.zoneNotFound provider zone) : Query σ Unit).run.run s =
      zoneOutcome provider zone answer t := by
  cases answer with
  | error e =>
    rw [Query.run_bind_error (congrArg Outcome.answer h), h]
    rfl
  | ok found =>
    rw [Query.run_bind_ok (congrArg Outcome.answer h), h]
    cases found with
    | true => rfl
    | false => rfl

theorem Pool.run_requireZone_eq {σ : Type} (source : PoolSource σ) (zone : String) (s : σ) :
    (requireZone source zone).run.run s =
      zoneOutcome provider zone (source (.zoneExists zone) s).1 (source (.zoneExists zone) s).2 :=
  run_zoneOutcome rfl

theorem GeoService.run_requireZone_eq {σ : Type} (source : ServiceSource σ) (zone : String)
    (s : σ) :
    (requireZone source zone).run.run s =
      zoneOutcome provider zone (source (.zoneExists zone) s).1 (source (.zoneExists zone) s).2 :=
  run_zoneOutcome rfl

end GeoRouting
