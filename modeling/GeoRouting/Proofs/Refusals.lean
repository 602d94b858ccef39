import GeoRouting.Proofs.Arguments
import GeoRouting.Proofs.Watching
import GeoRouting.Proofs.ZoneCheck

/-!
# Refused queries

A query looks at its arguments, then asks whether its zone is there, and only then for anything
else. So a backend has not been asked anything when an argument is blank, and has been asked for the
zone alone when that is missing or the question fails.
-/

namespace GeoRouting

/-! ## Queries that only ask -/

/-- Whether all that a query does to its backend is to call it. -/
def Query.OnlyAsks {Call : Type} {Reply : Call → Type} {σ α : Type}
    (source : Source Call Reply σ) (x : Query σ α) : Prop :=
  ∀ s, source.Reaches s (x.run.run s).state

namespace Query
variable {Call : Type} {Reply : Call → Type} {σ α β : Type} {source : Source Call Reply σ}
  {x : Query σ α} {f : α → Query σ β}

theorem onlyAsks_of_silent (h : ∀ s, (x.run.run s).state = s) : x.OnlyAsks source := by
  intro s
  rw [h s]
  exact Source.reaches_refl s

theorem onlyAsks_ask (c : Call) : (source.ask c).OnlyAsks source := fun s =>
  Source.reaches_call c s

theorem OnlyAsks.bind (h : x.OnlyAsks source) (hf : ∀ a, (f a).OnlyAsks source) :
    (x >>= f).OnlyAsks source := by
  intro s
  cases ha : (x.run.run s).answer with
  | error e =>
    rw [run_bind_error ha]
    exact h s
  | ok a =>
    rw [run_bind_ok ha]
    exact (h s).trans (hf a _)

/-- An item is answered without a call. -/
theorem state_item (item : Option Item) (s : σ) :
    ((match item with
      | none => pure none
      | some item => do return some (← ofExcept item) :
        Query σ (Option RoutedRecordSet)).run.run s).state = s := by
  cases item with
  | none => rfl
  | some item => cases item <;> rfl

end Query

/-- What a group needs territories for is asked of the backend. -/
theorem Grouping.next_onlyAsks {σ : Type} (source : PoolSource σ) (cache : TerritoryCache)
    (g : Grouping) :
    Query.OnlyAsks source (ExceptT.lift (g.next source.territories cache)) := by
  intro s
  rw [Query.run_lift]
  dsimp only
  rw [Grouping.state_next]
  exact PoolSource.reaches_of_territories ⟨g.missing cache, rfl⟩

/-! ## Refusals -/

/-- Whether a query with some arguments looks at them before it asks anything, and asks whether its
zone is there, the call `here`, before it asks anything else. The answer to that call is `found`. -/
structure AsksZoneFirst {σ Call α : Type} (provider zone : String)
    (arguments : List (String × String)) (here : Call)
    (found : σ → Except GeoError Bool × σ) (query : Query (Watched σ Call) α) : Prop where
  /-- The first blank argument is reported, whatever the zone, and no call is made. -/
  blank : ∀ w param, firstBlank? arguments = some param →
    query.run.run w = ⟨.error (.emptyArgument provider param), w, []⟩
  /-- Without one the zone is what is asked for first. -/
  first : ∀ w, firstBlank? arguments = none →
    w.calls ++ [here] <+: (query.run.run w).state.calls
  /-- A zone that is missing is reported, and no other call is made. -/
  absent : ∀ w, firstBlank? arguments = none → (found w.source).1 = .ok false →
    query.run.run w = ⟨.error (.zoneNotFound provider zone),
      ⟨(found w.source).2, w.calls ++ [here]⟩, [⟨.warn, s!"[{provider}] zone {zone} not found"⟩]⟩
  /-- So is an error in place of the answer. -/
  failed : ∀ w e, firstBlank? arguments = none → (found w.source).1 = .error e →
    query.run.run w = ⟨.error e, ⟨(found w.source).2, w.calls ++ [here]⟩, []⟩

/-- A query has this form when it checks its arguments, has its zone looked up and does the rest by
calls alone. -/
theorem AsksZoneFirst.of_steps {σ Call α β : Type} {Reply : Call → Type}
    {source : Source Call Reply σ} {provider zone : String} {arguments : List (String × String)}
    {here : Call} {found : σ → Except GeoError Bool × σ} {check : Except GeoError β} {checked : β}
    {body : β → Query (Watched σ Call) α} {required : Query (Watched σ Call) Unit}
    {rest : Query (Watched σ Call) α}
    (hcheck : check = checkedUnlessBlank provider arguments checked)
    (hbody : body checked = required >>= fun _ => rest)
    (hrequired : ∀ w, required.run.run w =
      zoneOutcome provider zone (found w.source).1 ⟨(found w.source).2, w.calls ++ [here]⟩)
    (hrest : rest.OnlyAsks source.watched) :
    AsksZoneFirst provider zone arguments here found (Query.ofExcept check >>= body) := by
  have hchecked : firstBlank? arguments = none →
      Query.ofExcept check >>= body = required >>= fun _ => rest := by
    intro h
    rw [hcheck, checkedUnlessBlank_of_none h, ← hbody]
    exact pure_bind checked body
  refine ⟨?_, ?_, ?_, ?_⟩
  · intro w param h
    rw [hcheck, checkedUnlessBlank_of_some h, Query.run_bind_error rfl]
    rfl
  · intro w h
    have hasked : (required.run.run w).state.calls = w.calls ++ [here] := by
      rw [hrequired w, state_zoneOutcome]
    rw [hchecked h, ← hasked]
    cases ha : (required.run.run w).answer with
    | error e =>
      refine ⟨[], ?_⟩
      rw [Query.run_bind_error ha, List.append_nil]
    | ok _ =>
      rw [Query.run_bind_ok ha]
      exact Source.calls_of_reaches (hrest _)
  · intro w h hfound
    have hout := hrequired w
    rw [hfound] at hout
    rw [hchecked h, Query.run_bind_error (congrArg Outcome.answer hout), hout]
    rfl
  · intro w e h hfound
    have hout := hrequired w
    rw [hfound] at hout
    rw [hchecked h, Query.run_bind_error (congrArg Outcome.answer hout), hout]
    rfl

/-! ## Pools -/

namespace Pool
variable {σ : Type}

theorem targetRows_onlyAsks (source : PoolSource σ) (zone : String) (t : Target)
    (buckets : List Bucket) : (targetRows source zone t buckets).OnlyAsks source := by
  induction buckets with
  | nil => exact Query.onlyAsks_of_silent fun _ => rfl
  | cons b buckets ih =>
    apply (Query.onlyAsks_ask _).bind
    intro rows
    apply ih.bind
    intro others
    exact Query.onlyAsks_of_silent fun _ => rfl

theorem list_asksZoneFirst (source : PoolSource σ) (zone : String) (regions : RegionTable)
    (selection : Selection) :
    AsksZoneFirst provider zone selection.arguments (.zoneExists zone)
      (source (.zoneExists zone)) (list source.watched zone regions selection) := by
  apply AsksZoneFirst.of_steps (selection.check_eq provider) rfl
  · exact run_requireZone_eq source.watched zone
  · cases selection with
    | all =>
      apply (Query.onlyAsks_of_silent fun _ => rfl).bind
      intro _
      apply (Query.onlyAsks_ask _).bind
      intro pools
      exact Query.onlyAsks_of_silent fun _ => rfl
    | named name => exact Query.onlyAsks_of_silent fun _ => rfl
    | typed name type =>
      apply Query.onlyAsks_of_silent
      intro s
      dsimp only [Selection.upperCased]
      split
      · rfl
      · rfl

theorem getTarget_asksZoneFirst (source : PoolSource σ) (zone : String) (regions : RegionTable)
    (target : Target) :
    AsksZoneFirst provider zone target.arguments (.zoneExists zone)
      (source (.zoneExists zone)) (getTarget source.watched zone regions target) := by
  apply AsksZoneFirst.of_steps (target.check_eq provider) rfl
  · exact run_requireZone_eq source.watched zone
  · apply (targetRows_onlyAsks source.watched zone _ _).bind
    intro rows
    apply (Grouping.next_onlyAsks source.watched .empty _).bind
    intro out
    exact Query.onlyAsks_of_silent (Query.state_item out.1)

end Pool

/-! ## Services -/

namespace GeoService
variable {σ : Type}

/-- After the zone a listing only asks. -/
theorem exists_onlyAsks_of_listing (source : ServiceSource σ) (zone : String)
    (regions : RegionTable) (f : ServiceFilter) :
    ∃ rest, Query.OnlyAsks source rest ∧
      listing source zone regions f = requireZone source zone >>= fun _ => rest := by
  refine ⟨_, ?_, rfl⟩
  apply (Query.onlyAsks_of_silent fun _ => rfl).bind
  intro _
  apply (Query.onlyAsks_ask _).bind
  intro services
  exact Query.onlyAsks_of_silent fun _ => rfl

theorem list_asksZoneFirst (source : ServiceSource σ) (zone : String) (regions : RegionTable)
    (selection : Selection) :
    AsksZoneFirst provider zone selection.arguments (.zoneExists zone)
      (source (.zoneExists zone)) (list source.watched zone regions selection) := by
  obtain ⟨rest, hrest, hlisting⟩ := exists_onlyAsks_of_listing source.watched zone regions
    (.ofSelection selection.upperCased)
  exact AsksZoneFirst.of_steps (selection.check_eq provider) hlisting
    (run_requireZone_eq source.watched zone) hrest

/-- A listing is pulled without a call: its countries are at hand. -/
theorem state_next (l : ServiceListing) (s : σ) : ((next l).run s).state = s := by
  have hcountries : ∀ id, (territories l.countries id s).2 = s := by
    intro id
    rw [territories]
    split
    · rfl
    · rfl
  rw [next, Act.run_bind, Act.run_pure, Grouping.state_next]
  exact Source.after_of_unchanged hcountries _

theorem getTarget_asksZoneFirst (source : ServiceSource σ) (zone : String) (regions : RegionTable)
    (target : Target) :
    AsksZoneFirst provider zone target.arguments (.zoneExists zone)
      (source (.zoneExists zone)) (getTarget source.watched zone regions target) := by
  obtain ⟨rest, hrest, hlisting⟩ := exists_onlyAsks_of_listing source.watched zone regions
    (.ofTarget { target with type := Text.upper target.type })
  apply AsksZoneFirst.of_steps (target.check_eq provider)
  · rw [hlisting, bind_assoc]
  · exact run_requireZone_eq source.watched zone
  · apply hrest.bind
    intro l
    have hnext : Query.OnlyAsks source.watched (ExceptT.lift (next l)) := by
      apply Query.onlyAsks_of_silent
      intro s
      rw [Query.run_lift]
      exact state_next l s
    apply hnext.bind
    intro out
    exact Query.onlyAsks_of_silent (Query.state_item out.1)

end GeoService

/-- The listings and the look-ups of both providers are refused in this way, over any backend and
from any state of it. -/
theorem refusals_of_queries (zone : String) (regions : RegionTable) (selection : Selection)
    (target : Target) :
    (∀ {σ : Type} (source : PoolSource σ),
      AsksZoneFirst Pool.provider zone selection.arguments (.zoneExists zone)
        (source (.zoneExists zone)) (Pool.list source.watched zone regions selection) ∧
      AsksZoneFirst Pool.provider zone target.arguments (.zoneExists zone)
        (source (.zoneExists zone)) (Pool.getTarget source.watched zone regions target)) ∧
    ∀ {σ : Type} (source : ServiceSource σ),
      AsksZoneFirst GeoService.provider zone selection.arguments (.zoneExists zone)
        (source (.zoneExists zone)) (GeoService.list source.watched zone regions selection) ∧
      AsksZoneFirst GeoService.provider zone target.arguments (.zoneExists zone)
        (source (.zoneExists zone)) (GeoService.getTarget source.watched zone regions target) :=
  ⟨fun source => ⟨Pool.list_asksZoneFirst source zone regions selection,
      Pool.getTarget_asksZoneFirst source zone regions target⟩,
    fun source => ⟨GeoService.list_asksZoneFirst source zone regions selection,
      GeoService.getTarget_asksZoneFirst source zone regions target⟩⟩

/-- A backend without services that says the same of every zone. -/
def sayingOfZones (answer : Except GeoError Bool) : ServiceSource Unit :=
  .fixed fun
    | .zoneExists _ => answer
    | .services => .ok []

theorem refusals_of_sayingOfZones :
    (GeoService.getTarget (sayingOfZones (.ok false)).watched "z." ⟨.empty⟩
        ⟨"a.z.", " ", ""⟩).run.run ⟨(), []⟩ =
      ⟨.error (.emptyArgument "dynect" "type"), ⟨(), []⟩, []⟩ ∧
    (GeoService.list (sayingOfZones (.ok false)).watched "z." ⟨.empty⟩ (.named "a.z.")).run.run
        ⟨(), []⟩ =
      ⟨.error (.zoneNotFound "dynect" "z."), ⟨(), [.zoneExists "z."]⟩,
        [⟨.warn, "[dynect] zone z. not found"⟩]⟩ ∧
    (GeoService.list (sayingOfZones (.error (.backend "dynect" "down"))).watched "z." ⟨.empty⟩
        .all).run.run ⟨(), []⟩ =
      ⟨.error (.backend "dynect" "down"), ⟨(), [.zoneExists "z."]⟩, []⟩ := by
  obtain ⟨-, hblank⟩ := refusals_of_queries "z." ⟨.empty⟩ .all ⟨"a.z.", " ", ""⟩
  obtain ⟨-, habsent⟩ := refusals_of_queries "z." ⟨.empty⟩ (.named "a.z.") ⟨"a.z.", " ", ""⟩
  refine ⟨?_, ?_, ?_⟩
  · exact (hblank (sayingOfZones (.ok false))).2.blank ⟨(), []⟩ "type" (by decide +kernel)
  · exact (habsent (sayingOfZones (.ok false))).1.absent ⟨(), []⟩ (by decide +kernel) rfl
  · exact (hblank (sayingOfZones (.error (.backend "dynect" "down")))).1.failed ⟨(), []⟩ _ rfl rfl

end GeoRouting
