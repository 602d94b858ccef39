import GeoRouting.Proofs.Pool.Target
import GeoRouting.Proofs.RecordStore.Target
import GeoRouting.Service.Store

/-!
# Stores over their histories

A store is what its changes have made of it, those among them that were refused included. A
refused change leaves no trace, and zones stay with what they hold. Where a store keeps its
zones apart, a change of one of them does not show in another. A store of services keeps for every
name the service that was put last, and the nodes of its services lie in zones that it has.
-/

namespace GeoRouting

/-! ## Changes that may be refused -/

section
variable {σ C : Type} {perform : C → Query σ Unit} {empty : σ} {addZone : String → C}
  {knows : σ → String → Bool}

/-- What one change of a store does to the zones that it knows, and to the store when it is
refused. -/
structure ZoneSteps (perform : C → Query σ Unit) (empty : σ) (addZone : String → C)
    (knows : σ → String → Bool) : Prop where
  knows_empty : ∀ zone, knows empty zone = false
  refused : ∀ s c e, ((perform c).run.run s).answer = .error e → ((perform c).run.run s).state = s
  adds : ∀ s zone, ((perform (addZone zone)).run.run s).answer = .ok ()
  knows_change : ∀ s c, ((perform c).run.run s).answer = .ok () → ∀ zone,
    knows ((perform c).run.run s).state zone = true ↔ knows s zone = true ∨ c = addZone zone
  again : ∀ s zone, knows s zone = true → ((perform (addZone zone)).run.run s).state = s

/-- What holds of a store after every history of changes, refused ones included. -/
structure HistoryLaws (perform : C → Query σ Unit) (ofHistory : List C → σ)
    (addZone : String → C) (knows : σ → String → Bool) : Prop where
  /-- A change that is refused leaves the store as it is. -/
  kept : ∀ before c e, ((perform c).run.run (ofHistory before)).answer = .error e →
    ((perform c).run.run (ofHistory before)).state = ofHistory before
  /-- Without a refused change the store would be the same, and so would all that it answers and
  refuses later. -/
  refused : ∀ before c later e, ((perform c).run.run (ofHistory before)).answer = .error e →
    ofHistory (before ++ c :: later) = ofHistory (before ++ later)
  /-- A zone that was added is never refused and stays. -/
  known : ∀ changes zone, knows (ofHistory changes) zone = true ↔ addZone zone ∈ changes
  /-- Adding a zone once more drops nothing. -/
  again : ∀ before zone later, addZone zone ∈ before →
    ofHistory (before ++ addZone zone :: later) = ofHistory (before ++ later)

/-- The store that a change leaves, refused or not. -/
def stateAfter (perform : C → Query σ Unit) (s : σ) (c : C) : σ := ((perform c).run.run s).state

theorem foldl_stateAfter_skip {before : List C} {c : C}
    (h : stateAfter perform (before.foldl (stateAfter perform) empty) c =
      before.foldl (stateAfter perform) empty) (later : List C) :
    (before ++ c :: later).foldl (stateAfter perform) empty =
      (before ++ later).foldl (stateAfter perform) empty := by
  rw [List.foldl_append, List.foldl_cons, h, List.foldl_append]

theorem ZoneSteps.known (h : ZoneSteps perform empty addZone knows) (changes : List C)
    (zone : String) :
    knows (changes.foldl (stateAfter perform) empty) zone = true ↔ addZone zone ∈ changes := by
  induction changes using List.reverseRecOn with
  | nil => simp [h.knows_empty zone]
  | append_singleton changes c ih =>
    rw [List.foldl_append, List.foldl_cons, List.foldl_nil, stateAfter, List.mem_append,
      List.mem_singleton, ← ih]
    cases hc : ((perform c).run.run (changes.foldl (stateAfter perform) empty)).answer with
    | error e =>
      have hne : addZone zone ≠ c := by
        rintro rfl
        rw [h.adds] at hc
        cases hc
      rw [h.refused _ c e hc]
      exact (or_iff_left hne).symm
    | ok _ => exact (h.knows_change _ c hc zone).trans (or_congr_right eq_comm)

theorem ZoneSteps.laws (h : ZoneSteps perform empty addZone knows) :
    HistoryLaws perform (fun changes => changes.foldl (stateAfter perform) empty) addZone
      knows where
  kept _ c e he := h.refused _ c e he
  refused _ c later e he := foldl_stateAfter_skip (h.refused _ c e he) later
  known := h.known
  again before zone later hmem :=
    foldl_stateAfter_skip (h.again _ zone ((h.known before zone).mpr hmem)) later

end

/-! ## Services -/

namespace ServiceStore

theorem zones_putService (s : ServiceStore) (service : GeoService) :
    ((putService service).run.run s).state.zones = s.zones := by
  cases h : service.nodes.find? fun n => !s.zones.contains n.zone with
  | some node => rw [run_putService_of_unknown h]
  | none => rw [run_putService_of_located h]

theorem zoneSteps :
    ZoneSteps perform {} .addZone (fun s zone => s.zones.contains zone) where
  knows_empty _ := rfl
  refused s c e he := by
    cases c with
    | addZone zone => cases he
    | putService service =>
      cases h : service.nodes.find? fun n => !s.zones.contains n.zone with
      | some node => rw [perform, run_putService_of_unknown h]
      | none =>
        rw [perform, run_putService_of_located h] at he
        cases he
  adds _ _ := rfl
  knows_change s c _ zone := by
    cases c with
    | addZone z =>
      have hzones : ((perform (.addZone z)).run.run s).state.zones = s.zones.insert z () := rfl
      rw [hzones]
      simp only [Dict.contains_eq_isSome, Dict.get?_insert, Change.addZone.injEq]
      by_cases hz : z = zone <;> simp [hz]
    | putService service =>
      rw [perform, zones_putService]
      simp
  again s zone h := by
    rw [Dict.contains_eq_isSome, Option.isSome_iff_exists] at h
    obtain ⟨_, h⟩ := h
    rw [perform, Query.run_modify, Dict.insert_of_get? h]

/-- The service that a change puts unless it is refused. -/
def put? (s : ServiceStore) (c : Change) : Option GeoService :=
  match c with
  | .addZone _ => none
  | .putService service => if (s.change c).isOk then some service else none

/-- The services that changes put into a store, in their order, without those that are refused. -/
def accepted (s : ServiceStore) : List Change → List GeoService
  | [] => []
  | c :: changes => (s.put? c).toList ++ accepted (s.after c) changes

theorem get?_services_after (s : ServiceStore) (c : Change) (name : String) :
    (s.after c).services.get? name =
      (((s.put? c).toList.filter (·.name == name)).getLast?).or (s.services.get? name) := by
  cases c with
  | addZone zone => rfl
  | putService service =>
    rw [put?, change, after, perform]
    cases h : service.nodes.find? fun n => !s.zones.contains n.zone with
    | some node =>
      rw [run_putService_of_unknown h]
      rfl
    | none =>
      rw [run_putService_of_located h]
      by_cases hname : service.name = name <;> simp [hname, Except.isOk, Except.toBool]

/-- Of the services put under a name the last one is there. -/
theorem get?_services_foldl (s : ServiceStore) (changes : List Change) (name : String) :
    (changes.foldl after s).services.get? name =
      (((accepted s changes).filter (·.name == name)).getLast?).or (s.services.get? name) := by
  induction changes generalizing s with
  | nil => rfl
  | cons c changes ih =>
    rw [List.foldl_cons, ih, get?_services_after, accepted, List.filter_append,
      List.getLast?_append, Option.or_assoc]

theorem get?_services_ofHistory (changes : List Change) (name : String) :
    (ofHistory changes).services.get? name =
      ((accepted {} changes).filter (·.name == name)).getLast? := by
  rw [ofHistory, get?_services_foldl, Dict.get?_empty, Option.or_none]

theorem name_of_get? {changes : List Change} {name : String} {service : GeoService}
    (h : (ofHistory changes).services.get? name = some service) : service.name = name := by
  rw [get?_services_ofHistory] at h
  exact beq_iff_eq.mp (List.mem_filter.mp (List.mem_of_getLast? h)).2

/-- Whether the nodes of all services lie in zones that are there. -/
def Located (s : ServiceStore) : Prop :=
  ∀ name service, s.services.get? name = some service →
    ∀ n ∈ service.nodes, s.zones.contains n.zone = true

theorem Located.after {s : ServiceStore} (h : s.Located) (c : Change) : (s.after c).Located := by
  intro name service hservice n hn
  cases c with
  | addZone zone =>
    exact (zoneSteps.knows_change s (.addZone zone) rfl n.zone).mpr
      (.inl (h name service hservice n hn))
  | putService put =>
    rw [ServiceStore.after, perform] at hservice ⊢
    rw [zones_putService]
    cases hnodes : put.nodes.find? fun n => !s.zones.contains n.zone with
    | some node =>
      rw [run_putService_of_unknown hnodes] at hservice
      exact h name service hservice n hn
    | none =>
      rw [run_putService_of_located hnodes, Dict.get?_insert] at hservice
      split at hservice
      · rw [← Option.some.inj hservice] at hn
        simpa using List.find?_eq_none.mp hnodes n hn
      · exact h name service hservice n hn

theorem located_ofHistory (changes : List Change) : (ofHistory changes).Located := by
  refine List.foldlRecOn changes after ?_ fun s hs c _ => hs.after c
  intro name service hservice
  cases hservice

/-- What is listed of the services of a history. -/
structure ListsLastPut (changes : List Change) (listed : List GeoService) : Prop where
  /-- Every node of a listed service lies in a zone that is there. -/
  located : ∀ service ∈ listed, ∀ n ∈ service.nodes,
    (ofHistory changes).reply (.zoneExists n.zone) = .ok true
  /-- No two services have the same name, and the names are in byte order. -/
  ascending : listed.Pairwise fun a b => Text.bytes a.name < Text.bytes b.name
  /-- A service is listed when of those put under its name and not refused it is the last. -/
  last : ∀ service, service ∈ listed ↔
    ((accepted {} changes).filter (·.name == service.name)).getLast? = some service

theorem listsLastPut (changes : List Change) :
    ListsLastPut changes (ofHistory changes).services.values where
  located service hservice n hn := by
    obtain ⟨name, hname⟩ := Dict.mem_values_iff.mp hservice
    exact congrArg Except.ok (located_ofHistory changes name service hname n hn)
  ascending := by
    refine List.pairwise_map.mpr ((List.Pairwise.and_mem.mp
      (ofHistory changes).services.ascending).imp ?_)
    rintro a b ⟨ha, hb, hlt⟩
    rw [name_of_get? (Dict.get?_eq_some_iff.mpr ha), name_of_get? (Dict.get?_eq_some_iff.mpr hb)]
    exact Text.lt_iff_bytes_lt.mp hlt
  last service := by
    rw [← get?_services_ofHistory]
    refine Dict.mem_values_iff.trans ⟨?_, fun h => ⟨_, h⟩⟩
    rintro ⟨name, hname⟩
    rw [name_of_get? hname]
    exact hname

end ServiceStore

/-! ## Pools -/

/-- The zone that a call is about. -/
def PoolCall.zone? : PoolCall → Option String
  | .zoneExists zone => some zone
  | .pools zone => some zone
  | .rows zone _ _ => some zone
  | .groupRows c => some c.zone
  | .territories _ => none

namespace PoolStore

/-- The zone that a change is about. -/
def Change.zone? : Change → Option String
  | .addZone zone => some zone
  | .addPool zone _ => some zone
  | .addRow zone _ _ => some zone
  | .setTerritories _ _ => none

/-- What a change makes of the zone that it is about. -/
def Change.applied : Change → Option PoolZone → Option PoolZone
  | .addZone _, z => some (z.getD {})
  | .addPool _ pool, z => z.map (·.addPool pool)
  | .addRow _ bucket row, z => z.map (·.addRow bucket row)
  | .setTerritories _ _, z => z

theorem get?_zones_changeZone (s : PoolStore) (other : String) (f : PoolZone → PoolZone)
    (zone : String) :
    ((changeZone other f).run.run s).state.zones.get? zone =
      if other = zone then (s.zones.get? zone).map f else s.zones.get? zone := by
  cases h : s.zones.get? other with
  | none =>
    rw [run_changeZone_of_absent h]
    by_cases hzone : other = zone
    · subst hzone
      simp [h]
    · simp [hzone]
  | some z =>
    rw [run_changeZone_of_present h]
    by_cases hzone : other = zone
    · subst hzone
      simp [h]
    · simp [hzone]

theorem get?_zones_after (s : PoolStore) (c : Change) (zone : String) :
    (s.after c).zones.get? zone =
      if c.zone? = some zone then c.applied (s.zones.get? zone) else s.zones.get? zone := by
  cases c with
  | addZone other =>
    simp only [after_addZone, Change.zone?, Change.applied, Option.some.injEq,
      Dict.contains_eq_isSome]
    by_cases hzone : other = zone
    · subst hzone
      cases h : s.zones.get? other <;> simp [h]
    · cases s.zones.get? other <;> simp [hzone]
  | addPool other pool =>
    simp only [Change.zone?, Option.some.injEq]
    exact get?_zones_changeZone s other _ zone
  | addRow other bucket row =>
    simp only [Change.zone?, Option.some.injEq]
    exact get?_zones_changeZone s other _ zone
  | setTerritories groupId territories => rfl

theorem state_changeZone_of_error {s : PoolStore} {zone : String} {f : PoolZone → PoolZone}
    {e : GeoError} (he : ((changeZone zone f).run.run s).answer = .error e) :
    ((changeZone zone f).run.run s).state = s := by
  cases h : s.zones.get? zone with
  | none => rw [run_changeZone_of_absent h]
  | some z =>
    rw [run_changeZone_of_present h] at he
    cases he

theorem zoneSteps : ZoneSteps perform {} .addZone (fun s zone => s.zones.contains zone) where
  knows_empty _ := rfl
  refused s c e he := by
    cases c with
    | addZone zone => cases he
    | addPool zone pool => exact state_changeZone_of_error he
    | addRow zone bucket row => exact state_changeZone_of_error he
    | setTerritories groupId territories => cases he
  adds _ _ := rfl
  knows_change s c hc zone := by
    rw [Dict.contains_eq_isSome, Dict.contains_eq_isSome, ← after, get?_zones_after]
    cases c with
    | addZone other => by_cases hzone : other = zone <;> simp [Change.zone?, Change.applied, hzone]
    | addPool other pool =>
      by_cases hzone : other = zone <;> simp [Change.zone?, Change.applied, hzone]
    | addRow other bucket row =>
      by_cases hzone : other = zone <;> simp [Change.zone?, Change.applied, hzone]
    | setTerritories groupId territories => simp [Change.zone?]
  again s zone h := (after_addZone s zone).trans (if_pos h)

theorem territories_changeZone (s : PoolStore) (other : String) (f : PoolZone → PoolZone) :
    ((changeZone other f).run.run s).state.territories = s.territories := by
  cases h : s.zones.get? other with
  | none => rw [run_changeZone_of_absent h]
  | some z => rw [run_changeZone_of_present h]

theorem territories_after (s : PoolStore) (c : Change) :
    (s.after c).territories =
      match c with
      | .setTerritories groupId territories => s.territories.insert groupId territories
      | _ => s.territories := by
  cases c with
  | addZone other =>
    rw [after_addZone]
    dsimp only
    split <;> rfl
  | addPool other pool => exact territories_changeZone s other _
  | addRow other bucket row => exact territories_changeZone s other _
  | setTerritories groupId territories => rfl

/-- Whether two stores have the same territories and, apart from one zone, the same zones. -/
structure SameBut (other : String) (s t : PoolStore) : Prop where
  territories : s.territories = t.territories
  zones : ∀ zone, zone ≠ other → s.zones.get? zone = t.zones.get? zone

section
variable {other : String} {s t : PoolStore}

theorem sameBut_after {c : Change} (hc : c.zone? = some other) (s : PoolStore) :
    SameBut other (s.after c) s where
  territories := by
    rw [territories_after]
    cases c with
    | setTerritories groupId territories => cases hc
    | _ => rfl
  zones zone hzone := by
    rw [get?_zones_after, if_neg]
    rw [hc, Option.some.injEq]
    exact hzone.symm

theorem SameBut.after (h : SameBut other s t) (c : Change) :
    SameBut other (s.after c) (t.after c) where
  territories := by rw [territories_after, territories_after, h.territories]
  zones zone hzone := by rw [get?_zones_after, get?_zones_after, h.zones zone hzone]

theorem SameBut.foldl (h : SameBut other s t) (later : List Change) :
    SameBut other (later.foldl PoolStore.after s) (later.foldl PoolStore.after t) := by
  induction later generalizing s t with
  | nil => exact h
  | cons c later ih => exact ih (h.after c)

/-- Whether two stores answer the same to all that is not about one zone, and refuse the same. -/
structure AnswersSameBut (other : String) (s t : PoolStore) : Prop where
  reply : ∀ call, call.zone? ≠ some other → s.reply call = t.reply call
  refuses : ∀ c, c.zone? ≠ some other → s.change c = t.change c
  items : ∀ zone, zone ≠ other → ∀ regions selection,
    ((Pool.items source zone regions selection).run.run s).answer =
      ((Pool.items source zone regions selection).run.run t).answer
  target : ∀ zone, zone ≠ other → ∀ regions target,
    ((Pool.getTarget source zone regions target).run.run s).answer =
      ((Pool.getTarget source zone regions target).run.run t).answer

theorem SameBut.reply (h : SameBut other s t) {call : PoolCall} (hcall : call.zone? ≠ some other) :
    s.reply call = t.reply call := by
  have hzone (zone : String) (hne : zone ≠ other) : s.zone zone = t.zone zone := by
    rw [PoolStore.zone, PoolStore.zone, h.zones zone hne]
  have hne (zone : String) (hsome : some zone ≠ some other) : zone ≠ other :=
    fun he => hsome (congrArg some he)
  cases call with
  | zoneExists zone =>
    rw [PoolStore.reply, PoolStore.reply, Dict.contains_eq_isSome, Dict.contains_eq_isSome,
      h.zones zone (hne zone hcall)]
  | pools zone => rw [PoolStore.reply, PoolStore.reply, hzone zone (hne zone hcall)]
  | rows zone name bucket => rw [PoolStore.reply, PoolStore.reply, hzone zone (hne zone hcall)]
  | groupRows c => rw [PoolStore.reply, PoolStore.reply, hzone c.zone (hne c.zone hcall)]
  | territories groupId => rw [PoolStore.reply, PoolStore.reply, h.territories]

theorem SameBut.refuses (h : SameBut other s t) {c : Change} (hc : c.zone? ≠ some other) :
    s.change c = t.change c := by
  have hput (zone : String) (hsome : some zone ≠ some other) (f : PoolZone → PoolZone) :
      ((changeZone zone f).run.run s).answer = ((changeZone zone f).run.run t).answer := by
    have hzone : s.zones.get? zone = t.zones.get? zone :=
      h.zones zone fun he => hsome (congrArg some he)
    cases ht : t.zones.get? zone with
    | none => rw [run_changeZone_of_absent (hzone.trans ht), run_changeZone_of_absent ht]
    | some z => rw [run_changeZone_of_present (hzone.trans ht), run_changeZone_of_present ht]
  cases c with
  | addZone zone => rfl
  | addPool zone pool => exact hput zone hc _
  | addRow zone bucket row => exact hput zone hc _
  | setTerritories groupId territories => rfl

theorem SameBut.remaining (h : SameBut other s t) {l : PoolListing} (hl : l.zone ≠ other) :
    l.remaining s.reply = l.remaining t.reply := by
  have hrows (b : String × Bucket) :
      s.reply (.rows l.zone b.1 b.2) = t.reply (.rows l.zone b.1 b.2) :=
    h.reply fun he => hl (Option.some.inj he)
  simp only [PoolListing.remaining, PoolListing.upcoming, BucketCursor.bucketItems, hrows,
    Pool.territories_congr h.territories]

theorem SameBut.planned (h : SameBut other s t) {zone : String} (hzone : zone ≠ other)
    (regions : RegionTable) (selection : Selection) :
    (Pool.planned s.reply zone regions selection).map (PoolListing.remaining s.reply) =
      (Pool.planned t.reply zone regions selection).map (PoolListing.remaining t.reply) := by
  cases selection with
  | all =>
    have hpools : s.reply (.pools zone) = t.reply (.pools zone) :=
      h.reply fun he => hzone (Option.some.inj he)
    rw [Pool.planned, Pool.planned, hpools]
    cases t.reply (.pools zone) with
    | error e => rfl
    | ok pools => exact congrArg Except.ok (h.remaining hzone)
  | named name => exact congrArg Except.ok (h.remaining hzone)
  | typed name type => exact congrArg Except.ok (h.remaining hzone)

theorem SameBut.answers (h : SameBut other s t) : AnswersSameBut other s t := by
  have hz (zone : String) (hne : zone ≠ other) : s.zone zone = t.zone zone := by
    rw [PoolStore.zone, PoolStore.zone, h.zones zone hne]
  constructor
  · exact fun _ => h.reply
  · exact fun _ => h.refuses
  · intro zone hne regions selection
    rw [Pool.items_of_store, Pool.items_of_store, hz zone hne]
    simp only [h.planned hne]
  · intro zone hne regions target
    rw [Pool.getTarget_of_store, Pool.getTarget_of_store, hz zone hne,
      Pool.territories_congr h.territories]

end

/-- A change of one zone shows in no other zone, whatever follows. -/
theorem answersSameBut_of_change (before : List Change) {c : Change} {other : String}
    (hc : c.zone? = some other) (later : List Change) :
    AnswersSameBut other (ofHistory (before ++ c :: later)) (ofHistory (before ++ later)) := by
  rw [ofHistory, ofHistory, List.foldl_append, List.foldl_append, List.foldl_cons]
  exact ((sameBut_after hc _).foldl later).answers

end PoolStore

/-! ## Record sets -/

namespace RecordStore

theorem zoneSteps : ZoneSteps perform {} .addZone containsZone where
  knows_empty _ := rfl
  refused s c e he := by
    cases c with
    | addZone zone => cases he
    | put zone record =>
      cases h : s.zones.get? zone with
      | none => rw [perform, run_put_of_absent h]
      | some records =>
        rw [perform, run_put_of_present h] at he
        cases he
  adds _ _ := rfl
  knows_change s c hc zone := by
    rw [containsZone, containsZone, Dict.contains_eq_isSome, Dict.contains_eq_isSome, ← after,
      get?_zones_after]
    cases s.zones.get? zone <;> simp
  again s zone h := (after_addZone s zone).trans (if_pos h)

/-- The zone that a change is about. -/
def Change.zone : Change → String
  | .addZone zone => zone
  | .put zone _ => zone

/-- Whether two stores have the same zones apart from one. -/
def SameBut (other : String) (s t : RecordStore) : Prop :=
  ∀ zone, zone ≠ other → s.zones.get? zone = t.zones.get? zone

section
variable {other : String} {s t : RecordStore}

theorem sameBut_after {c : Change} (hc : c.zone = other) (s : RecordStore) :
    SameBut other (s.after c) s := by
  subst hc
  intro zone hzone
  rw [get?_zones_after]
  cases c with
  | addZone z =>
    have hz : z ≠ zone := hzone.symm
    cases s.zones.get? zone <;> simp [putInto, hz]
  | put z record =>
    have hz : z ≠ zone := hzone.symm
    cases s.zones.get? zone <;> simp [putInto, hz]

theorem SameBut.foldl (h : SameBut other s t) (later : List Change) :
    SameBut other (later.foldl after s) (later.foldl after t) := by
  induction later generalizing s t with
  | nil => exact h
  | cons c later ih =>
    refine ih fun zone hzone => ?_
    rw [get?_zones_after, get?_zones_after, h zone hzone]

/-- Whether two stores answer the same about all zones but one, and refuse the same. -/
structure AnswersSameBut (other : String) (s t : RecordStore) : Prop where
  contains : ∀ zone, zone ≠ other → s.containsZone zone = t.containsZone zone
  records : ∀ zone, zone ≠ other → s.records zone = t.records zone
  regions : ∀ zone, zone ≠ other → s.regions zone = t.regions zone
  refuses : ∀ c, c.zone ≠ other → s.change c = t.change c
  items : ∀ zone, zone ≠ other → ∀ selection,
    ((items zone selection).run.run s).answer = ((items zone selection).run.run t).answer
  target : ∀ zone, zone ≠ other → ∀ target,
    ((got zone target).run.run s).answer = ((got zone target).run.run t).answer

theorem answer_reader_of_absent {zone : String} (hz : s.zones.get? zone = none) :
    ((reader zone).run.run s).answer = .error (.zoneNotFound provider zone) := by
  have hc : s.containsZone zone = false := by
    rw [containsZone, Dict.contains_eq_isSome, hz]
    rfl
  rw [reader, Query.run_bind_ok rfl]
  simp only [Query.run_lift, Act.run_get, hc]
  rfl

theorem answer_got_of_target {zone : String} {records : List RoutedRecordSet}
    (hz : s.zones.get? zone = some records) (target : Target) :
    ((got zone target).run.run s).answer =
      (target.check provider).map fun t => records.find? (fits t.name t.type t.group) := by
  obtain ⟨r, hr, -, -, hget, -⟩ := run_reader hz
  have hrecords : s.records zone = .ok records := by rw [RecordStore.records, hz]
  rw [got, Query.run_bind_ok (congrArg Outcome.answer hr), hr, hget, getTarget]
  cases hc : target.check provider with
  | error e =>
    rw [Query.run_bind_error rfl]
    rfl
  | ok t =>
    rw [Query.run_bind_ok rfl, Query.run_bind_ok rfl,
      Query.run_bind_ok (a := records) (by simpa using hrecords)]
    rfl

theorem SameBut.answers (h : SameBut other s t) : AnswersSameBut other s t := by
  have hrecords (zone : String) (hne : zone ≠ other) : s.records zone = t.records zone := by
    rw [RecordStore.records, RecordStore.records, h zone hne]
  constructor
  · intro zone hne
    rw [containsZone, containsZone, Dict.contains_eq_isSome, Dict.contains_eq_isSome, h zone hne]
  · exact hrecords
  · intro zone hne
    rw [RecordStore.regions, RecordStore.regions, hrecords zone hne]
  · intro c hc
    cases c with
    | addZone zone => rfl
    | put zone record =>
      rw [change, change, perform]
      cases hz : t.zones.get? zone with
      | none => rw [run_put_of_absent ((h zone hc).trans hz), run_put_of_absent hz]
      | some records =>
        rw [run_put_of_present ((h zone hc).trans hz), run_put_of_present hz]
  · intro zone hne selection
    cases hz : t.zones.get? zone with
    | none =>
      have hs := answer_reader_of_absent ((h zone hne).trans hz)
      have ht := answer_reader_of_absent hz
      rw [RecordStore.items, Query.run_bind_error hs, Query.run_bind_error ht]
    | some records => rw [answer_items ((h zone hne).trans hz), answer_items hz]
  · intro zone hne target
    cases hz : t.zones.get? zone with
    | none =>
      have hs := answer_reader_of_absent ((h zone hne).trans hz)
      have ht := answer_reader_of_absent hz
      rw [got, Query.run_bind_error hs, Query.run_bind_error ht]
    | some records => rw [answer_got_of_target ((h zone hne).trans hz), answer_got_of_target hz]

end

/-- A change of one zone shows in no other zone, whatever follows. -/
theorem answersSameBut_of_change (before : List Change) {c : Change} {other : String}
    (hc : c.zone = other) (later : List Change) :
    AnswersSameBut other (ofHistory (before ++ c :: later)) (ofHistory (before ++ later)) := by
  rw [ofHistory, ofHistory, List.foldl_append, List.foldl_append, List.foldl_cons]
  exact ((sameBut_after hc _).foldl later).answers

end RecordStore

/-! ## The three stores -/

/-- In each store a refused change leaves no trace, and zones stay with all that they hold. A
change of one zone of pools or of record sets shows in no other. Services are listed in the byte
order of their names: of each name the one put last, all of whose nodes lie in zones that are
there. -/
theorem stores_over_histories :
    HistoryLaws ServiceStore.perform ServiceStore.ofHistory .addZone
        (fun s zone => s.zones.contains zone) ∧
      HistoryLaws PoolStore.perform PoolStore.ofHistory .addZone
        (fun s zone => s.zones.contains zone) ∧
      HistoryLaws RecordStore.perform RecordStore.ofHistory .addZone RecordStore.containsZone ∧
      (∀ before c other later, c.zone? = some other → PoolStore.AnswersSameBut other
        (.ofHistory (before ++ c :: later)) (.ofHistory (before ++ later))) ∧
      (∀ before c later, RecordStore.AnswersSameBut c.zone
        (.ofHistory (before ++ c :: later)) (.ofHistory (before ++ later))) ∧
      ∀ changes, ∃ listed, (ServiceStore.ofHistory changes).reply .services = .ok listed ∧
        ServiceStore.ListsLastPut changes listed :=
  ⟨ServiceStore.zoneSteps.laws, PoolStore.zoneSteps.laws, RecordStore.zoneSteps.laws,
    fun before _ _ later hc => PoolStore.answersSameBut_of_change before hc later,
    fun before _ later => RecordStore.answersSameBut_of_change before rfl later,
    fun changes => ⟨_, rfl, ServiceStore.listsLastPut changes⟩⟩

/-- A service without groups, at one node of a zone. -/
def nodeService (name zone fqdn : String) : GeoService := ⟨name, [⟨zone, fqdn⟩], []⟩

/-- Puts a service, then one into a zone that is not there, then the first name once more. -/
def servicePuts : List ServiceStore.Change :=
  [.addZone "z.", .putService (nodeService "b" "z." "one.z."),
    .putService (nodeService "a" "z." "a.z."), .putService (nodeService "b" "y." "b.y."),
    .addZone "z.", .putService (nodeService "b" "z." "two.z.")]

theorem stores_over_histories_of_refusals :
    let row : Row :=
      { name := "a.y.", type := "A", ttl := none, values := [], geoGroup := none }
    let unplaced : ServiceStore.Change := .putService (nodeService "b" "y." "b.y.")
    (ServiceStore.ofHistory (servicePuts.take 3)).after unplaced =
        ServiceStore.ofHistory (servicePuts.take 3) ∧
      ServiceStore.ofHistory servicePuts = ServiceStore.ofHistory (servicePuts.eraseIdx 3) ∧
      (∃ listed, (ServiceStore.ofHistory servicePuts).reply .services = .ok listed ∧
        nodeService "b" "z." "two.z." ∈ listed ∧ nodeService "b" "z." "one.z." ∉ listed) ∧
      (PoolStore.ofHistory [.addZone "z.", .addZone "y.", .addRow "y." .ipv4 row]).reply
          (.pools "z.") = .ok [] ∧
      RecordStore.ofHistory [.put "z." ⟨⟨"a.z.", "A", none, []⟩, .empty⟩, .addZone "z."] =
        RecordStore.ofHistory [.addZone "z."] := by
  intro row unplaced
  obtain ⟨hservices, -, hrecords, hpools, -, hlists⟩ := stores_over_histories
  have hrefused : (ServiceStore.ofHistory (servicePuts.take 3)).change unplaced =
      .error (.zoneNotFound GeoService.provider "y.") := by decide +kernel
  refine ⟨?_, ?_, ?_, ?_, ?_⟩
  · exact hservices.kept (servicePuts.take 3) unplaced _ hrefused
  · exact hservices.refused (servicePuts.take 3) unplaced (servicePuts.drop 4) _ hrefused
  · obtain ⟨listed, hlisted, hlast⟩ := hlists servicePuts
    refine ⟨listed, hlisted, (hlast.last _).mpr (by decide +kernel), fun hmem => ?_⟩
    have h := (hlast.last _).mp hmem
    revert h
    decide +kernel
  · exact ((hpools [.addZone "z.", .addZone "y."] (.addRow "y." .ipv4 row) "y." [] rfl).reply
      (.pools "z.") (by decide)).trans (by decide +kernel)
  · exact hrecords.refused [] (.put "z." ⟨⟨"a.z.", "A", none, []⟩, .empty⟩) [.addZone "z."]
      (.zoneNotFound RecordStore.provider "z.") (by decide +kernel)

end GeoRouting
