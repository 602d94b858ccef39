import GeoRouting.Proofs.Watching
import Mathlib.Data.List.Forall2
import Mathlib.Data.List.Induction

/-!
# Resolvers that share a cache

Resolvers are cloned, given region tables and asked for groups in any order, and what the loader
answers with may change at any time. The answers so far say what the shared cache holds: of each
group the first answer that was no error. So the first resolver that loads a group decides what all
of them answer. Failed loads leave no trace in the cache, and the other groups none but what their
loads change at the loader.
-/

namespace GeoRouting.Resolvers
variable {σ : Type}

/-- What can happen to resolvers that share a cache and to their loader. -/
inductive Step (σ : Type) where
  | resolve (i : Nat) (id : String)
  | clone (i : Nat)
  | withRegions (table : RegionTable)
  | changeLoader (f : σ → σ)

/-- A group that was resolved at a resolver: the answer, and the ids that were loaded for it. -/
structure Resolution where
  resolver : Nat
  id : String
  answer : Except GeoError (List String)
  loads : List String

/-- Resolvers and their loader, with what was resolved so far. -/
structure History (σ : Type) where
  resolvers : Resolvers
  loader : σ
  past : List Resolution

/-- Resolves a group at the `i`-th resolver and watches what is loaded. -/
def watch (load : TerritorySource σ) (r : Resolvers) (i : Nat) (id : String) (s : σ) :
    Outcome (Watched σ String) (Except GeoError (List String) × Resolvers) :=
  (r.resolve load.watched i id).run ⟨s, []⟩

namespace History

/-- The history after one more step. -/
def step (load : TerritorySource σ) (h : History σ) : Step σ → History σ
  | .resolve i id =>
    let out := h.resolvers.watch load i id h.loader
    { resolvers := out.answer.2
      loader := out.state.source
      past := h.past ++ [⟨i, id, out.answer.1, out.state.calls⟩] }
  | .clone i => { h with resolvers := h.resolvers.clone i }
  | .withRegions table => { h with resolvers := h.resolvers.withRegions table }
  | .changeLoader f => { h with loader := f h.loader }

/-- The history of a resolver that is alone at first, with an empty cache. -/
def ofSteps (load : TerritorySource σ) (regions : Option RegionTable) (s : σ)
    (steps : List (Step σ)) : History σ :=
  steps.foldl (step load) ⟨.single regions, s, []⟩

theorem ofSteps_append (load : TerritorySource σ) (regions : Option RegionTable) (s : σ)
    (steps : List (Step σ)) (step : Step σ) :
    ofSteps load regions s (steps ++ [step]) = (ofSteps load regions s steps).step load step :=
  List.foldl_append

end History

/-- The first answer to a group that was no error, of any resolver. -/
def firstAnswer? (past : List Resolution) (id : String) : Option (List String) :=
  past.findSome? fun p => if p.id = id then p.answer.toOption else none

theorem firstAnswer?_append (past : List Resolution) (p : Resolution) (id : String) :
    firstAnswer? (past ++ [p]) id =
      (firstAnswer? past id).or (if p.id = id then p.answer.toOption else none) := by
  rw [firstAnswer?, List.findSome?_append, List.findSome?_singleton]
  rfl

/-- The region table of each resolver: the one it was given, or that of the resolver it is a clone
of. -/
def tables (regions : Option RegionTable) (steps : List (Step σ)) : List (Option RegionTable) :=
  steps.foldl (fun tables => fun
    | .clone i => tables ++ [tables[i]?.join]
    | .withRegions table => tables ++ [some table]
    | .resolve .. | .changeLoader _ => tables) [regions]

/-- A step and what is left of it without the other groups: of their resolutions, what the loads
change at the loader. -/
inductive Step.Reduces (load : TerritorySource σ) (id : String) : Step σ → Step σ → Prop where
  | resolve (i : Nat) : Reduces load id (.resolve i id) (.resolve i id)
  | clone (i : Nat) : Reduces load id (.clone i) (.clone i)
  | withRegions (table : RegionTable) : Reduces load id (.withRegions table) (.withRegions table)
  | changeLoader (f : σ → σ) : Reduces load id (.changeLoader f) (.changeLoader f)
  | other {key : String} (hne : key ≠ id) (i : Nat) {loads : List String} (hloads : loads <+: [key]) :
      Reduces load id (.resolve i key) (.changeLoader (load.after loads))

/-! ## One resolution -/

theorem answer_watch (load : TerritorySource σ) (r : Resolvers) (i : Nat) (id : String) (s : σ) :
    (r.watch load i id s).answer =
      match r.cache.get? id with
      | some codes => (.ok codes, r)
      | none =>
        match (load id s).1 with
        | .ok loaded =>
          (.ok (TerritoryCache.expanded (r.regions i) loaded),
            { r with cache := r.cache.insert id (TerritoryCache.expanded (r.regions i) loaded) })
        | .error e => (.error e, r) := by
  rw [watch, resolve, Act.run_bind]
  cases hc : r.cache.get? id with
  | some codes =>
    rw [TerritoryCache.run_resolve_hit hc]
    rfl
  | none =>
    have hload : load.watched id ⟨s, []⟩ = ((load id s).1, ⟨(load id s).2, [id]⟩) := rfl
    rw [TerritoryCache.run_resolve_miss hc, hload]
    dsimp only
    cases (load id s).1 <;> rfl

theorem state_watch (load : TerritorySource σ) (r : Resolvers) (i : Nat) (id : String) (s : σ) :
    (r.watch load i id s).state = ⟨load.after (r.cache.missing id) s, r.cache.missing id⟩ := by
  have hstate : (r.watch load i id s).state =
      ((r.cache.resolve load.watched (r.regions i) id).run ⟨s, []⟩).state := rfl
  rw [hstate, TerritoryCache.state_resolve, Source.after_watched, List.nil_append]

/-- Resolving changes no region table. -/
theorem members_watch (load : TerritorySource σ) (r : Resolvers) (i : Nat) (id : String) (s : σ) :
    (r.watch load i id s).answer.2.members = r.members := by
  rw [answer_watch]
  split
  · rfl
  · split <;> rfl

/-- Resolving a group leaves what the cache holds of the others. -/
theorem get?_watch_of_ne (load : TerritorySource σ) (r : Resolvers) (i : Nat) {id key : String}
    (h : id ≠ key) (s : σ) :
    (r.watch load i id s).answer.2.cache.get? key = r.cache.get? key := by
  rw [answer_watch]
  split
  · rfl
  · split
    · exact (Dict.get?_insert _ _ _ _).trans (if_neg h)
    · rfl

/-- Afterwards the cache holds the answer, unless it is an error. -/
theorem get?_watch (load : TerritorySource σ) (r : Resolvers) (i : Nat) (id : String) (s : σ) :
    let out := r.watch load i id s
    out.answer.2.cache.get? id = (r.cache.get? id).or out.answer.1.toOption := by
  dsimp only
  rw [answer_watch]
  cases hc : r.cache.get? id with
  | some codes => exact hc
  | none =>
    cases (load id s).1 with
    | error e => exact hc
    | ok loaded => exact (Dict.get?_insert _ _ _ _).trans (if_pos rfl)

/-- An error comes from the loader and leaves the resolvers as they are. -/
theorem watch_of_error {load : TerritorySource σ} {r : Resolvers} {i : Nat} {id : String} {s : σ}
    {e : GeoError} (h : (r.watch load i id s).answer.1 = .error e) :
    r.cache.get? id = none ∧ (r.watch load i id s).answer.2 = r := by
  constructor
  · rw [answer_watch] at h
    cases hc : r.cache.get? id with
    | none => rfl
    | some codes =>
      rw [hc] at h
      cases h
  · change ({ r with cache := _ } : Resolvers) = r
    rw [TerritoryCache.cache_of_resolve_error h]

/-- What a resolution of a group does depends on what the cache holds of this group alone. -/
theorem watch_congr (load : TerritorySource σ) {r t : Resolvers} {id : String}
    (hc : r.cache.get? id = t.cache.get? id) (hm : r.members = t.members) (i : Nat) (s : σ) :
    (r.watch load i id s).answer.1 = (t.watch load i id s).answer.1 ∧
      (r.watch load i id s).state = (t.watch load i id s).state := by
  constructor
  · have htable : r.regions i = t.regions i := by rw [regions, regions, hm]
    rw [answer_watch, answer_watch, hc, htable]
    cases t.cache.get? id with
    | some codes => rfl
    | none => cases (load id s).1 <;> rfl
  · simp only [state_watch, TerritoryCache.missing, Dict.contains_eq_isSome, hc]

/-! ## Any number of steps -/

namespace History

/-- Whether the cache of a history holds the first answers to all groups. -/
def Remembers (h : History σ) : Prop :=
  ∀ id, h.resolvers.cache.get? id = firstAnswer? h.past id

theorem Remembers.step {load : TerritorySource σ} {h : History σ} (hr : h.Remembers)
    (step : Step σ) : (h.step load step).Remembers := by
  cases step with
  | clone i => exact hr
  | withRegions table => exact hr
  | changeLoader f => exact hr
  | resolve i id =>
    intro key
    rw [History.step, firstAnswer?_append, ← hr key]
    dsimp only
    by_cases hk : id = key
    · rw [if_pos hk, ← hk]
      exact get?_watch load h.resolvers i id h.loader
    · rw [if_neg hk, Option.or_none]
      exact get?_watch_of_ne load h.resolvers i hk h.loader

theorem remembers_ofSteps (load : TerritorySource σ) (regions : Option RegionTable) (s : σ)
    (steps : List (Step σ)) : (ofSteps load regions s steps).Remembers := by
  induction steps using List.reverseRecOn with
  | nil => exact fun _ => rfl
  | append_singleton steps step ih =>
    rw [ofSteps_append]
    exact ih.step step

theorem members_ofSteps (load : TerritorySource σ) (regions : Option RegionTable) (s : σ)
    (steps : List (Step σ)) :
    (ofSteps load regions s steps).resolvers.members = tables regions steps := by
  induction steps using List.reverseRecOn with
  | nil => rfl
  | append_singleton steps step ih =>
    rw [ofSteps_append, tables, List.foldl_append, List.foldl_cons, List.foldl_nil, ← tables, ← ih]
    cases step with
    | resolve i id => exact members_watch load _ i id _
    | clone i => rfl
    | withRegions table => rfl
    | changeLoader f => rfl

/-! ## One group alone -/

/-- Whether a history is another one without the resolutions of all groups but one. -/
structure Restricts (id : String) (h k : History σ) : Prop where
  members : h.resolvers.members = k.resolvers.members
  cached : h.resolvers.cache.get? id = k.resolvers.cache.get? id
  loader : h.loader = k.loader
  past : (h.past.filter fun p => p.id = id) = k.past

variable {load : TerritorySource σ} {id : String} {h k : History σ}

/-- A group is resolved alike in both histories. -/
theorem Restricts.resolve (hr : Restricts id h k) (i : Nat) :
    Restricts id (h.step load (.resolve i id)) (k.step load (.resolve i id)) := by
  obtain ⟨hanswer, hstate⟩ := watch_congr load hr.cached hr.members i h.loader
  rw [History.step, History.step, ← hr.loader]
  refine ⟨?_, ?_, congrArg Watched.source hstate, ?_⟩
  · rw [members_watch, members_watch, hr.members]
  · dsimp only
    rw [get?_watch, get?_watch, hr.cached, hanswer]
  · dsimp only
    rw [List.filter_append, hr.past, hanswer, hstate]
    exact congrArg (k.past ++ ·) (List.filter_cons_of_pos (decide_eq_true rfl))

/-- The resolution of another group comes to what is loaded for it. -/
theorem Restricts.resolve_other (hr : Restricts id h k) {key : String} (hne : key ≠ id) (i : Nat) :
    Restricts id (h.step load (.resolve i key))
      (k.step load (.changeLoader (load.after (h.resolvers.cache.missing key)))) := by
  rw [History.step, History.step, ← hr.loader]
  refine ⟨?_, ?_, ?_, ?_⟩
  · rw [members_watch, hr.members]
  · exact (get?_watch_of_ne load _ i hne _).trans hr.cached
  · dsimp only
    rw [state_watch]
  · dsimp only
    rw [List.filter_append, hr.past]
    have hother : ¬ decide (key = id) = true := mt of_decide_eq_true hne
    exact (congrArg (k.past ++ ·) (List.filter_cons_of_neg hother)).trans (List.append_nil k.past)

theorem Restricts.exists_step (load : TerritorySource σ) (hr : Restricts id h k)
    (step : Step σ) :
    ∃ left, step.Reduces load id left ∧ Restricts id (h.step load step) (k.step load left) := by
  cases step with
  | resolve i key =>
    by_cases hkey : key = id
    · rw [hkey]
      exact ⟨_, .resolve i, hr.resolve i⟩
    · refine ⟨_, .other hkey i ?_, hr.resolve_other hkey i⟩
      unfold TerritoryCache.missing
      split
      · exact List.nil_prefix
      · exact List.prefix_rfl
  | clone i =>
    refine ⟨_, .clone i, ?_, hr.cached, hr.loader, hr.past⟩
    simp only [History.step, clone, regions, hr.members]
  | withRegions table =>
    refine ⟨_, .withRegions table, ?_, hr.cached, hr.loader, hr.past⟩
    simp only [History.step, withRegions, hr.members]
  | changeLoader f =>
    exact ⟨_, .changeLoader f, hr.members, hr.cached, congrArg f hr.loader, hr.past⟩

theorem exists_restricts_ofSteps (load : TerritorySource σ) (regions : Option RegionTable) (s : σ)
    (id : String) (steps : List (Step σ)) :
    ∃ left, List.Forall₂ (Step.Reduces load id) steps left ∧
      Restricts id (ofSteps load regions s steps) (ofSteps load regions s left) := by
  induction steps using List.reverseRecOn with
  | nil => exact ⟨[], .nil, rfl, rfl, rfl, rfl⟩
  | append_singleton steps step ih =>
    obtain ⟨left, hleft, hr⟩ := ih
    obtain ⟨last, hlast, hstep⟩ := hr.exists_step load step
    refine ⟨left ++ [last], List.rel_append hleft (.cons hlast .nil), ?_⟩
    rw [ofSteps_append, ofSteps_append]
    exact hstep

end History

/-- After any steps, a group with an answer that was no error is answered with the first one, and
nothing is loaded. Any other group is loaded; it is answered with what is loaded, expanded by the
table of the resolver, or with the error. An error leaves the resolvers as they are, so the group
is loaded again. What is left of the other groups is what their loads change at the loader: without
their resolutions the group would have been answered alike. -/
theorem resolve_after_steps (load : TerritorySource σ) (regions : Option RegionTable) (s : σ)
    (steps : List (Step σ)) (i : Nat) (id : String) :
    let h := History.ofSteps load regions s steps
    let out := h.resolvers.watch load i id h.loader
    (∀ codes, firstAnswer? h.past id = some codes →
        out.answer = (.ok codes, h.resolvers) ∧ out.state = ⟨h.loader, []⟩) ∧
      (firstAnswer? h.past id = none →
        out.answer.1 = (load id h.loader).1.map
            (TerritoryCache.expanded (tables regions steps)[i]?.join) ∧
          out.state = ⟨(load id h.loader).2, [id]⟩) ∧
      (∀ e, out.answer.1 = .error e → out.answer.2 = h.resolvers ∧
        ∀ j t, (out.answer.2.watch load j id t).state.calls = [id]) ∧
      ∃ left, List.Forall₂ (Step.Reduces load id) steps left ∧
        (h.past.filter fun p => p.id = id) = (History.ofSteps load regions s left).past := by
  intro h out
  have hremembers : h.resolvers.cache.get? id = firstAnswer? h.past id :=
    History.remembers_ofSteps load regions s steps id
  have htable : h.resolvers.regions i = (tables regions steps)[i]?.join := by
    rw [Resolvers.regions, History.members_ofSteps]
  have hanswer := answer_watch load h.resolvers i id h.loader
  have hstate := state_watch load h.resolvers i id h.loader
  rw [TerritoryCache.missing, Dict.contains_eq_isSome, hremembers] at hstate
  rw [htable, hremembers] at hanswer
  refine ⟨?_, ?_, ?_, ?_⟩
  · intro codes hfirst
    rw [hfirst] at hanswer hstate
    exact ⟨hanswer, hstate⟩
  · intro hfirst
    rw [hfirst] at hanswer hstate
    refine ⟨?_, hstate⟩
    rw [hanswer]
    cases (load id h.loader).1 <;> rfl
  · intro e he
    obtain ⟨hmiss, hsame⟩ := watch_of_error he
    refine ⟨hsame, ?_⟩
    intro j t
    rw [hsame, state_watch, TerritoryCache.missing, Dict.contains_eq_isSome, hmiss]
    rfl
  · obtain ⟨left, hleft, hr⟩ := History.exists_restricts_ofSteps load regions s id steps
    exact ⟨left, hleft, hr.past⟩

/-- A loader that looks groups up and changes nothing. -/
def lookUp : TerritorySource (Dict (List String)) := fun id held =>
  match held.get? id with
  | some codes => (.ok codes, held)
  | none => (.error (.backend "loader" id), held)

/-- A load that fails, a clone and a resolver with a table, which loads first; then the loader
changes. -/
def sharedSteps : List (Step (Dict (List String))) :=
  [.resolve 0 "1", .changeLoader fun held => held.insert "1" ["Europe"], .clone 0,
    .withRegions ⟨.single "Europe" ["Albania", "Andorra"]⟩, .resolve 2 "1", .resolve 1 "2",
    .changeLoader fun held => held.insert "1" ["BE"]]

theorem resolve_after_sharedSteps :
    let h := History.ofSteps lookUp none .empty sharedSteps
    (h.past.map fun p => (p.id, p.loads)) = [("1", ["1"]), ("1", ["1"]), ("2", ["2"])] ∧
      (lookUp "1" h.loader).1 = .ok ["BE"] ∧
      (h.resolvers.watch lookUp 1 "1" h.loader).answer.1 = .ok ["Albania", "Andorra"] ∧
      (h.resolvers.watch lookUp 1 "1" h.loader).state.calls = [] ∧
      ∃ left, List.Forall₂ (Step.Reduces lookUp "1") sharedSteps left ∧
        (h.past.filter fun p => p.id = "1") = (History.ofSteps lookUp none .empty left).past := by
  intro h
  have hfirst : firstAnswer? h.past "1" = some ["Albania", "Andorra"] := by decide +kernel
  obtain ⟨hkept, -, -, hleft⟩ := resolve_after_steps lookUp none .empty sharedSteps 1 "1"
  obtain ⟨hanswer, hstate⟩ := hkept _ hfirst
  exact ⟨by decide +kernel, by decide +kernel, congrArg Prod.fst hanswer,
    congrArg Watched.calls hstate, hleft⟩

end GeoRouting.Resolvers
