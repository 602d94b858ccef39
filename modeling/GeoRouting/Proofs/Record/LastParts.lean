import GeoRouting.Dict.Lookup
import GeoRouting.Record.Draft
import Mathlib.Data.List.Induction
import Mathlib.Tactic.SplitIfs

/-!
# What steps leave in a draft

Of a name, a type, a time to live and a route a draft keeps the last that it was given, and of data
all that was added, in order. So steps for different parts can change places, and what is set again
leaves no trace. These parts alone decide whether a record set is made, which one it is, and which
parameter is named when it is refused.
-/

namespace GeoRouting.Draft

namespace Step

/-- The part of a record set that a step is for. -/
inductive Part where
  | name | type | ttl | rdata | route
deriving DecidableEq, Repr

def part : Step → Part
  | .name _ => .name
  | .type _ => .type
  | .ttl _ => .ttl
  | .add _ | .addAll _ => .rdata
  | .route _ => .route

def name? : Step → Option String
  | .name given => some given
  | _ => none

def type? : Step → Option String
  | .type given => some given
  | _ => none

def ttl? : Step → Option (Option UInt32)
  | .ttl given => some given
  | _ => none

def route? : Step → Option GeoRoute
  | .route (.geo given) => some given
  | _ => none

def added : Step → List Rdata
  | .add given => [given]
  | .addAll given => given
  | _ => []

end Step

/-- The parts that steps leave: the last of each kind, and all data. -/
structure Parts where
  name : Option String
  type : Option String
  ttl : Option (Option UInt32)
  rdata : List Rdata
  route : Option GeoRoute
deriving DecidableEq, Repr

/-- The last thing that steps give of some kind. -/
def last {α : Type} (given : Step → Option α) (steps : List Step) : Option α :=
  (steps.filterMap given).getLast?

def lastParts (steps : List Step) : Parts where
  name := last Step.name? steps
  type := last Step.type? steps
  ttl := last Step.ttl? steps
  rdata := steps.flatMap Step.added
  route := last Step.route? steps

namespace Parts

def records (p : Parts) : RecordSet := ⟨p.name.getD "", p.type.getD "", p.ttl.getD none, p.rdata⟩

def routes (p : Parts) : Dict Route :=
  p.route.elim .empty fun g => .single Route.geoKind (.geo g)

/-- The draft with these parts. -/
def draft (p : Parts) : Draft :=
  ⟨p.records.name, p.records.type, p.records.ttl, p.records.rdata, p.routes⟩

/-- What has to hold of a plain record set, each condition with its parameter. -/
def plainConditions (p : Parts) : List (String × Bool) :=
  [("name", p.name.any (· ≠ "")), ("type", p.type.any (· ≠ ""))]

/-- What has to hold of a routed record set, each condition with its parameter. -/
def conditions (p : Parts) : List (String × Bool) :=
  p.plainConditions ++
    [("config", p.route.isSome),
      ("groupName", p.route.any (·.group ≠ "")),
      ("rdata", p.route.any fun g => p.rdata.isEmpty == g.noResponse),
      ("territories", p.route.any fun g => g.noResponse || !g.territories.isEmpty)]

end Parts

/-! ## Steps in any order -/

theorem last_append {α : Type} (given : Step → Option α) (steps others : List Step) :
    last given (steps ++ others) = (last given others).or (last given steps) := by
  rw [last, List.filterMap_append, List.getLast?_append]
  rfl

theorem last_singleton {α : Type} (given : Step → Option α) (s : Step) :
    last given [s] = given s := by
  rw [last, List.filterMap_cons, List.filterMap_nil]
  cases given s <;> rfl

/-- What is given once more hides what was given before. -/
theorem last_skip {α : Type} {given : Step → Option α} {a b : Step}
    (h : given a = none ∨ (given b).isSome = true) (before between after : List Step) :
    last given (before ++ a :: (between ++ b :: after)) =
      last given (before ++ (between ++ b :: after)) := by
  have hcons (s : Step) (steps : List Step) :
      last given (s :: steps) = (last given steps).or (given s) := by
    rw [← last_singleton given s, ← last_append, List.singleton_append]
  rcases h with ha | hb
  · rw [last_append, last_append given before, hcons, ha, Option.or_none]
  · have hsome : (last given (between ++ b :: after)).isSome = true := by
      rw [last_append, hcons, Option.isSome_or, Option.isSome_or, hb, Bool.or_true, Bool.true_or]
    rw [last_append, last_append given before, hcons, Option.or_of_isSome hsome]

theorem apply_comm (d : Draft) {a b : Step} (h : a.part ≠ b.part) :
    (d.apply a).apply b = (d.apply b).apply a := by
  cases a <;> cases b <;> first | rfl | exact absurd rfl h

theorem routes_insert (p : Parts) (g : GeoRoute) :
    p.routes.insert Route.geoKind (.geo g) = .single Route.geoKind (.geo g) := by
  refine Dict.ext_get? fun k => ?_
  rw [Parts.routes]
  cases p.route with
  | none => rfl
  | some own =>
    simp only [Option.elim_some, Dict.get?_insert, Dict.get?_single]
    split <;> rfl

/-- One more step gives its part anew. -/
theorem lastParts_concat (steps : List Step) (s : Step) :
    let p := lastParts steps
    lastParts (steps ++ [s]) =
      ⟨s.name?.or p.name, s.type?.or p.type, s.ttl?.or p.ttl, p.rdata ++ s.added,
        s.route?.or p.route⟩ := by
  simp only [lastParts, last_append, last_singleton, List.flatMap_append, List.flatMap_singleton]

/-- A draft is made of the last parts of its steps. -/
theorem ofSteps_eq (steps : List Step) : ofSteps steps = (lastParts steps).draft := by
  induction steps using List.reverseRecOn with
  | nil => rfl
  | append_singleton steps s ih =>
    have hsteps : ofSteps (steps ++ [s]) = (ofSteps steps).apply s := by
      rw [ofSteps, List.foldl_append]
      rfl
    rw [hsteps, ih, lastParts_concat]
    cases s with
    | add rdata => rfl
    | addAll rdata => rfl
    | route route =>
      cases route with
      | geo g =>
        simp only [Step.added, List.append_nil]
        exact congrArg (Draft.mk _ _ _ _) (routes_insert (lastParts steps) g)
    | _ =>
      simp only [Step.added, List.append_nil]
      rfl

/-- What is set again leaves no trace of what was set before. -/
theorem lastParts_skip {a b : Step} (hpart : a.part = b.part) (hne : a.part ≠ .rdata)
    (before between after : List Step) :
    lastParts (before ++ a :: (between ++ b :: after)) =
      lastParts (before ++ (between ++ b :: after)) := by
  have hname : a.name? = none ∨ b.name?.isSome = true := by
    cases a <;> cases b <;> simp_all [Step.part, Step.name?]
  have htype : a.type? = none ∨ b.type?.isSome = true := by
    cases a <;> cases b <;> simp_all [Step.part, Step.type?]
  have httl : a.ttl? = none ∨ b.ttl?.isSome = true := by
    cases a <;> cases b <;> simp_all [Step.part, Step.ttl?]
  have hroute : a.route? = none ∨ b.route?.isSome = true := by
    rcases a with _ | _ | _ | _ | _ | ⟨⟨_⟩⟩ <;> rcases b with _ | _ | _ | _ | _ | ⟨⟨_⟩⟩ <;>
      simp_all [Step.part, Step.route?]
  have hadded : a.added = [] := by
    cases a <;> first | rfl | exact absurd rfl hne
  rw [lastParts, lastParts, last_skip hname, last_skip htype, last_skip httl, last_skip hroute]
  simp only [List.flatMap_append, List.flatMap_cons, hadded, List.nil_append]

/-! ## Conditions in order -/

/-- The parameter that the error of a flaw names. -/
def Flaw.param : Flaw → String
  | .noName => "name"
  | .noType => "type"
  | .noRoute => "config"
  | .noGroup => "groupName"
  | .silence => "rdata"
  | .noTerritory => "territories"

theorem Flaw.exists_error (flaw : Flaw) (d : Draft) (group : String) :
    ∃ detail, flaw.error d group = .invalidArgument provider flaw.param detail := by
  cases flaw <;> exact ⟨_, rfl⟩

/-- Whether a record set is made exactly when all conditions hold, and of one that is refused the
first condition that does not hold is named. -/
structure Decides {α : Type} (conditions : List (String × Bool)) (made : α)
    (built : Except GeoError α) : Prop where
  ok_iff : (∃ r, built = .ok r) ↔ ∀ c ∈ conditions, c.2 = true
  eq_made : ∀ r, built = .ok r → r = made
  first : ∀ before param after, conditions = before ++ (param, false) :: after →
    (∀ c ∈ before, c.2 = true) →
    ∃ detail, built = .error (.invalidArgument provider param detail)

/-- The first condition that does not hold. -/
def violated? (conditions : List (String × Bool)) : Option String :=
  (conditions.find? fun c => !c.2).map Prod.fst

theorem violated?_eq_none {conditions : List (String × Bool)} :
    violated? conditions = none ↔ ∀ c ∈ conditions, c.2 = true := by
  simp [violated?]

theorem violated?_append {before : List (String × Bool)} (h : ∀ c ∈ before, c.2 = true)
    (param : String) (after : List (String × Bool)) :
    violated? (before ++ (param, false) :: after) = some param := by
  have hnone : before.find? (fun c => !c.2) = none :=
    List.find?_eq_none.mpr fun c hc => by simp [h c hc]
  rw [violated?, List.find?_append, hnone]
  rfl

/-- A builder that reports the first flaw decides by the conditions that have the same first
parameter. -/
theorem decides_of_flaw {α : Type} {conditions : List (String × Bool)} {made : α}
    {built : Except GeoError α} {flaw? : Option Flaw} (d : Draft) (group : String)
    (h : flaw?.map Flaw.param = violated? conditions)
    (hnone : flaw? = none → built = .ok made)
    (hsome : ∀ flaw, flaw? = some flaw → built = .error (flaw.error d group)) :
    Decides conditions made built := by
  cases hflaw : flaw? with
  | none =>
    rw [hflaw] at h
    rw [hnone hflaw]
    refine ⟨iff_of_true ⟨made, rfl⟩ (violated?_eq_none.mp h.symm),
      fun r hr => (Except.ok.inj hr).symm, ?_⟩
    rintro before param after rfl hbefore
    rw [violated?_append hbefore] at h
    cases h
  | some flaw =>
    rw [hflaw] at h
    rw [hsome flaw hflaw]
    refine ⟨iff_of_false ?_ fun hall => ?_, fun r hr => ?_, ?_⟩
    · rintro ⟨r, hr⟩
      cases hr
    · rw [violated?_eq_none.mpr hall] at h
      cases h
    · cases hr
    · rintro before param after rfl hbefore
      rw [violated?_append hbefore, Option.map_some, Option.some.injEq] at h
      obtain ⟨detail, herror⟩ := flaw.exists_error d group
      exact ⟨detail, congrArg Except.error (h ▸ herror)⟩

theorem any_ne_empty (given : Option String) :
    given.any (· ≠ "") = decide (given.getD "" ≠ "") := by
  cases given <;> simp

/-- The first flaw of a draft is the first condition on its parts that does not hold. -/
theorem nameFlaw?_draft (p : Parts) :
    p.draft.nameFlaw?.map Flaw.param = violated? p.plainConditions := by
  rw [Parts.plainConditions, any_ne_empty, any_ne_empty, nameFlaw?]
  change Option.map Flaw.param (if p.name.getD "" = "" then _ else if p.type.getD "" = "" then _
    else _) = _
  by_cases hname : p.name.getD "" = ""
  · simp [violated?, hname, Flaw.param]
  · by_cases htype : p.type.getD "" = ""
    · simp [violated?, hname, htype, Flaw.param]
    · simp [violated?, hname, htype]

theorem violated?_append_eq_or (conditions others : List (String × Bool)) :
    violated? (conditions ++ others) = (violated? conditions).or (violated? others) := by
  rw [violated?, List.find?_append, Option.map_or]
  rfl

theorem flaw?_draft (p : Parts) : p.draft.flaw?.map Flaw.param = violated? p.conditions := by
  rw [Parts.conditions, violated?_append_eq_or, ← nameFlaw?_draft, flaw?, Option.orElse_eq_orElse,
    Option.orElse_eq_or, Option.map_or]
  refine congrArg _ ?_
  have hgeo : p.draft.geo? = p.route := by
    rw [geo?]
    change (p.routes.get? Route.geoKind).map _ = _
    rw [Parts.routes]
    cases p.route with
    | none => rfl
    | some g => simp
  have hempty : p.draft.routes.isEmpty = p.route.isNone := by
    change p.routes.isEmpty = _
    rw [Parts.routes]
    cases p.route <;> rfl
  rw [hgeo, hempty]
  cases p.route with
  | none => rfl
  | some g =>
    change Option.map Flaw.param (p.draft.routeFlaw? g) = _
    have hrdata : p.draft.rdata = p.rdata := rfl
    rw [routeFlaw?, hrdata]
    by_cases hgroup : g.group = ""
    · simp [violated?, hgroup, Flaw.param]
    · by_cases hsilent : g.noResponse = p.rdata.isEmpty
      · cases hn : g.noResponse <;> cases ht : g.territories <;>
          simp_all [violated?, Flaw.param]
      · have hbeq : (p.rdata.isEmpty == g.noResponse) = false :=
          beq_false_of_ne (Ne.symm hsilent)
        simp [violated?, hgroup, hsilent, hbeq, Flaw.param]

/-- A plain record set is refused for its name or its type. -/
theorem recordSet_draft (p : Parts) :
    p.draft.recordSet =
      if p.records.name = "" then .error (.emptyArgument provider "name")
      else if p.records.type = "" then .error (.emptyArgument provider "type")
      else .ok p.records := by
  have hname : p.draft.name = p.records.name := rfl
  have htype : p.draft.type = p.records.type := rfl
  rw [recordSet, nameFlaw?, hname, htype]
  split_ifs <;> rfl

/-- The last parts of its steps decide whether a draft makes a record set, plain or routed, which
one, and otherwise which parameter is named. Steps for different parts can change places, and a
part other than data that is set again leaves no trace of what it was. -/
theorem built_of_lastParts (steps : List Step) :
    let p := lastParts steps
    Decides p.conditions ⟨p.records, p.routes⟩ (ofSteps steps).routed ∧
      Decides p.plainConditions p.records (ofSteps steps).recordSet ∧
      (∀ others, lastParts others = p →
        (ofSteps others).routed = (ofSteps steps).routed) ∧
      (∀ others, (lastParts others).records = p.records →
        (ofSteps others).recordSet = (ofSteps steps).recordSet) ∧
      (∀ before a b after, steps = before ++ a :: b :: after → a.part ≠ b.part →
        ofSteps (before ++ b :: a :: after) = ofSteps steps) ∧
      ∀ before a between b after, steps = before ++ a :: (between ++ b :: after) →
        a.part = b.part → a.part ≠ .rdata →
        ofSteps (before ++ (between ++ b :: after)) = ofSteps steps := by
  intro p
  have hdraft : ofSteps steps = p.draft := ofSteps_eq steps
  refine ⟨?_, ?_, ?_, ?_, ?_, ?_⟩
  · rw [hdraft]
    refine decides_of_flaw p.draft p.draft.groupName (flaw?_draft p) (fun hnone => ?_)
      fun flaw hflaw => ?_
    · rw [routed, hnone]
      rfl
    · rw [routed, hflaw]
  · rw [hdraft]
    refine decides_of_flaw p.draft p.draft.groupName (nameFlaw?_draft p) (fun hnone => ?_)
      fun flaw hflaw => ?_
    · rw [recordSet, hnone]
      rfl
    · rw [recordSet, hflaw]
  · intro others hothers
    rw [ofSteps_eq others, hothers, hdraft]
  · intro others hothers
    rw [ofSteps_eq others, hdraft, recordSet_draft, recordSet_draft, hothers]
  · rintro before a b after rfl hpart
    rw [ofSteps, ofSteps, List.foldl_append, List.foldl_append, List.foldl_cons, List.foldl_cons,
      List.foldl_cons, List.foldl_cons, apply_comm _ hpart]
  · rintro before a between b after rfl hpart hne
    rw [hdraft, ofSteps_eq, ← lastParts_skip hpart hne]

/-- Steps in no order, with a name, a type and a route that are given twice. -/
def mixedSteps : List Step :=
  [.route (.geo ⟨"", [], false⟩), .add (.single "address" (.text "192.0.2.1")), .type "A",
    .name "", .ttl none, .type "AAAA", .addAll [.single "address" (.text "192.0.2.2")],
    .name "a.z.", .route (.geo ⟨"eu", ["BE"], false⟩)]

theorem built_of_mixedSteps :
    let steps := mixedSteps
    let tidy : List Step :=
      [.name "a.z.", .type "AAAA", .ttl none,
        .addAll [.single "address" (.text "192.0.2.1"), .single "address" (.text "192.0.2.2")],
        .route (.geo ⟨"eu", ["BE"], false⟩)]
    lastParts tidy = lastParts steps ∧ (ofSteps tidy).routed = (ofSteps steps).routed ∧
      (∃ r, (ofSteps steps).routed = .ok r) ∧
      (∃ detail, (ofSteps mixedSteps.dropLast).routed =
        .error (.invalidArgument provider "groupName" detail)) ∧
      (∃ detail, (ofSteps [.name "a.z.", .name ""]).recordSet =
        .error (.invalidArgument provider "name" detail)) ∧
      ofSteps (steps.take 2 ++ [.name "", .type "A"] ++ steps.drop 4) = ofSteps steps ∧
      ofSteps steps.tail = ofSteps steps := by
  intro steps tidy
  have hparts : lastParts tidy = lastParts steps := by decide +kernel
  obtain ⟨hrouted, -, hothers, -, hswap, hskip⟩ := built_of_lastParts steps
  refine ⟨hparts, hothers tidy hparts, hrouted.ok_iff.mpr (by decide +kernel), ?_, ?_, ?_, ?_⟩
  · exact (built_of_lastParts mixedSteps.dropLast).1.first
      [("name", true), ("type", true), ("config", true)] "groupName"
      [("rdata", true), ("territories", false)] (by decide +kernel) (by decide)
  · exact (built_of_lastParts [.name "a.z.", .name ""]).2.1.first [] "name" [("type", false)]
      (by decide +kernel) (by decide)
  · exact hswap (steps.take 2) (.type "A") (.name "") (steps.drop 4) rfl (by decide)
  · exact hskip [] (.route (.geo ⟨"", [], false⟩)) (steps.tail.take 7)
      (.route (.geo ⟨"eu", ["BE"], false⟩)) [] rfl rfl (by decide)

end GeoRouting.Draft
