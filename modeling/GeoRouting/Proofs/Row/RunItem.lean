import GeoRouting.Proofs.Resolution
import GeoRouting.Proofs.Row.Runs

/-!
# What a run is emitted as

A run is emitted as one record set: name, type and time to live of its first row, the data of
all its rows, and the territories of the group of its first row. A run with a problem is emitted
as the first of its problems, in the order in which they are listed here. Building a run row by
row gives the same item.
-/

namespace GeoRouting

/-- The value, unless there are problems; then the first of them. -/
def GeoError.checked {α : Type} (problems : List GeoError) (a : α) : Except GeoError α :=
  match problems with
  | [] => .ok a
  | e :: _ => .error e

open GeoError

section
variable {α β : Type}

theorem checked_append (ps qs : List GeoError) (a : α) :
    checked (ps ++ qs) a = (checked ps ()).bind fun _ => checked qs a := by
  cases ps <;> rfl

theorem checked_map (f : α → β) (ps : List GeoError) (a : α) :
    (checked ps a).map f = checked ps (f a) := by
  cases ps <;> rfl

theorem checked_eq_ok {ps : List GeoError} {a b : α} :
    checked ps a = .ok b ↔ ps = [] ∧ a = b := by
  cases ps <;> simp [checked]

end

/-- A violation as the error that is answered with. -/
def Violation.error (provider : String) (v : Violation) : GeoError :=
  .contractViolation provider v.detail

/-- A fault as the error that is answered with. -/
def RunFault.error (provider : String) : RunFault → GeoError
  | .violation v => v.error provider
  | .rdata e => e

theorem RunFault.answer_report {σ : Type} (provider : String) (f : RunFault) (s : σ) :
    ((f.report provider).run s).answer = f.error provider := by
  cases f <;> rfl

theorem RunFault.state_report {σ : Type} (provider : String) (f : RunFault) (s : σ) :
    ((f.report provider).run s).state = s := by
  cases f <;> rfl

namespace Row

/-- What is wrong with a row taken alone. -/
def problems (provider : String) (r : Row) : List GeoError :=
  if r.noResponse then []
  else if r.values = [] then
    [(Violation.noAnswer r.name r.type (r.groupName?.getD "?")).error provider]
  else
    match Rdata.convert provider r.type r.values with
    | .ok _ => []
    | .error e => [e]

/-- What is wrong with a row after the first one of its run. -/
def joinProblems (first : Row) (provider : String) (r : Row) : List GeoError :=
  (if r.noResponse = first.noResponse then []
    else [(Violation.mixed first.name first.type (first.groupName?.getD "?")).error provider]) ++
  r.problems provider

/-- Why a record set that starts with a row is refused in the end. -/
def refusals (first : Row) (group : GroupRef) (codes : List String) : List GeoError :=
  (if first.name = "" then [emptyArgument Draft.provider "name"] else []) ++
  (if first.type = "" then [emptyArgument Draft.provider "type"] else []) ++
  (if group.name = "" then [emptyArgument Draft.provider "groupName"] else []) ++
  (if first.noResponse = false ∧ codes = [] then
    [.invalidArgument Draft.provider "territories" s!"group {group.name} covers no territories"]
    else [])

/-- The data that a row answers with. -/
def data (provider : String) (r : Row) : List Rdata :=
  if r.noResponse then [] else (Rdata.convert provider r.type r.values).toOption.toList

end Row

namespace Run

/-- The item of the run made of `first` and the rows `others` after it. -/
def item (provider : String) (territories : String → Except GeoError (List String))
    (first : Row) (others : List Row) : Item :=
  match first.group? with
  | none => .error ((Violation.ungrouped first.name first.type first.values).error provider)
  | some group =>
    match territories group.id with
    | .error e => .error e
    | .ok codes =>
      checked
        (first.problems provider ++ others.flatMap (first.joinProblems provider) ++
          first.refusals group codes)
        ⟨⟨first.name, first.type, first.ttl, (first :: others).flatMap (Row.data provider)⟩,
          .single Route.geoKind (.geo ⟨group.name, codes, first.noResponse⟩)⟩

theorem item_eq_ok {provider : String} {territories : String → Except GeoError (List String)}
    {first : Row} {others : List Row} {r : RoutedRecordSet} :
    item provider territories first others = .ok r ↔
      ∃ group codes, first.group? = some group ∧ territories group.id = .ok codes ∧
        first.problems provider = [] ∧ others.flatMap (first.joinProblems provider) = [] ∧
        first.refusals group codes = [] ∧
        r = ⟨⟨first.name, first.type, first.ttl, (first :: others).flatMap (Row.data provider)⟩,
          .single Route.geoKind (.geo ⟨group.name, codes, first.noResponse⟩)⟩ := by
  unfold item
  cases first.group? with
  | none => simp
  | some group =>
    cases ht : territories group.id with
    | error e => simp [ht]
    | ok codes =>
      simp only [ht, checked_eq_ok, List.append_eq_nil_iff]
      constructor
      · rintro ⟨⟨⟨hf, ho⟩, hr⟩, rfl⟩
        exact ⟨group, codes, rfl, ht, hf, ho, hr, rfl⟩
      · rintro ⟨g, c, hg, hc, hf, ho, hr, rfl⟩
        cases Option.some.inj hg
        cases Except.ok.inj (ht.symm.trans hc)
        exact ⟨⟨⟨hf, ho⟩, hr⟩, rfl⟩

/-- An item depends on what the group of its first row resolves to, and on no other group. -/
theorem item_congr {provider : String}
    {territories other : String → Except GeoError (List String)} {first : Row}
    (h : ∀ g ∈ first.group?, other g.id = territories g.id) (others : List Row) :
    item provider other first others = item provider territories first others := by
  unfold item
  cases hg : first.group? with
  | none => rfl
  | some g =>
    dsimp only
    rw [h g hg]

/-- The items of all runs of some rows, in order. No run is empty. -/
def items (provider : String) (territories : String → Except GeoError (List String))
    (rows : List Row) : List Item :=
  (Row.runs rows).filterMap fun
    | [] => none
    | first :: others => some (item provider territories first others)

end Run

/-! ## Building row by row -/

namespace Row

theorem contribution_eq (provider : String) (r : Row) :
    (r.contribution provider).mapError (RunFault.error provider) =
      checked (r.problems provider) (r.data provider) := by
  unfold contribution problems data
  split
  · rfl
  · split
    · rfl
    · cases Rdata.convert provider r.type r.values <;> rfl

theorem joining_eq (first : Row) (provider : String) (r : Row) :
    (first.joining provider r).mapError (RunFault.error provider) =
      checked (first.joinProblems provider r) (r.data provider) := by
  by_cases h : r.noResponse = first.noResponse
  · rw [joining, joinProblems, if_neg (not_not.mpr h), if_pos h, List.nil_append]
    exact contribution_eq provider r
  · rw [joining, joinProblems, if_pos h, if_neg h]
    rfl

/-- A row without problems has data exactly when it answers. -/
theorem isEmpty_data {provider : String} {r : Row} (h : r.problems provider = []) :
    (r.data provider).isEmpty = r.noResponse := by
  unfold problems at h
  unfold data
  cases hr : r.noResponse with
  | true => rfl
  | false =>
    simp only [hr, Bool.false_eq_true, if_false] at h ⊢
    split at h
    · cases h
    · split at h
      · rename_i hc
        rw [hc]
        rfl
      · cases h

theorem noResponse_of_joinProblems {first r : Row} {provider : String}
    (h : first.joinProblems provider r = []) : r.noResponse = first.noResponse := by
  by_contra hn
  simp [joinProblems, hn] at h

end Row

/-- The stream of some rows of which the first has been taken early. -/
def RowStream.peeked (rows : List Row) : RowStream := ⟨rows.tail, rows.head?⟩

theorem RowStream.toList_peeked (rows : List Row) : (peeked rows).toList = rows := by
  cases rows <;> rfl

namespace Run

theorem follow_eq (provider : String) (first : Row) (source : List Row) :
    (follow provider first source).1.mapError (RunFault.error provider) =
      checked ((first.others source).flatMap (first.joinProblems provider))
        ((first.others source).map (Row.data provider)) := by
  induction source with
  | nil => rfl
  | cons r rest ih =>
    rw [follow, Row.others_cons]
    by_cases hr : r.sameRun first = true
    · have hj := Row.joining_eq first provider r
      rw [if_pos hr, if_pos hr, List.flatMap_cons, List.map_cons, checked_append]
      cases hf : first.joining provider r with
      | error fault =>
        rw [hf] at hj
        cases hp : first.joinProblems provider r with
        | nil =>
          rw [hp] at hj
          cases hj
        | cons e es =>
          rw [hp] at hj
          exact congrArg Except.error (Except.error.inj hj)
      | ok own =>
        rw [hf] at hj
        obtain ⟨hp, hd⟩ := checked_eq_ok.mp hj.symm
        rw [hp, hd]
        change ((follow provider first rest).1.map _).mapError _ = checked _ _
        rw [← checked_map (fun parts => own :: parts), ← ih]
        cases (follow provider first rest).1 <;> rfl
    · rw [if_neg hr, if_neg hr]
      rfl

/-- The rows after a run are left in the stream, and the first of them has been taken early. -/
theorem stream_follow {provider : String} {first : Row} {source : List Row}
    {parts : List (List Rdata)} (h : (follow provider first source).1 = .ok parts) :
    (follow provider first source).2 = .peeked (first.beyond source) := by
  induction source generalizing parts with
  | nil => rfl
  | cons r rest ih =>
    rw [follow] at h ⊢
    rw [Row.beyond_cons]
    by_cases hr : r.sameRun first = true
    · rw [if_pos hr] at h ⊢
      rw [if_pos hr]
      cases hf : first.joining provider r with
      | error fault =>
        rw [hf] at h
        cases h
      | ok own =>
        rw [hf] at h
        cases hs : (follow provider first rest).1 with
        | error fault =>
          simp only [hs] at h
          cases h
        | ok others => exact ih hs
    · rw [if_neg hr, if_neg hr]
      rfl

theorem gather_eq (provider : String) (first : Row) (source : List Row) :
    (gather provider first source).1.mapError (RunFault.error provider) =
      checked (first.problems provider ++
          (first.others source).flatMap (first.joinProblems provider))
        ((first :: first.others source).map (Row.data provider)) := by
  have hf := follow_eq provider first source
  have hc := Row.contribution_eq provider first
  rw [gather, checked_append, List.map_cons]
  cases h : first.contribution provider with
  | error fault =>
    rw [h] at hc
    cases hp : first.problems provider with
    | nil =>
      rw [hp] at hc
      cases hc
    | cons e es =>
      rw [hp] at hc
      exact congrArg Except.error (Except.error.inj hc)
  | ok own =>
    rw [h] at hc
    obtain ⟨hp, hd⟩ := checked_eq_ok.mp hc.symm
    rw [hp, hd]
    change ((follow provider first source).1.map _).mapError _ = checked _ _
    rw [← checked_map (fun parts => own :: parts), ← hf]
    cases (follow provider first source).1 <;> rfl

theorem stream_gather {provider : String} {first : Row} {source : List Row}
    {parts : List (List Rdata)} (h : (gather provider first source).1 = .ok parts) :
    (gather provider first source).2 = .peeked (first.beyond source) := by
  rw [gather] at h ⊢
  cases hc : first.contribution provider with
  | error fault =>
    rw [hc] at h
    cases h
  | ok own =>
    rw [hc] at h
    cases hf : (follow provider first source).1 with
    | error fault =>
      simp only [hf] at h
      cases h
    | ok others => exact stream_follow hf

/-- The rows of a run without problems answer all together or not at all. -/
theorem isEmpty_data {provider : String} {first : Row} {others : List Row}
    (hf : first.problems provider = []) (ho : others.flatMap (first.joinProblems provider) = []) :
    ((first :: others).flatMap (Row.data provider)).isEmpty = first.noResponse := by
  have hd := Row.isEmpty_data hf
  rw [List.flatMap_cons]
  cases hn : first.noResponse with
  | false =>
    rw [hn] at hd
    cases hx : first.data provider with
    | nil =>
      rw [hx] at hd
      cases hd
    | cons x xs => rfl
  | true =>
    rw [hn, List.isEmpty_iff] at hd
    rw [hd, List.nil_append, List.isEmpty_iff, List.flatMap_eq_nil_iff]
    intro r hr
    have hj := Row.noResponse_of_joinProblems (List.flatMap_eq_nil_iff.mp ho r hr)
    rw [Row.data, if_pos (hj.trans hn)]

/-- The draft of a run whose data fits its flag is refused for what its record set is. -/
theorem routed_draft {first : Row} {parts : List (List Rdata)}
    (he : parts.flatten.isEmpty = first.noResponse) (group : GroupRef) (codes : List String) :
    (draft first group codes parts).routed =
      checked (first.refusals group codes)
        ⟨⟨first.name, first.type, first.ttl, parts.flatten⟩,
          .single Route.geoKind (.geo ⟨group.name, codes, first.noResponse⟩)⟩ := by
  have hname : (draft first group codes parts).nameFlaw? =
      if first.name = "" then some .noName
      else if first.type = "" then some .noType
      else none := rfl
  have hroute : (draft first group codes parts).routeFlaw?
      ⟨group.name, codes, first.noResponse⟩ =
      if group.name = "" then some .noGroup
      else if first.noResponse = false ∧ codes = [] then some .noTerritory
      else none := by
    simp only [Draft.routeFlaw?, draft, he, ne_eq, not_true_eq_false, if_false]
  have hw : (draft first group codes parts).flaw? =
      if first.name = "" then some .noName
      else if first.type = "" then some .noType
      else if group.name = "" then some .noGroup
      else if first.noResponse = false ∧ codes = [] then some .noTerritory
      else none := by
    have hg : (draft first group codes parts).geo? =
        some ⟨group.name, codes, first.noResponse⟩ := rfl
    have hr : (draft first group codes parts).routes.isEmpty = false := rfl
    rw [Draft.flaw?, hname, hg, hr, if_neg Bool.false_ne_true, Option.bind_some, hroute]
    split_ifs <;> rfl
  rw [Draft.routed, hw, Row.refusals]
  split_ifs <;> rfl

variable {σ : Type}

section
variable {provider : String} {load : TerritorySource σ} {regions : Option RegionTable}
  {cache : TerritoryCache} {first : Row} {group : GroupRef} (hgroup : first.group? = some group)
  {source : List Row} {s : σ}
include hgroup

/-- A run whose group cannot be resolved ends with the error and takes no row. -/
theorem build_of_unresolved {e : GeoError}
    (h : ((cache.resolve load regions group.id).run s).answer.1 = .error e) :
    (build provider load regions cache first source).run s =
      let resolved := (cache.resolve load regions group.id).run s
      ⟨(.error e, resolved.answer.2, ⟨source, none⟩), resolved.state, resolved.log⟩ := by
  rw [build, hgroup]
  simp only [Act.run_bind]
  rcases hr : ((cache.resolve load regions group.id).run s).answer with ⟨answer, after⟩
  rw [hr] at h
  obtain rfl : answer = .error e := h
  simp

/-- Building a run leaves the cache and the source as the resolution of its group does. -/
theorem cache_state_build :
    let built := (build provider load regions cache first source).run s
    let resolved := (cache.resolve load regions group.id).run s
    built.answer.2.1 = resolved.answer.2 ∧ built.state = resolved.state := by
  rw [build, hgroup]
  simp only [Act.run_bind]
  rcases ((cache.resolve load regions group.id).run s).answer with ⟨e | codes, after⟩
  · exact ⟨rfl, rfl⟩
  · rcases gather provider first source with ⟨fault | parts, stream⟩
    · exact ⟨rfl, RunFault.state_report provider fault _⟩
    · exact ⟨rfl, rfl⟩

end

/-- A run is built as its item for the territories that its group is resolved to then. -/
theorem build_item (provider : String) (load : TerritorySource σ) (regions : Option RegionTable)
    (cache : TerritoryCache) (first : Row) (source : List Row) (s : σ) :
    ((build provider load regions cache first source).run s).answer.1 =
      item provider (fun id => ((cache.resolve load regions id).run s).answer.1) first
        (first.others source) := by
  rw [build, item]
  cases first.group? with
  | none =>
    simp only [Act.run_bind, Act.run_pure, RunFault.answer_report]
    rfl
  | some group =>
    simp only [Act.run_bind]
    rcases ((cache.resolve load regions group.id).run s).answer with ⟨e | codes, after⟩
    · rfl
    · have hg := gather_eq provider first source
      rcases hgather : gather provider first source with ⟨fault | parts, stream⟩
      · rw [hgather] at hg
        simp only [Act.run_bind, Act.run_pure, RunFault.answer_report]
        cases hp : first.problems provider ++
            (first.others source).flatMap (first.joinProblems provider) with
        | nil =>
          rw [hp] at hg
          cases hg
        | cons e es =>
          rw [hp] at hg
          exact congrArg Except.error (Except.error.inj hg)
      · rw [hgather] at hg
        obtain ⟨hp, hd⟩ := checked_eq_ok.mp hg.symm
        obtain ⟨hf, ho⟩ := List.append_eq_nil_iff.mp hp
        have hparts :
            (first :: first.others source).flatMap (Row.data provider) = parts.flatten := by
          rw [List.flatMap_def, hd]
        have he := isEmpty_data hf ho
        rw [hparts] at he
        change (draft first group codes parts).routed = checked (_ ++ _) _
        rw [hp, List.nil_append, hparts]
        exact routed_draft he group codes

/-- The rows after a run that can be built are left, the first of them taken early. -/
theorem stream_build {provider : String} {load : TerritorySource σ}
    {regions : Option RegionTable} {cache : TerritoryCache} {first : Row} {source : List Row}
    {s : σ} (h : ((build provider load regions cache first source).run s).answer.1.isOk = true) :
    ((build provider load regions cache first source).run s).answer.2.2 =
      .peeked (first.beyond source) := by
  rw [build] at h ⊢
  cases hgroup : first.group? with
  | none =>
    rw [hgroup] at h
    cases h
  | some group =>
    simp only [hgroup, Act.run_bind] at h ⊢
    rcases hanswer : ((cache.resolve load regions group.id).run s).answer with ⟨e | codes, after⟩
    · rw [hanswer] at h
      cases h
    · rw [hanswer] at h
      rcases hgather : gather provider first source with ⟨fault | parts, stream⟩
      · simp only [hgather] at h
        cases h
      · have hl := stream_gather (congrArg Prod.fst hgather)
        rw [hgather] at hl
        exact hl

/-- A run is built as its item, whatever the cache already holds. When the item is a record set
the rows after the run are left. -/
theorem build_steady {load : TerritorySource σ} {data : String → Except GeoError (List String)}
    {s : σ} (hs : load.Steady data s) {regions : Option RegionTable} {cache : TerritoryCache}
    (hc : cache.Holds (TerritoryCache.resolved regions data)) (provider : String) (first : Row)
    (source : List Row) :
    let out := (build provider load regions cache first source).run s
    load.Reaches s out.state ∧
      out.answer.2.1.Holds (TerritoryCache.resolved regions data) ∧
      out.answer.1 =
        item provider (TerritoryCache.resolved regions data) first (first.others source) ∧
      (out.answer.1.isOk = true → out.answer.2.2.toList = first.beyond source) := by
  intro out
  have hkept : load.Reaches s out.state ∧
      out.answer.2.1.Holds (TerritoryCache.resolved regions data) := by
    change load.Reaches s ((build provider load regions cache first source).run s).state ∧
      ((build provider load regions cache first source).run s).answer.2.1.Holds _
    cases hgroup : first.group? with
    | none =>
      rw [build, hgroup]
      simp only [Act.run_bind, Act.run_pure, RunFault.state_report]
      exact ⟨Source.reaches_refl s, hc⟩
    | some group =>
      obtain ⟨hreach, hafter, -⟩ := TerritoryCache.resolve_steady hs hc group.id
      obtain ⟨hcache, hstate⟩ := cache_state_build hgroup
      rw [hcache, hstate]
      exact ⟨hreach, hafter⟩
  refine ⟨hkept.1, hkept.2, ?_, ?_⟩
  · change ((build provider load regions cache first source).run s).answer.1 = _
    rw [build_item]
    apply item_congr
    intro group _
    exact (TerritoryCache.resolve_steady hs hc group.id).2.2
  · intro hok
    change ((build provider load regions cache first source).run s).answer.2.2.toList = _
    rw [stream_build hok, RowStream.toList_peeked]

end Run

end GeoRouting
