import GeoRouting.Proofs.Reader.Ending
import GeoRouting.Proofs.Watching

/-!
# Rows without a group

A row without a group is in no run, so the run before it ends as if the rows ended there. When its
turn comes there is an error and one log line, and the listing is over. What comes after the row has
no part in it, and of the row itself only what the line says of it.
-/

namespace GeoRouting

theorem Row.sameRun_of_ungrouped {row : Row} (hrow : row.group? = none) (first : Row) :
    row.sameRun first = false := by
  simp [sameRun, groupName?, hrow]

namespace Run
variable {row : Row} (hrow : row.group? = none) (provider : String) (first : Row)
  (before after : List Row)
include hrow

/-- A run does not go on with a row without a group, nor does it look behind it. -/
theorem follow_ungrouped :
    ∃ rows : RowStream,
      rows.toList = (follow provider first before).2.toList ++ row :: after ∧
      follow provider first (before ++ row :: after) = ((follow provider first before).1, rows) := by
  induction before with
  | nil =>
    refine ⟨⟨after, some row⟩, rfl, ?_⟩
    simp [follow, Row.sameRun_of_ungrouped hrow first]
  | cons r before ih =>
    rw [List.cons_append, follow, follow]
    by_cases hr : r.sameRun first = true
    · rw [if_pos hr, if_pos hr]
      cases first.joining provider r with
      | error fault => exact ⟨⟨before ++ row :: after, none⟩, rfl, rfl⟩
      | ok own =>
        obtain ⟨rows, hrows, hfollow⟩ := ih
        exact ⟨rows, hrows, by rw [hfollow]⟩
    · rw [if_neg hr, if_neg hr]
      exact ⟨⟨before ++ row :: after, some r⟩, rfl, rfl⟩

theorem gather_ungrouped :
    ∃ rows : RowStream,
      rows.toList = (gather provider first before).2.toList ++ row :: after ∧
      gather provider first (before ++ row :: after) = ((gather provider first before).1, rows) := by
  rw [gather, gather]
  cases first.contribution provider with
  | error fault => exact ⟨⟨before ++ row :: after, none⟩, rfl, rfl⟩
  | ok own =>
    obtain ⟨rows, hrows, hfollow⟩ := follow_ungrouped hrow provider first before after
    exact ⟨rows, hrows, by rw [hfollow]⟩

variable {σ : Type} (load : TerritorySource σ) (regions : Option RegionTable)
  (cache : TerritoryCache) (s : σ)

theorem build_ungrouped :
    let alone := (build provider load regions cache first before).run s
    ∃ rows : RowStream, rows.toList = alone.answer.2.2.toList ++ row :: after ∧
      (build provider load regions cache first (before ++ row :: after)).run s =
        ⟨(alone.answer.1, alone.answer.2.1, rows), alone.state, alone.log⟩ := by
  intro alone
  obtain ⟨rows, hrows, hgather⟩ := gather_ungrouped hrow provider first before after
  simp only [alone, build]
  cases first.group? with
  | none => exact ⟨⟨before ++ row :: after, none⟩, rfl, rfl⟩
  | some group =>
    simp only [Act.run_bind]
    rcases ((cache.resolve load regions group.id).run s).answer with ⟨e | codes, known⟩
    · exact ⟨⟨before ++ row :: after, none⟩, rfl, rfl⟩
    · rw [hgather]
      rcases hg : gather provider first before with ⟨fault | parts, stream⟩
      · rw [hg] at hrows
        exact ⟨rows, hrows, rfl⟩
      · rw [hg] at hrows
        exact ⟨rows, hrows, rfl⟩

/-- Its own run cannot be built. -/
theorem build_of_ungrouped (source : List Row) :
    let detail := (Violation.ungrouped row.name row.type row.values).detail
    (build provider load regions cache row source).run s =
      ⟨(.error (.contractViolation provider detail), cache, ⟨source, none⟩), s,
        [⟨.error, s!"[{provider}] {detail}"⟩]⟩ := by
  rw [build, hrow]
  rfl

end Run

namespace Grouping
variable {σ : Type} {load : TerritorySource σ} {cache : TerritoryCache} {s : σ}
  {provider : String} {regions : Option RegionTable} {rows : RowStream}

/-! ## Drains, run by run -/

/-- A grouping that has not failed. -/
def going (provider : String) (regions : Option RegionTable) (rows : RowStream) : Grouping :=
  { provider, regions, rows }

theorem drain_of_nil (h : rows.toList = []) :
    ((going provider regions rows).drain load cache).run s = ⟨[], s, []⟩ := by
  rw [run_drain, next_of_over (.inr h)]

section
variable {first : Row} {source : List Row} {after : TerritoryCache} {left : RowStream} {t : σ}
  {log : List LogLine} (hrows : rows.toList = first :: source)
include hrows

theorem drain_of_error {e : GeoError}
    (h : (Run.build provider load regions cache first source).run s =
      ⟨(.error e, after, left), t, log⟩) :
    ((going provider regions rows).drain load cache).run s = ⟨[.error e], t, log⟩ := by
  rw [run_drain, run_next_of_cons (g := going provider regions rows) rfl hrows]
  simp only [going, h]

theorem drain_of_ok {r : RoutedRecordSet}
    (h : (Run.build provider load regions cache first source).run s =
      ⟨(.ok r, after, left), t, log⟩) :
    ((going provider regions rows).drain load cache).run s =
      let rest := ((going provider regions left).drain load after).run t
      ⟨.ok r :: rest.answer, rest.state, log ++ rest.log⟩ := by
  rw [run_drain, run_next_of_cons (g := going provider regions rows) rfl hrows]
  simp only [going, h]
  rfl

end

/-! ## Drains that a row stops -/

/-- What a drain comes to when an error with a text, which is logged as well, stops it in the end,
unless an error has stopped it before. -/
def stopped (provider detail : String) (alone : Outcome σ (List Item)) : Outcome σ (List Item) :=
  if alone.answer.all Except.isOk then
    ⟨alone.answer ++ [.error (.contractViolation provider detail)], alone.state,
      alone.log ++ [⟨.error, s!"[{provider}] {detail}"⟩]⟩
  else alone

theorem stopped_cons (provider detail : String) (r : RoutedRecordSet) (log : List LogLine)
    (rest : Outcome σ (List Item)) :
    stopped provider detail ⟨.ok r :: rest.answer, rest.state, log ++ rest.log⟩ =
      ⟨.ok r :: (stopped provider detail rest).answer, (stopped provider detail rest).state,
        log ++ (stopped provider detail rest).log⟩ := by
  have hall : (Except.ok r :: rest.answer : List Item).all Except.isOk =
      rest.answer.all Except.isOk := rfl
  rw [stopped, stopped, hall]
  split
  · simp
  · rfl

section
variable {row : Row} (hrow : row.group? = none)
include hrow

/-- A pull of the row gives an error and logs a line. -/
theorem next_of_ungrouped {g : Grouping} {source : List Row} (hf : g.failed = false)
    (hrows : g.rows.toList = row :: source) :
    let detail := (Violation.ungrouped row.name row.type row.values).detail
    let out := (g.next load cache).run s
    out.answer.1 = some (.error (.contractViolation g.provider detail)) ∧ out.state = s ∧
      out.log = [⟨.error, s!"[{g.provider}] {detail}"⟩] := by
  intro detail out
  have hout : out = _ := run_next_of_cons hf hrows
  rw [hout, Run.build_of_ungrouped hrow]
  exact ⟨rfl, rfl, rfl⟩

/-- A drain of rows among which the row is comes to a drain of the rows before it, stopped. -/
theorem drain_ungrouped {longer : RowStream} {after : List Row}
    (hlonger : longer.toList = rows.toList ++ row :: after) :
    ((going provider regions longer).drain load cache).run s =
      stopped provider (Violation.ungrouped row.name row.type row.values).detail
        (((going provider regions rows).drain load cache).run s) := by
  induction hsize : rows.size using Nat.strong_induction_on generalizing rows longer cache s with
  | _ size ih =>
  cases hrows : rows.toList with
  | nil =>
    rw [hrows, List.nil_append] at hlonger
    rw [drain_of_nil hrows,
      drain_of_error hlonger (Run.build_of_ungrouped hrow provider load regions cache s after)]
    rfl
  | cons first before =>
    rw [hrows, List.cons_append] at hlonger
    obtain ⟨left, hleft, hbuild⟩ :=
      Run.build_ungrouped hrow provider first before after load regions cache s
    have hsmaller := Run.build_size provider load regions cache first before s
    rcases hout : (Run.build provider load regions cache first before).run s with
      ⟨⟨item, known, rest⟩, t, log⟩
    rw [hout] at hleft hbuild hsmaller
    cases item with
    | error e =>
      rw [drain_of_error hlonger hbuild, drain_of_error hrows hout]
      rfl
    | ok r =>
      have hlength : rows.size = before.length + 1 := by
        rw [RowStream.size, hrows, List.length_cons]
      have hrest : rest.size < size := by
        rw [← hsize, hlength]
        exact Nat.lt_succ_of_le hsmaller
      rw [drain_of_ok hlonger hbuild, drain_of_ok hrows hout, stopped_cons,
        ih rest.size hrest hleft rfl]

end

/-- Whether groupings stop at a row with an error of some text, pulled as well as drained. -/
structure StopsAt (provider : String) (row : Row) (detail : String) : Prop where
  pulled : ∀ {σ : Type} (load : TerritorySource σ) (cache : TerritoryCache) (g : Grouping)
    (source : List Row) (s : σ), g.provider = provider → g.failed = false →
    g.rows.toList = row :: source →
    let out := (g.next load cache).run s
    out.answer.1 = some (.error (.contractViolation provider detail)) ∧ out.state = s ∧
      out.log = [⟨.error, s!"[{provider}] {detail}"⟩]
  drained : ∀ {σ : Type} (load : TerritorySource σ) (cache : TerritoryCache)
    (regions : Option RegionTable) (before after : List Row) (s : σ),
    ((ofRows provider regions (before ++ row :: after)).drain load cache).run s =
      stopped provider detail (((ofRows provider regions before).drain load cache).run s)

theorem stopsAt_of_ungrouped {row : Row} (hrow : row.group? = none) (provider : String) :
    StopsAt provider row (Violation.ungrouped row.name row.type row.values).detail where
  pulled := by
    rintro σ load cache g source s rfl hf hrows
    exact next_of_ungrouped hrow hf hrows
  drained load cache regions before after s := by
    have hlonger : (⟨before ++ row :: after, none⟩ : RowStream).toList =
        (⟨before, none⟩ : RowStream).toList ++ row :: after := rfl
    exact drain_ungrouped hrow hlonger

end Grouping

end GeoRouting
