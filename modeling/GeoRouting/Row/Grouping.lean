import GeoRouting.Record.Draft
import GeoRouting.Row.Basic
import GeoRouting.Territory.Resolver

/-!
# Grouping rows into record sets

Rows are taken from their source one at a time. The rows of a run become one routed record
set: name, type and time to live of its first row, the data of all of them, and the
territories of the group of the first row. To see where a run ends one row of the next is
taken early and kept. A run that cannot be built gives an error, and then grouping is over.
-/

namespace GeoRouting

/-- What a listing gives: a record set, or the error that ends it. -/
abbrev Item : Type := Except GeoError RoutedRecordSet

/-- What rows cannot be like. -/
inductive Violation where
  /-- A row without a group. -/
  | ungrouped (name type : String) (values : List String)
  /-- An answer without data. -/
  | noAnswer (name type group : String)
  /-- A run in which some rows answer and others do not. -/
  | mixed (name type group : String)
deriving DecidableEq, Repr

def Violation.detail : Violation → String
  | .ungrouped name type values =>
    "expected record to be in a geolocation group: " ++ name ++ " " ++ type ++ " " ++
      Text.excerpt (" ".intercalate values)
  | .noAnswer name type group =>
    s!"{name} {type} in group {group} has neither rdata nor the no-response flag"
  | .mixed name type group => s!"{name} {type} group {group} mixes no-response and answer rows"

/-- Why a run has no data. -/
inductive RunFault where
  | violation (v : Violation)
  | rdata (e : GeoError)
deriving DecidableEq, Repr

/-- The error to answer with. A violation is logged as well. -/
def RunFault.report {σ : Type} (provider : String) : RunFault → Act σ GeoError
  | .violation v => do
    Act.say .error s!"[{provider}] {v.detail}"
    return .contractViolation provider v.detail
  | .rdata e => return e

namespace Row

/-- The data that a row adds to its run: none when it does not answer. -/
def contribution (provider : String) (r : Row) : Except RunFault (List Rdata) :=
  if r.noResponse then .ok []
  else if r.values = [] then
    .error (.violation (.noAnswer r.name r.type (r.groupName?.getD "?")))
  else
    match Rdata.convert provider r.type r.values with
    | .ok rdata => .ok [rdata]
    | .error e => .error (.rdata e)

/-- The data that a further row `r` adds to the run that `first` starts. -/
def joining (first : Row) (provider : String) (r : Row) : Except RunFault (List Rdata) :=
  if r.noResponse ≠ first.noResponse then
    .error (.violation (.mixed first.name first.type (first.groupName?.getD "?")))
  else r.contribution provider

end Row

/-- Rows still in their source, and the one row taken early. -/
structure RowStream where
  source : List Row
  lookahead : Option Row := none
deriving DecidableEq, Repr

namespace RowStream

/-- The next row and the source after it. -/
def next? : RowStream → Option (Row × List Row)
  | ⟨source, some r⟩ => some (r, source)
  | ⟨r :: source, none⟩ => some (r, source)
  | ⟨[], none⟩ => none

/-- The rows not yet used, in order. -/
def toList (rows : RowStream) : List Row := rows.lookahead.toList ++ rows.source

def size (rows : RowStream) : Nat := rows.toList.length

theorem next?_eq_none {rows : RowStream} : rows.next? = none ↔ rows.toList = [] := by
  rcases rows with ⟨_ | _, _ | _⟩ <;> simp [next?, toList]

theorem next?_eq_some {rows : RowStream} {r : Row} {source : List Row} :
    rows.next? = some (r, source) ↔ rows.toList = r :: source := by
  rcases rows with ⟨_ | _, _ | _⟩ <;> simp [next?, toList]

end RowStream

namespace Run

/-- What the rows after the first add to a run, row by row, and the stream after the run. -/
def follow (provider : String) (first : Row) :
    List Row → Except RunFault (List (List Rdata)) × RowStream
  | [] => (.ok [], ⟨[], none⟩)
  | r :: rest =>
    if r.sameRun first then
      match first.joining provider r with
      | .error fault => (.error fault, ⟨rest, none⟩)
      | .ok own =>
        let (others, stream) := follow provider first rest
        (others.map (own :: ·), stream)
    else (.ok [], ⟨rest, some r⟩)

/-- What all rows of a run add to it, row by row, and the stream after the run. -/
def gather (provider : String) (first : Row) (source : List Row) :
    Except RunFault (List (List Rdata)) × RowStream :=
  match first.contribution provider with
  | .error fault => (.error fault, ⟨source, none⟩)
  | .ok own =>
    let (others, stream) := follow provider first source
    (others.map (own :: ·), stream)

theorem follow_size (provider : String) (first : Row) (source : List Row) :
    (follow provider first source).2.size ≤ source.length := by
  induction source with
  | nil => simp [follow, RowStream.size, RowStream.toList]
  | cons r rest ih =>
    simp only [follow]
    split
    · split
      · simp [RowStream.size, RowStream.toList]
      · exact Nat.le_succ_of_le ih
    · simp [RowStream.size, RowStream.toList]

theorem gather_size (provider : String) (first : Row) (source : List Row) :
    (gather provider first source).2.size ≤ source.length := by
  simp only [gather]
  split
  · simp [RowStream.size, RowStream.toList]
  · exact follow_size provider first source

/-- The draft of a run from its first row, its group and what its rows add. -/
def draft (first : Row) (group : GroupRef) (territories : List String)
    (parts : List (List Rdata)) : Draft where
  name := first.name
  type := first.type
  ttl := first.ttl
  rdata := parts.flatten
  routes := .single Route.geoKind (.geo ⟨group.name, territories, first.noResponse⟩)

variable {σ : Type}

/-- Builds the record set of the run that `first` starts. The group comes first, then its
territories, then the data row by row, then the checks of a draft. -/
def build (provider : String) (load : TerritorySource σ) (regions : Option RegionTable)
    (cache : TerritoryCache) (first : Row) (source : List Row) :
    Act σ (Item × TerritoryCache × RowStream) := do
  match first.group? with
  | none =>
    let e ← RunFault.report provider (.violation (.ungrouped first.name first.type first.values))
    return (.error e, cache, ⟨source, none⟩)
  | some group =>
    match ← cache.resolve load regions group.id with
    | (.error e, cache) => return (.error e, cache, ⟨source, none⟩)
    | (.ok territories, cache) =>
      match gather provider first source with
      | (.error fault, stream) => return (.error (← fault.report provider), cache, stream)
      | (.ok parts, stream) =>
        Act.say .trace <| s!"[{provider}] grouped {parts.length} rows into {first.name} " ++
          s!"{first.type} group {group.name}"
        return ((draft first group territories parts).routed, cache, stream)

theorem build_size (provider : String) (load : TerritorySource σ) (regions : Option RegionTable)
    (cache : TerritoryCache) (first : Row) (source : List Row) (s : σ) :
    ((build provider load regions cache first source).run s).answer.2.2.size ≤ source.length := by
  have h := gather_size provider first source
  unfold build
  split
  · simp [RowStream.size, RowStream.toList]
  · simp only [Act.run_bind]
    split
    · simp [RowStream.size, RowStream.toList]
    · split <;> simp_all

end Run

/-- Grouping in progress. -/
structure Grouping where
  provider : String
  regions : Option RegionTable
  rows : RowStream
  /-- An error was given. -/
  failed : Bool := false
deriving DecidableEq, Repr

namespace Grouping
variable {σ : Type}

def ofRows (provider : String) (regions : Option RegionTable) (rows : List Row) : Grouping :=
  { provider, regions, rows := ⟨rows, none⟩ }

/-- The next record set, or an error after which there is nothing more. -/
def next (load : TerritorySource σ) (cache : TerritoryCache) (g : Grouping) :
    Act σ (Option Item × TerritoryCache × Grouping) := do
  if g.failed then return (none, cache, g)
  match g.rows.next? with
  | none => return (none, cache, g)
  | some (first, source) =>
    let (item, cache, rows) ← Run.build g.provider load g.regions cache first source
    return (some item, cache, { g with rows, failed := !item.isOk })

theorem next_size {load : TerritorySource σ} {cache : TerritoryCache} {g : Grouping} {s : σ}
    (h : ((g.next load cache).run s).answer.1.isSome) :
    ((g.next load cache).run s).answer.2.2.rows.size < g.rows.size := by
  unfold next at h ⊢
  cases hf : g.failed
  · cases hr : g.rows.next? with
    | none => simp [hf, hr] at h
    | some p =>
      have hb := Run.build_size g.provider load g.regions cache p.1 p.2 s
      have hl : g.rows.size = p.2.length + 1 := by
        simp [RowStream.size, RowStream.next?_eq_some.1 hr]
      rw [hl]
      exact Nat.lt_succ_of_le (by simpa [hf, hr] using hb)
  · simp [hf] at h

/-- All record sets up to the end or the first error. -/
def drain (load : TerritorySource σ) (cache : TerritoryCache) (g : Grouping) :
    Act σ (List Item) := ⟨fun s =>
  match _h : (g.next load cache).run s with
  | ⟨(none, _), s, log⟩ => ⟨[], s, log⟩
  | ⟨(some (.error e), _), s, log⟩ => ⟨[.error e], s, log⟩
  | ⟨(some (.ok r), cache, g'), s, log⟩ =>
    let rest := (drain load cache g').run s
    ⟨.ok r :: rest.answer, rest.state, log ++ rest.log⟩⟩
termination_by g.rows.size
decreasing_by
  have := @next_size σ load _ g _ (by rw [_h]; rfl)
  rwa [_h] at this

end Grouping

end GeoRouting
