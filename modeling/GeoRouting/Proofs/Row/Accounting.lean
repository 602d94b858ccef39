import GeoRouting.Proofs.Row.Drain
import Mathlib.Data.List.Forall2

/-!
# What record sets account for

When every run of some rows can be built, the record sets account for the rows. Each row is in
one record set, which has its type, time to live, group and flag, and its name up to the case of
letters. The data of the record sets, one after another, is the data of the rows that answer, in
the order of the rows.
-/

namespace GeoRouting

namespace Row

theorem fields_of_agrees {r s : Row} (h : r.agrees s = true) :
    r.type = s.type ∧ r.ttl = s.ttl ∧ Text.lower r.name = Text.lower s.name ∧
      r.groupName? = s.groupName? := by
  obtain ⟨k, hr, hs⟩ := agrees_iff.mp h
  obtain ⟨g, hrg, rfl⟩ := Option.map_eq_some_iff.mp hr
  obtain ⟨g', hsg, hk⟩ := Option.map_eq_some_iff.mp hs
  obtain ⟨ht, hl, hn, hg⟩ := RunKey.mk.inj hk
  exact ⟨ht.symm, hl.symm, String.toList_inj.mp hn.symm, by rw [hrg, hsg, hg]⟩

/-- All rows of a run agree with its first row. -/
theorem agrees_of_mem_runs {rows others : List Row} {first : Row}
    (h : first :: others ∈ runs rows) {r : Row} (hr : r ∈ others) : first.agrees r = true := by
  have : IsTrans Row fun r s => r.agrees s = true := ⟨fun _ _ _ => agrees_trans⟩
  have hchain := List.isChain_of_mem_splitBy h
  exact (List.pairwise_cons.mp hchain.pairwise).1 r hr

end Row

namespace Run
variable {provider : String} {territories : String → Except GeoError (List String)}

/-- Whether rows that agree are emitted as an item. -/
def Emits (provider : String) (territories : String → Except GeoError (List String))
    (run : List Row) (x : Item) : Prop :=
  ∃ first others, run = first :: others ∧ (∀ row ∈ others, first.agrees row = true) ∧
    item provider territories first others = x

/-- Whether rows that agree are emitted as a record set. -/
def Makes (provider : String) (territories : String → Except GeoError (List String))
    (run : List Row) (r : RoutedRecordSet) : Prop :=
  Emits provider territories run (.ok r)

theorem emits_unique : Relator.RightUnique (Emits provider territories) := by
  rintro run x y ⟨first, others, rfl, -, rfl⟩ ⟨first', others', hrun, -, rfl⟩
  obtain ⟨rfl, rfl⟩ := List.cons.inj hrun
  rfl

/-- Each run is emitted as the item at its place. -/
theorem emits_runs (rows : List Row) :
    List.Forall₂ (Emits provider territories) (Row.runs rows)
      (items provider territories rows) := by
  have hne : [] ∉ Row.runs rows := List.nil_notMem_splitBy Row.agrees rows
  have hagree : ∀ first others, first :: others ∈ Row.runs rows →
      ∀ row ∈ others, first.agrees row = true := fun _ _ h _ => Row.agrees_of_mem_runs h
  unfold items
  generalize Row.runs rows = runs at hne hagree
  induction runs with
  | nil => exact List.Forall₂.nil
  | cons run runs ih =>
    rw [List.mem_cons, not_or] at hne
    cases run with
    | nil => exact absurd rfl hne.1
    | cons first others =>
      have hfirst : Emits provider territories (first :: others)
          (item provider territories first others) :=
        ⟨first, others, rfl, hagree first others List.mem_cons_self, rfl⟩
      exact .cons hfirst (ih hne.2 fun f o ho => hagree f o (List.mem_cons_of_mem _ ho))

/-- Items without an error are the record sets of the runs, one each. -/
theorem items_eq_map_ok {rows : List Row} {sets : List RoutedRecordSet} :
    items provider territories rows = sets.map .ok ↔
      List.Forall₂ (Makes provider territories) (Row.runs rows) sets := by
  have hmakes : List.Forall₂ (Makes provider territories) (Row.runs rows) sets ↔
      List.Forall₂ (Emits provider territories) (Row.runs rows) (sets.map .ok) :=
    (List.forall₂_map_right_iff (R := Emits provider territories) (f := Except.ok)).symm
  rw [hmakes]
  constructor
  · intro h
    exact h ▸ emits_runs rows
  · exact List.right_unique_forall₂' emits_unique (emits_runs rows)

/-- A record set that is given is made of the run at its place, whatever comes later. -/
theorem exists_run_of_item {rows : List Row} {i : Nat} {r : RoutedRecordSet}
    (h : (Item.upToError (items provider territories rows))[i]? = some (.ok r)) :
    ∃ run, (Row.runs rows)[i]? = some run ∧ Makes provider territories run r := by
  obtain ⟨rest, hrest⟩ := Item.upToError_prefix (items provider territories rows)
  have hitem : (items provider territories rows)[i]? = some (.ok r) := by
    rw [← hrest, List.getElem?_append_left (List.getElem?_eq_some_iff.mp h).1]
    exact h
  obtain ⟨hi, hr⟩ := List.getElem?_eq_some_iff.mp hitem
  have hruns : List.Forall₂ (Emits provider territories) (Row.runs rows)
      (items provider territories rows) := emits_runs rows
  obtain ⟨hlength, hemits⟩ := List.forall₂_iff_get.mp hruns
  have hi' : i < (Row.runs rows).length := hlength ▸ hi
  refine ⟨(Row.runs rows)[i], List.getElem?_eq_getElem hi', ?_⟩
  have hrun := hemits i hi' hi
  rw [List.get_eq_getElem, List.get_eq_getElem, hr] at hrun
  exact hrun

end Run

/-! ## Rows in record sets -/

/-- Whether a row fits into a record set. -/
structure RoutedRecordSet.Covers (r : RoutedRecordSet) (row : Row) : Prop where
  type : r.type = row.type
  ttl : r.records.ttl = row.ttl
  name : Text.lower r.name = Text.lower row.name
  group : r.geo?.map GeoRoute.group = row.groupName?
  noResponse : r.geo?.map GeoRoute.noResponse = some row.noResponse
  /-- A record set has data exactly when its rows answer. -/
  silent : r.records.rdata.isEmpty = row.noResponse

section
variable {provider : String} {territories : String → Except GeoError (List String)}

theorem Run.Makes.covers {run : List Row} {r : RoutedRecordSet}
    (h : Run.Makes provider territories run r) {row : Row} (hr : row ∈ run) : r.Covers row := by
  obtain ⟨first, others, rfl, ho, hi⟩ := h
  obtain ⟨g, codes, hg, -, hfirst, hjoin, -, rfl⟩ := Run.item_eq_ok.mp hi
  have hname : first.groupName? = some g.name := by rw [Row.groupName?, hg]; rfl
  have hcovers : RoutedRecordSet.Covers
      ⟨⟨first.name, first.type, first.ttl, (first :: others).flatMap (Row.data provider)⟩,
        .single Route.geoKind (.geo ⟨g.name, codes, first.noResponse⟩)⟩ first :=
    ⟨rfl, rfl, rfl, hname.symm, rfl, Run.isEmpty_data hfirst hjoin⟩
  rcases List.mem_cons.mp hr with rfl | hr
  · exact hcovers
  · obtain ⟨ht, hl, hn, hgroup⟩ := Row.fields_of_agrees (ho row hr)
    have hflag := Row.noResponse_of_joinProblems (List.flatMap_eq_nil_iff.mp hjoin row hr)
    exact ⟨ht, hl, hn, hcovers.group.trans hgroup, hflag ▸ hcovers.noResponse,
      hflag ▸ hcovers.silent⟩

/-- Each row is in a record set, and no record set is without a row. -/
theorem Run.covers_of_items {rows : List Row} {sets : List RoutedRecordSet}
    (h : Run.items provider territories rows = sets.map .ok) :
    (∀ row ∈ rows, ∃ r ∈ sets, r.Covers row) ∧ ∀ r ∈ sets, ∃ row ∈ rows, r.Covers row := by
  have hruns := Run.items_eq_map_ok.mp h
  have hrows : (Row.runs rows).flatten = rows := List.flatten_splitBy Row.agrees rows
  generalize Row.runs rows = runs at hruns hrows
  subst hrows
  clear h
  induction hruns with
  | nil => simp
  | @cons run r runs sets hmakes _ ih =>
    simp only [List.flatten_cons, List.mem_append, List.forall_mem_cons]
    refine ⟨?_, ?_, ?_⟩
    · rintro row (hrow | hrow)
      · exact ⟨r, List.mem_cons_self, hmakes.covers hrow⟩
      · obtain ⟨t, ht, hcovers⟩ := ih.1 row hrow
        exact ⟨t, List.mem_cons_of_mem r ht, hcovers⟩
    · obtain ⟨first, others, rfl, -, -⟩ := id hmakes
      exact ⟨first, Or.inl List.mem_cons_self, hmakes.covers List.mem_cons_self⟩
    · intro t ht
      obtain ⟨row, hrow, hcovers⟩ := ih.2 t ht
      exact ⟨row, Or.inr hrow, hcovers⟩

/-- A record set that is given is made of one run of rows. -/
theorem Run.exists_makes_of_mem {rows : List Row} {r : RoutedRecordSet}
    (h : .ok r ∈ Item.upToError (items provider territories rows)) :
    ∃ run, (∀ row ∈ run, row ∈ rows) ∧ Makes provider territories run r := by
  obtain ⟨i, hi⟩ := List.mem_iff_getElem?.mp h
  obtain ⟨run, hrun, hmakes⟩ := exists_run_of_item hi
  exact ⟨run, fun _ => Row.mem_of_mem_runs (List.mem_of_getElem? hrun), hmakes⟩

/-- A record set that is given is made of rows that fit into it. -/
theorem Run.exists_covers_of_mem {rows : List Row} {r : RoutedRecordSet}
    (h : .ok r ∈ Item.upToError (items provider territories rows)) :
    ∃ row ∈ rows, r.Covers row := by
  obtain ⟨run, hrun, hmakes⟩ := exists_makes_of_mem h
  obtain ⟨first, others, rfl, -, -⟩ := id hmakes
  exact ⟨first, hrun first List.mem_cons_self, hmakes.covers List.mem_cons_self⟩

end

/-! ## Data of rows and of record sets -/

/-- The data of one answer and what it is answered under. -/
structure Answer where
  type : String
  ttl : Option UInt32
  group : Option String
  rdata : Rdata
deriving DecidableEq, Repr

def RoutedRecordSet.answers (r : RoutedRecordSet) : List Answer :=
  r.records.rdata.map fun d => ⟨r.type, r.records.ttl, r.geo?.map GeoRoute.group, d⟩

namespace Row

def answers (r : Row) : Bool := !r.noResponse

/-- The answer that a row stands for, if its values can be converted. -/
def answer? (provider : String) (r : Row) : Option Answer :=
  (Rdata.convert provider r.type r.values).toOption.map fun d =>
    ⟨r.type, r.ttl, r.groupName?, d⟩

/-- A row without problems has the data that its values are converted to, unless it answers
nothing. -/
theorem map_ok_data {provider : String} {r : Row} (h : r.problems provider = []) :
    (r.data provider).map .ok =
      if r.answers then [Rdata.convert provider r.type r.values] else [] := by
  unfold problems at h
  unfold data answers
  cases hn : r.noResponse with
  | true => rfl
  | false =>
    simp only [hn, Bool.false_eq_true, if_false] at h ⊢
    split at h
    · cases h
    · split at h
      · rename_i hc
        rw [hc]
        rfl
      · cases h

theorem map_data {provider : String} {r : Row} (h : r.problems provider = []) :
    ((r.data provider).map fun d => some (⟨r.type, r.ttl, r.groupName?, d⟩ : Answer)) =
      if r.answers then [r.answer? provider] else [] := by
  have hlabel := congrArg (List.map fun d : Except GeoError Rdata =>
    d.toOption.map fun d => (⟨r.type, r.ttl, r.groupName?, d⟩ : Answer)) (map_ok_data h)
  rw [List.map_map] at hlabel
  refine hlabel.trans ?_
  split <;> rfl

end Row

section
variable {provider : String} {territories : String → Except GeoError (List String)}

/-- A record set has the data of its rows, and none of them has a problem. -/
theorem Run.Makes.rdata {run : List Row} {r : RoutedRecordSet}
    (h : Run.Makes provider territories run r) :
    r.records.rdata = run.flatMap (Row.data provider) ∧
      ∀ row ∈ run, row.problems provider = [] := by
  obtain ⟨first, others, rfl, -, hi⟩ := h
  obtain ⟨g, codes, -, -, hfirst, hjoin, -, hr⟩ := Run.item_eq_ok.mp hi
  refine ⟨by rw [hr], ?_⟩
  intro row hrow
  rcases List.mem_cons.mp hrow with rfl | hrow
  · exact hfirst
  · exact (List.append_eq_nil_iff.mp (List.flatMap_eq_nil_iff.mp hjoin row hrow)).2

theorem Run.Makes.answers {run : List Row} {r : RoutedRecordSet}
    (h : Run.Makes provider territories run r) :
    r.answers.map some = (run.filter Row.answers).map (Row.answer? provider) := by
  have hcovers := fun row (hrow : row ∈ run) => h.covers hrow
  obtain ⟨hdata, hproblems⟩ := h.rdata
  rw [RoutedRecordSet.answers, hdata, List.map_map]
  clear h hdata
  induction run with
  | nil => rfl
  | cons row run ih =>
    obtain ⟨ht, hl, -, hg, -, -⟩ := hcovers row List.mem_cons_self
    have hrow := Row.map_data (hproblems row List.mem_cons_self)
    rw [← ht, ← hl, ← hg] at hrow
    have hrest := ih (fun x hx => hcovers x (List.mem_cons_of_mem row hx))
      fun x hx => hproblems x (List.mem_cons_of_mem row hx)
    rw [List.flatMap_cons, List.map_append, hrest, List.filter_cons]
    refine (congrArg (· ++ _) hrow).trans ?_
    split
    · rfl
    · rfl

/-- The record sets have the data of the rows that answer, in the order of the rows. -/
theorem Run.answers_of_items {rows : List Row} {sets : List RoutedRecordSet}
    (h : Run.items provider territories rows = sets.map .ok) :
    (sets.flatMap RoutedRecordSet.answers).map some =
      (rows.filter Row.answers).map (Row.answer? provider) := by
  have hruns := Run.items_eq_map_ok.mp h
  have hrows : (Row.runs rows).flatten = rows := List.flatten_splitBy Row.agrees rows
  generalize Row.runs rows = runs at hruns hrows
  subst hrows
  clear h
  induction hruns with
  | nil => rfl
  | cons hmakes _ ih =>
    rw [List.flatMap_cons, List.map_append, List.flatten_cons, List.filter_append,
      List.map_append, hmakes.answers, ih]

end

end GeoRouting
