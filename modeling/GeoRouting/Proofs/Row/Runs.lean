import GeoRouting.Row.Grouping
import Mathlib.Data.List.SplitBy

/-!
# Cutting rows into runs

Rows that have a group are in one run when they are next to each other and agree in type, time
to live, group name and, up to the case of letters, in name. A row without a group is a run of
its own. The cut compares neighbours. Grouping compares every row with the first one of its run,
which comes to the same because agreement is symmetric and transitive.
-/

namespace GeoRouting

/-- What the rows of a run have in common. -/
structure RunKey where
  type : String
  ttl : Option UInt32
  /-- In lower case. -/
  name : List Char
  group : String
deriving BEq, ReflBEq, LawfulBEq, Repr

namespace Row

/-- The key of the run that a row belongs to, if the row has a group. -/
def runKey? (r : Row) : Option RunKey :=
  r.groupName?.map fun group => ⟨r.type, r.ttl, (Text.lower r.name).toList, group⟩

/-- Whether two rows belong to one run when they are neighbours. -/
def agrees (r s : Row) : Bool := r.runKey?.isSome && r.runKey? == s.runKey?

theorem agrees_iff {r s : Row} :
    r.agrees s = true ↔ ∃ k, r.runKey? = some k ∧ s.runKey? = some k := by
  simp only [agrees, Bool.and_eq_true, beq_iff_eq, Option.isSome_iff_exists]
  constructor
  · rintro ⟨⟨k, hk⟩, he⟩
    exact ⟨k, hk, he ▸ hk⟩
  · rintro ⟨k, hr, hs⟩
    exact ⟨⟨k, hr⟩, hr.trans hs.symm⟩

theorem agrees_symm {r s : Row} (h : r.agrees s = true) : s.agrees r = true := by
  obtain ⟨k, hr, hs⟩ := agrees_iff.mp h
  exact agrees_iff.mpr ⟨k, hs, hr⟩

theorem agrees_trans {r s t : Row} (h : r.agrees s = true) (h' : s.agrees t = true) :
    r.agrees t = true := by
  obtain ⟨k, hr, hs⟩ := agrees_iff.mp h
  obtain ⟨l, hs', ht⟩ := agrees_iff.mp h'
  have hk : k = l := Option.some.inj (hs.symm.trans hs')
  exact agrees_iff.mpr ⟨k, hr, hk ▸ ht⟩

theorem sameRun_eq_agrees (r s : Row) : r.sameRun s = r.agrees s := by
  rw [Bool.eq_iff_iff]
  simp only [sameRun, agrees, runKey?]
  cases r.groupName? with
  | none => simp
  | some g =>
    cases s.groupName? with
    | none => simp
    | some h =>
      simp only [Bool.and_eq_true, beq_iff_eq, Text.sameLetters_iff, Option.map_some,
        Option.isSome_some, true_and, Option.some.injEq, RunKey.mk.injEq, String.toList_inj,
        and_assoc]

theorem sameRun_of_agrees {first r : Row} (h : first.agrees r = true) :
    r.sameRun first = true := by
  rw [sameRun_eq_agrees]
  exact agrees_symm h

theorem agrees_of_sameRun {first r s : Row} (hr : r.sameRun first = true)
    (hs : s.sameRun first = true) : r.agrees s = true := by
  rw [sameRun_eq_agrees] at hr hs
  exact agrees_trans hr (agrees_symm hs)

/-- The rows cut into runs. -/
def runs (rows : List Row) : List (List Row) := rows.splitBy agrees

@[simp] theorem runs_nil : runs [] = [] := rfl

theorem mem_of_mem_runs {rows run : List Row} {r : Row} (h : run ∈ runs rows) (hr : r ∈ run) :
    r ∈ rows := by
  have hflat : r ∈ (runs rows).flatten := List.mem_flatten.mpr ⟨run, h, hr⟩
  rwa [runs, List.flatten_splitBy] at hflat

/-- Rows are cut between two pieces that do not agree where they meet. -/
theorem runs_append {xs ys : List Row}
    (h : ∀ x ∈ xs.getLast?, ∀ y ∈ ys.head?, x.agrees y = false) :
    runs (xs ++ ys) = runs xs ++ runs ys :=
  List.splitBy_append h

/-- Things that rows are read off are cut where their rows are. -/
theorem runs_map {α : Type} (row : α → Row) (xs : List α) :
    runs (xs.map row) = (xs.splitBy fun x y => (row x).agrees (row y)).map (List.map row) := by
  unfold runs
  rw [List.splitBy_eq_iff]
  refine ⟨?_, ?_, ?_, ?_⟩
  · rw [← List.map_flatten, List.flatten_splitBy]
  · intro h
    obtain ⟨run, hrun, hnil⟩ := List.mem_map.mp h
    exact List.ne_nil_of_mem_splitBy hrun (List.map_eq_nil_iff.mp hnil)
  · intro run hrun
    obtain ⟨part, hpart, rfl⟩ := List.mem_map.mp hrun
    exact (List.isChain_map row).mpr (List.isChain_of_mem_splitBy hpart)
  · rw [List.isChain_map]
    refine (List.isChain_getLast_head_splitBy _ xs).imp fun xs ys h => ?_
    obtain ⟨hx, hy, hxy⟩ := h
    refine ⟨mt List.map_eq_nil_iff.mp hx, mt List.map_eq_nil_iff.mp hy, ?_⟩
    rwa [List.getLast_map, List.head_map]

theorem runs_of_sameRun {first : Row} {others : List Row}
    (h : ∀ r ∈ others, r.sameRun first = true) : runs (first :: others) = [first :: others] := by
  apply List.splitBy_of_isChain (List.cons_ne_nil first others)
  apply List.Pairwise.isChain
  refine List.pairwise_cons.mpr ⟨?_, List.pairwise_of_forall_mem_list ?_⟩
  · intro r hr
    exact agrees_symm (sameRun_eq_agrees r first ▸ h r hr)
  · intro r hr s hs
    exact agrees_of_sameRun (h r hr) (h s hs)

/-- The rows at the start of a source that belong to the run of `first`. -/
def others (first : Row) (source : List Row) : List Row :=
  source.takeWhile fun r => r.sameRun first

/-- The rows of a source after the run of `first`. -/
def beyond (first : Row) (source : List Row) : List Row :=
  source.dropWhile fun r => r.sameRun first

@[simp] theorem others_nil (first : Row) : first.others [] = [] := rfl

@[simp] theorem beyond_nil (first : Row) : first.beyond [] = [] := rfl

theorem others_cons (first r : Row) (source : List Row) :
    first.others (r :: source) =
      if r.sameRun first then r :: first.others source else [] := by
  unfold others
  split <;> simp_all

theorem beyond_cons (first r : Row) (source : List Row) :
    first.beyond (r :: source) =
      if r.sameRun first then first.beyond source else r :: source := by
  unfold beyond
  split <;> simp_all

theorem others_append_beyond (first : Row) (source : List Row) :
    first.others source ++ first.beyond source = source :=
  List.takeWhile_append_dropWhile

theorem sameRun_of_mem_others {first r : Row} {source : List Row}
    (h : r ∈ first.others source) : r.sameRun first = true :=
  List.all_eq_true.mp List.all_takeWhile r h

theorem sameRun_of_mem_head?_beyond {first r : Row} {source : List Row}
    (h : r ∈ (first.beyond source).head?) : r.sameRun first = false := by
  have hd := List.head?_dropWhile_not (fun r => r.sameRun first) source
  rw [beyond] at h
  rw [Option.mem_def.mp h] at hd
  simpa using hd

/-- The first run goes on as long as rows belong to the run of the first row. -/
theorem runs_cons (first : Row) (source : List Row) :
    runs (first :: source) = (first :: first.others source) :: runs (first.beyond source) := by
  conv_lhs => rw [← others_append_beyond first source, ← List.cons_append]
  rw [runs_append, runs_of_sameRun fun r hr => sameRun_of_mem_others hr, List.singleton_append]
  intro x hx y hy
  have hyf := sameRun_of_mem_head?_beyond hy
  rw [Bool.eq_false_iff]
  intro hxy
  have hyx : y.agrees first = true := by
    rcases List.mem_cons.mp (List.mem_of_getLast? hx) with rfl | hm
    · exact agrees_symm hxy
    · have hxf := sameRun_of_mem_others hm
      rw [sameRun_eq_agrees] at hxf
      exact agrees_trans (agrees_symm hxy) hxf
  rw [sameRun_eq_agrees, hyx] at hyf
  cases hyf

end Row

end GeoRouting
