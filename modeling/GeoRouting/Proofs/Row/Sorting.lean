import GeoRouting.Proofs.Row.Selecting
import Mathlib.Data.String.Basic

/-!
# Sorting rows

Sorting puts the rows of one type and group next to each other and keeps them in their order.
Runs of the sorted rows are therefore made class by class: leaving out rows of other types or
groups, before the sort or after it, leaves the runs of the rest as they are.
-/

namespace GeoRouting.Row

theorem precedes_iff {r s : Row} :
    r.precedes s = true ↔
      r.type < s.type ∨ r.type = s.type ∧ ∀ g ∈ r.groupName?, ∃ h ∈ s.groupName?, g ≤ h := by
  unfold precedes
  by_cases ht : r.type = s.type
  · rw [if_pos ht]
    have hlt : ¬ r.type < s.type := by
      rw [ht]
      exact lt_irrefl s.type
    cases r.groupName? with
    | none => simp [ht]
    | some g => cases s.groupName? <;> simp [ht]
  · rw [if_neg ht]
    simp [ht]

theorem precedes_trans (r s t : Row) (h : r.precedes s = true) (h' : s.precedes t = true) :
    r.precedes t = true := by
  rw [precedes_iff] at h h' ⊢
  rcases h with h | ⟨hrs, h⟩
  · rcases h' with h' | ⟨hst, -⟩
    · exact Or.inl (lt_trans h h')
    · exact Or.inl (hst ▸ h)
  · rcases h' with h' | ⟨hst, h'⟩
    · exact Or.inl (hrs ▸ h')
    · refine Or.inr ⟨hrs.trans hst, ?_⟩
      intro g hg
      obtain ⟨k, hk, hgk⟩ := h g hg
      obtain ⟨m, hm, hkm⟩ := h' k hk
      exact ⟨m, hm, le_trans hgk hkm⟩

theorem precedes_total (r s : Row) : (r.precedes s || s.precedes r) = true := by
  rw [Bool.or_eq_true, precedes_iff, precedes_iff]
  rcases lt_trichotomy r.type s.type with ht | ht | ht
  · exact Or.inl (Or.inl ht)
  · cases hr : r.groupName? with
    | none => exact Or.inl (Or.inr ⟨ht, by simp⟩)
    | some g =>
      cases hs : s.groupName? with
      | none => exact Or.inr (Or.inr ⟨ht.symm, by simp⟩)
      | some k =>
        rcases le_total g k with hg | hg
        · exact Or.inl (Or.inr ⟨ht, by simpa using hg⟩)
        · exact Or.inr (Or.inr ⟨ht.symm, by simpa using hg⟩)
  · exact Or.inr (Or.inl ht)

theorem sort_pairwise (rows : List Row) :
    (sort rows).Pairwise fun r s => r.precedes s = true :=
  List.pairwise_mergeSort precedes_trans precedes_total rows

theorem sort_perm (rows : List Row) : (sort rows).Perm rows := List.mergeSort_perm rows precedes

theorem sort_eq_nil {rows : List Row} : sort rows = [] ↔ rows = [] := by
  constructor
  · intro h
    exact (h ▸ sort_perm rows).nil_eq.symm
  · rintro rfl
    exact (sort_perm []).eq_nil

/-- Rows of which no two tie are sorted in one way. -/
theorem sort_eq_of_perm {rows sorted : List Row} (hp : sorted.Perm rows)
    (hs : sorted.Pairwise fun r s => r.precedes s = true)
    (ht : ∀ r ∈ sorted, ∀ s ∈ sorted, r.precedes s = true → s.precedes r = true → r = s) :
    sort rows = sorted := by
  have hsort : (sort rows).Perm sorted := (sort_perm rows).trans hp.symm
  apply hsort.eq_of_pairwise _ (sort_pairwise rows) hs
  intro r s hr hs
  exact ht r (hsort.mem_iff.mp hr) s hs

/-! ## Classes -/

/-- The rows of one type and of one group name, or of none. -/
def ofClass (type : String) (group : Option String) (r : Row) : Bool :=
  r.type == type && r.groupName? == group

theorem ofClass_iff {type : String} {group : Option String} {r : Row} :
    r.ofClass type group = true ↔ r.type = type ∧ r.groupName? = group := by
  simp [ofClass]

theorem precedes_of_ofClass {type : String} {group : Option String} {r s : Row}
    (hr : r.ofClass type group = true) (hs : s.ofClass type group = true) :
    r.precedes s = true := by
  obtain ⟨hrt, hrg⟩ := ofClass_iff.mp hr
  obtain ⟨hst, hsg⟩ := ofClass_iff.mp hs
  rw [precedes_iff, hrt, hst, hrg, hsg]
  exact Or.inr ⟨rfl, fun g hg => ⟨g, hg, le_refl g⟩⟩

/-- Rows that tie are of one class. -/
theorem class_eq_of_precedes {r s : Row} (h : r.precedes s = true) (h' : s.precedes r = true) :
    r.type = s.type ∧ r.groupName? = s.groupName? := by
  rw [precedes_iff] at h h'
  rcases h with h | ⟨htype, h⟩
  · rcases h' with h' | ⟨htype, -⟩
    · exact absurd (lt_trans h h') (lt_irrefl _)
    · rw [htype] at h
      exact absurd h (lt_irrefl _)
  · rcases h' with h' | ⟨-, h'⟩
    · rw [htype] at h'
      exact absurd h' (lt_irrefl _)
    · refine ⟨htype, ?_⟩
      cases hr : r.groupName? with
      | none =>
        cases hs : s.groupName? with
        | none => rfl
        | some k =>
          obtain ⟨g, hg, -⟩ := h' k hs
          rw [hr] at hg
          cases hg
      | some g =>
        obtain ⟨k, hk, hgk⟩ := h g hr
        obtain ⟨g', hg', hkg⟩ := h' k hk
        rw [hr] at hg'
        cases Option.some.inj hg'
        rw [Option.mem_def.mp hk, le_antisymm hgk hkg]

/-- Sorting keeps the order within a class. -/
theorem sort_filter_ofClass (type : String) (group : Option String) (rows : List Row) :
    (sort rows).filter (ofClass type group) = rows.filter (ofClass type group) := by
  have hclass : (rows.filter (ofClass type group)).Pairwise fun r s => r.precedes s = true := by
    apply List.pairwise_of_forall_mem_list
    intro r hr s hs
    exact precedes_of_ofClass (List.mem_filter.mp hr).2 (List.mem_filter.mp hs).2
  have hsub : (rows.filter (ofClass type group)).Sublist (sort rows) :=
    List.sublist_mergeSort precedes_trans precedes_total hclass List.filter_sublist
  have hfilter := hsub.filter (ofClass type group)
  rw [List.filter_filter] at hfilter
  simp only [Bool.and_self] at hfilter
  exact (hfilter.eq_of_length ((sort_perm rows).filter _).length_eq.symm).symm

/-- In sorted rows the first row precedes every row of the same rows sorted otherwise. -/
theorem precedes_head {x y : Row} {xs ys : List Row}
    (hy : (y :: ys).Pairwise fun r s => r.precedes s = true)
    (h : ∀ type group,
      (x :: xs).filter (ofClass type group) = (y :: ys).filter (ofClass type group)) :
    y.precedes x = true := by
  have hown : x.ofClass x.type x.groupName? = true := ofClass_iff.mpr ⟨rfl, rfl⟩
  have hmem : x ∈ (x :: xs).filter (ofClass x.type x.groupName?) :=
    List.mem_filter.mpr ⟨List.mem_cons_self, hown⟩
  rw [h] at hmem
  rcases List.mem_cons.mp (List.mem_filter.mp hmem).1 with rfl | hmem
  · exact precedes_of_ofClass hown hown
  · exact (List.pairwise_cons.mp hy).1 x hmem

/-- Sorted rows are determined by their classes. -/
theorem eq_of_classes {xs ys : List Row} (hx : xs.Pairwise fun r s => r.precedes s = true)
    (hy : ys.Pairwise fun r s => r.precedes s = true)
    (h : ∀ type group, xs.filter (ofClass type group) = ys.filter (ofClass type group)) :
    xs = ys := by
  induction xs generalizing ys with
  | nil =>
    cases ys with
    | nil => rfl
    | cons y ys =>
      have hown : y.ofClass y.type y.groupName? = true := ofClass_iff.mpr ⟨rfl, rfl⟩
      have hfilter := h y.type y.groupName?
      rw [List.filter_cons_of_pos hown] at hfilter
      cases hfilter
  | cons x xs ih =>
    have hown : x.ofClass x.type x.groupName? = true := ofClass_iff.mpr ⟨rfl, rfl⟩
    cases ys with
    | nil =>
      have hfilter := h x.type x.groupName?
      rw [List.filter_cons_of_pos hown] at hfilter
      cases hfilter
    | cons y ys =>
      have hyx := precedes_head hy h
      have hxy := precedes_head hx fun type group => (h type group).symm
      obtain ⟨htype, hgroup⟩ := class_eq_of_precedes hxy hyx
      have hheads : x = y := by
        have hfilter := h x.type x.groupName?
        rw [List.filter_cons_of_pos hown,
          List.filter_cons_of_pos (ofClass_iff.mpr ⟨htype.symm, hgroup.symm⟩)] at hfilter
        exact (List.cons.inj hfilter).1
      subst hheads
      congr 1
      apply ih (List.pairwise_cons.mp hx).2 (List.pairwise_cons.mp hy).2
      intro type group
      have hfilter := h type group
      rw [List.filter_cons, List.filter_cons] at hfilter
      split at hfilter
      · exact (List.cons.inj hfilter).2
      · exact hfilter

/-- Rows are sorted alike when they are in the same order within each class. -/
theorem sort_eq_of_classes {xs ys : List Row}
    (h : ∀ type group, xs.filter (ofClass type group) = ys.filter (ofClass type group)) :
    sort xs = sort ys := by
  apply eq_of_classes (sort_pairwise xs) (sort_pairwise ys)
  intro type group
  rw [sort_filter_ofClass, sort_filter_ofClass, h]

/-- Rows can be left out before they are sorted or afterwards. -/
theorem sort_filter (keep : Row → Bool) (rows : List Row) :
    (sort rows).filter keep = sort (rows.filter keep) := by
  apply eq_of_classes ((sort_pairwise rows).filter keep) (sort_pairwise _)
  intro type group
  rw [List.filter_comm, sort_filter_ofClass, sort_filter_ofClass, List.filter_comm]

theorem type_le_of_precedes {r s : Row} (h : r.precedes s = true) : r.type ≤ s.type := by
  rcases precedes_iff.mp h with h | ⟨h, -⟩
  · exact le_of_lt h
  · exact le_of_eq h

/-- Whether the rows to keep stand together when rows are sorted, in whole runs. -/
structure Gathers (keep : Row → Bool) : Prop where
  /-- A row between two rows to keep is kept. -/
  between : ∀ r s t, keep r = true → keep t = true → r.precedes s = true →
    s.precedes t = true → keep s = true
  whole : ∀ r s, r.agrees s = true → keep r = keep s

/-- The rows of one type. -/
def ofType (type : String) (r : Row) : Bool := r.type == type

theorem gathers_ofType (type : String) : Gathers (ofType type) where
  between r s t hr ht hrs hst := by
    rw [ofType, beq_iff_eq] at hr ht ⊢
    subst hr
    exact le_antisymm (ht ▸ type_le_of_precedes hst) (type_le_of_precedes hrs)
  whole r s h := by
    obtain ⟨htype, -, -, -⟩ := fields_of_agrees h
    rw [ofType, ofType, htype]

/-- The rows of one type to one group. -/
def belongs (type group : String) (r : Row) : Bool :=
  r.type == type && r.groupName? == some group

theorem belongs_iff {type group : String} {r : Row} :
    r.belongs type group = true ↔ r.type = type ∧ r.groupName? = some group := by
  simp [belongs]

theorem gathers_belongs (type group : String) : Gathers (belongs type group) where
  between r s t hr ht hrs hst := by
    obtain ⟨hrt, hrg⟩ := belongs_iff.mp hr
    obtain ⟨htt, htg⟩ := belongs_iff.mp ht
    have htype : s.type = type :=
      le_antisymm (htt ▸ type_le_of_precedes hst) (hrt ▸ type_le_of_precedes hrs)
    rw [precedes_iff, hrt, htype, hrg] at hrs
    rw [precedes_iff, htt, htype, htg] at hst
    obtain ⟨-, hrs⟩ := hrs.resolve_left (lt_irrefl type)
    obtain ⟨-, hst⟩ := hst.resolve_left (lt_irrefl type)
    obtain ⟨k, hk, hgk⟩ := hrs group rfl
    obtain ⟨m, hm, hkm⟩ := hst k hk
    have hm' : group = m := Option.some.inj hm
    have hkg : k = group := le_antisymm (hm' ▸ hkm) hgk
    exact belongs_iff.mpr ⟨htype, hkg ▸ hk⟩
  whole r s h := by
    obtain ⟨htype, -, -, hgroup⟩ := fields_of_agrees h
    rw [belongs, belongs, htype, hgroup]

theorem sort_filter_belongs (type group : String) (rows : List Row) :
    (sort rows).filter (belongs type group) = rows.filter (belongs type group) :=
  sort_filter_ofClass type (some group) rows

section
variable {keep : Row → Bool}

/-- After a row that is kept come the others, and then none. -/
theorem Gathers.exists_eq_filter_append (hk : Gathers keep) {r : Row} {rows : List Row}
    (hr : keep r = true) (h : (r :: rows).Pairwise fun r s => r.precedes s = true) :
    ∃ after, rows = rows.filter keep ++ after ∧ ∀ s ∈ after, keep s = false := by
  induction rows generalizing r with
  | nil => exact ⟨[], rfl, by simp⟩
  | cons s rows ih =>
    obtain ⟨hrs, hs⟩ := List.pairwise_cons.mp h
    cases hp : keep s with
    | true =>
      obtain ⟨after, hsplit, hafter⟩ := ih hp hs
      refine ⟨after, ?_, hafter⟩
      rw [List.filter_cons_of_pos hp, List.cons_append, ← hsplit]
    | false =>
      have hnone : ∀ t ∈ s :: rows, keep t = false := by
        intro t ht
        rcases List.mem_cons.mp ht with rfl | ht
        · exact hp
        · rw [Bool.eq_false_iff]
          intro hkt
          have hst := (List.pairwise_cons.mp hs).1 t ht
          have hks := hk.between r s t hr hkt (hrs s List.mem_cons_self) hst
          rw [hp] at hks
          cases hks
      refine ⟨s :: rows, ?_, hnone⟩
      rw [List.filter_eq_nil_iff.mpr fun t ht => Bool.eq_false_iff.mp (hnone t ht)]
      rfl

/-- The rows to keep are next to each other when rows are sorted. -/
theorem Gathers.exists_eq_append_filter (hk : Gathers keep) {rows : List Row}
    (h : rows.Pairwise fun r s => r.precedes s = true) :
    ∃ before after, rows = before ++ rows.filter keep ++ after ∧
      (∀ r ∈ before, keep r = false) ∧ ∀ r ∈ after, keep r = false := by
  induction rows with
  | nil => exact ⟨[], [], rfl, by simp, by simp⟩
  | cons r rows ih =>
    cases hp : keep r with
    | true =>
      obtain ⟨after, hsplit, hafter⟩ := hk.exists_eq_filter_append hp h
      refine ⟨[], after, ?_, by simp, hafter⟩
      rw [List.filter_cons_of_pos hp, List.nil_append, List.cons_append, ← hsplit]
    | false =>
      obtain ⟨before, after, hsplit, hbefore, hafter⟩ := ih (List.pairwise_cons.mp h).2
      refine ⟨r :: before, after, ?_, ?_, hafter⟩
      · rw [List.filter_cons_of_neg (Bool.eq_false_iff.mp hp), List.cons_append,
          List.cons_append, ← hsplit]
      · intro s hs
        rcases List.mem_cons.mp hs with rfl | hs
        · exact hp
        · exact hbefore s hs

theorem keptRuns_eq_nil {rows : List Row} (h : ∀ r ∈ rows, keep r = false) :
    keptRuns keep rows = [] := by
  apply List.filter_eq_nil_iff.mpr
  intro run hrun
  cases run with
  | nil => exact Bool.false_ne_true
  | cons first others =>
    have hfirst := mem_of_mem_runs hrun List.mem_cons_self
    rw [List.head?_cons, Option.any_some, h first hfirst]
    exact Bool.false_ne_true

theorem keptRuns_eq_runs {rows : List Row} (h : ∀ r ∈ rows, keep r = true) :
    keptRuns keep rows = runs rows := by
  apply List.filter_eq_self.mpr
  intro run hrun
  cases run with
  | nil => exact absurd hrun (List.nil_notMem_splitBy agrees rows)
  | cons first others =>
    have hfirst := mem_of_mem_runs hrun List.mem_cons_self
    exact h first hfirst

theorem Gathers.agrees_eq_false (hk : Gathers keep) {r s : Row} (h : keep r ≠ keep s) :
    r.agrees s = false := by
  rw [Bool.eq_false_iff]
  intro ha
  exact h (hk.whole r s ha)

/-- The runs of the rows to keep are those of the sorted rows that are made of them. -/
theorem Gathers.runs_filter (hk : Gathers keep) {rows : List Row}
    (h : rows.Pairwise fun r s => r.precedes s = true) :
    runs (rows.filter keep) = keptRuns keep rows := by
  obtain ⟨before, after, hsplit, hbefore, hafter⟩ := hk.exists_eq_append_filter h
  have hkept : ∀ r ∈ rows.filter keep, keep r = true := fun r hr => (List.mem_filter.mp hr).2
  generalize rows.filter keep = members at hsplit hkept ⊢
  cases members with
  | nil =>
    rw [keptRuns_eq_nil]
    · rfl
    · intro r hr
      rw [hsplit, List.append_nil] at hr
      rcases List.mem_append.mp hr with hr | hr
      · exact hbefore r hr
      · exact hafter r hr
  | cons first others =>
    have hleft : ∀ x ∈ (before ++ first :: others).getLast?, ∀ y ∈ after.head?,
        x.agrees y = false := by
      intro x hx y hy
      apply hk.agrees_eq_false
      rw [List.getLast?_append_of_ne_nil _ (List.cons_ne_nil first others)] at hx
      rw [hkept x (List.mem_of_getLast? hx), hafter y (List.mem_of_head? hy)]
      exact Bool.noConfusion
    have hright : ∀ x ∈ before.getLast?, ∀ y ∈ (first :: others).head?,
        x.agrees y = false := by
      intro x hx y hy
      apply hk.agrees_eq_false
      rw [hbefore x (List.mem_of_getLast? hx), hkept y (List.mem_of_head? hy)]
      exact Bool.noConfusion
    have hsplitRuns : keptRuns keep rows =
        keptRuns keep before ++ keptRuns keep (first :: others) ++ keptRuns keep after := by
      rw [hsplit, keptRuns, runs_append hleft, runs_append hright, List.filter_append,
        List.filter_append]
      rfl
    rw [hsplitRuns, keptRuns_eq_nil hbefore, keptRuns_eq_runs hkept, keptRuns_eq_nil hafter,
      List.nil_append, List.append_nil]

end

end GeoRouting.Row

namespace GeoRouting

/-- Whether a record set is answered to a group. -/
def RoutedRecordSet.goesTo (group : String) (r : RoutedRecordSet) : Bool :=
  r.geo?.map GeoRoute.group == some group

namespace Run

section
variable {provider : String} {territories : String → Except GeoError (List String)}

/-- A record set has the type and the group of the rows it was made of. -/
theorem belongs_of_item_eq_ok {first : Row} {others : List Row} {r : RoutedRecordSet}
    (h : item provider territories first others = .ok r) (type group : String) :
    (r.type == type && r.goesTo group) = first.belongs type group := by
  obtain ⟨g, codes, hg, -, -, -, -, rfl⟩ := item_eq_ok.mp h
  rw [Row.belongs, Row.groupName?, hg]
  rfl

/-- The record sets of one type and group are made of the rows of that type and group. -/
theorem items_filter {rows : List Row} (h : rows.Pairwise fun r s => r.precedes s = true)
    {sets : List RoutedRecordSet} (hi : items provider territories rows = sets.map .ok)
    (type group : String) :
    items provider territories (rows.filter (Row.belongs type group)) =
      (sets.filter fun r => r.type == type && r.goesTo group).map .ok := by
  have hk := Row.gathers_belongs type group
  have hs : ∀ run r, Makes provider territories run r →
      run.head?.any (Row.belongs type group) = (r.type == type && r.goesTo group) := by
    rintro _ r ⟨first, others, rfl, -, hitem⟩
    exact (belongs_of_item_eq_ok hitem type group).symm
  have hapart :=
    Row.isChain_of_length_runs_filter hk.whole (congrArg List.length (hk.runs_filter h))
  exact (items_filter_iff hk.whole hs hi).mpr ⟨hapart, fun _ _ _ _ _ _ => rfl⟩

end

end Run

end GeoRouting
