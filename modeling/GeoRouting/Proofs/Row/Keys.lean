import GeoRouting.Proofs.Row.Accounting
import Mathlib.Data.List.Destutter
import Mathlib.Data.List.Triplewise

/-!
# The keys of record sets

A record set has the key of the rows that it was made of. Rows of one key are joined only when
they are next to each other, so the keys of the record sets are those of the rows without repeats
next to each other. No two record sets share a key exactly when the rows of each key stand
together.
-/

namespace GeoRouting

/-! ## Repeats in lists -/

/-- Whether the things of each key stand together in a list. -/
def StandTogether {α κ : Type} (key : α → κ) (xs : List α) : Prop :=
  xs.Triplewise fun x y z => key x = key z → key y = key x

theorem standTogether_congr {α κ κ' : Type} {key : α → κ} {key' : α → κ'} {xs : List α}
    (h : ∀ x ∈ xs, ∀ y ∈ xs, key x = key y ↔ key' x = key' y) :
    StandTogether key xs ↔ StandTogether key' xs := by
  unfold StandTogether
  rw [List.triplewise_iff_getElem, List.triplewise_iff_getElem]
  refine forall₅_congr fun i j k hij hjk => forall_congr' fun hk => ?_
  rw [h _ (List.getElem_mem _) _ (List.getElem_mem _),
    h _ (List.getElem_mem _) _ (List.getElem_mem _)]

section
variable {κ : Type} [DecidableEq κ]

theorem mem_destutter'_ne {k a : κ} {ks : List κ} :
    k ∈ ks.destutter' (· ≠ ·) a ↔ k ∈ a :: ks := by
  induction ks generalizing a with
  | nil => exact Iff.rfl
  | cons b ks ih =>
    by_cases hab : a ≠ b
    · rw [List.destutter'_cons_pos ks hab, List.mem_cons, ih, ← List.mem_cons]
    · rw [List.destutter'_cons_neg ks hab, ih, not_not.mp hab]
      simp

theorem nodup_destutter'_ne {a : κ} {ks : List κ} :
    (ks.destutter' (· ≠ ·) a).Nodup ↔ StandTogether id (a :: ks) := by
  unfold StandTogether
  induction ks generalizing a with
  | nil => simp
  | cons b ks ih =>
    rw [List.triplewise_cons]
    by_cases hab : a ≠ b
    · rw [List.destutter'_cons_pos ks hab, List.nodup_cons, ih, mem_destutter'_ne]
      refine and_congr_left fun _ => ?_
      constructor
      · intro ha
        apply List.pairwise_of_forall_mem_list
        rintro x - y hy rfl
        exact absurd hy ha
      · intro hpair ha
        rcases List.mem_cons.mp ha with rfl | ha
        · exact hab rfl
        · exact hab ((List.pairwise_cons.mp hpair).1 a ha rfl).symm
    · obtain rfl := not_not.mp hab
      rw [List.destutter'_cons_neg ks hab, ih, List.pairwise_cons]
      exact ⟨fun h => ⟨⟨fun _ _ _ => rfl, (List.triplewise_cons.mp h).1⟩, h⟩, And.right⟩

/-- Repeats next to each other are all repeats exactly when equal things stand together. -/
theorem nodup_destutter_ne {ks : List κ} :
    (ks.destutter (· ≠ ·)).Nodup ↔ StandTogether id ks := by
  cases ks with
  | nil => simp [StandTogether]
  | cons a ks => exact nodup_destutter'_ne

theorem destutter'_ne_append {a : κ} {ks rest : List κ} (h : ∀ k ∈ ks, k = a) :
    (ks ++ rest).destutter' (· ≠ ·) a = rest.destutter' (· ≠ ·) a := by
  induction ks with
  | nil => rfl
  | cons k ks ih =>
    obtain ⟨rfl, hks⟩ := List.forall_mem_cons.mp h
    rw [List.cons_append, List.destutter'_cons_neg _ (not_not.mpr rfl), ih hks]

end

/-! ## Keys -/

instance : DecidableEq RunKey := fun _ _ => decidable_of_iff _ beq_iff_eq

theorem Row.runKey?_of_mem_others {first r : Row} {source : List Row}
    (h : r ∈ first.others source) : r.runKey? = first.runKey? := by
  have hsame := sameRun_of_mem_others h
  rw [sameRun_eq_agrees] at hsame
  obtain ⟨k, hr, hfirst⟩ := agrees_iff.mp hsame
  rw [hr, hfirst]

/-- A row after a run has another key, or none. -/
theorem Row.runKey?_ne_of_mem_head?_beyond {first r : Row} {source : List Row}
    (hsome : first.runKey?.isSome) (h : r ∈ (first.beyond source).head?) :
    first.runKey? ≠ r.runKey? := by
  intro hkey
  obtain ⟨k, hk⟩ := Option.isSome_iff_exists.mp hsome
  have hagree : r.agrees first = true := agrees_iff.mpr ⟨k, hkey ▸ hk, hk⟩
  have hapart := sameRun_of_mem_head?_beyond h
  rw [sameRun_eq_agrees, hagree] at hapart
  cases hapart

/-- The key of the rows that a record set was made of. -/
def RoutedRecordSet.runKey? (r : RoutedRecordSet) : Option RunKey :=
  (r.geo?.map GeoRoute.group).map fun group =>
    ⟨r.type, r.records.ttl, (Text.lower r.name).toList, group⟩

section
variable {provider : String} {territories : String → Except GeoError (List String)}

theorem Run.runKey?_of_item {first : Row} {others : List Row} {r : RoutedRecordSet}
    (h : item provider territories first others = .ok r) :
    r.runKey? = first.runKey? ∧ first.runKey?.isSome := by
  obtain ⟨g, codes, hg, -, -, -, -, rfl⟩ := item_eq_ok.mp h
  unfold Row.runKey? Row.groupName?
  rw [hg]
  exact ⟨rfl, rfl⟩

/-- The keys of the record sets are those of the rows without repeats next to each other. -/
theorem Run.keys_of_items {rows : List Row} {sets : List RoutedRecordSet}
    (h : items provider territories rows = sets.map .ok) :
    sets.map RoutedRecordSet.runKey? = (rows.map Row.runKey?).destutter (· ≠ ·) := by
  induction sets generalizing rows with
  | nil =>
    rw [items_eq_nil.mp h]
    rfl
  | cons r sets ih =>
    cases rows with
    | nil => cases h
    | cons first source =>
      rw [items_cons] at h
      obtain ⟨hfirst, hrest⟩ := List.cons.inj h
      obtain ⟨hkey, hsome⟩ := runKey?_of_item hfirst
      have hothers : ∀ k ∈ (first.others source).map Row.runKey?, k = first.runKey? := by
        rw [List.forall_mem_map]
        exact fun _ => Row.runKey?_of_mem_others
      rw [List.map_cons, ih hrest, hkey, List.map_cons, List.destutter_cons',
        ← Row.others_append_beyond first source, List.map_append, destutter'_ne_append hothers,
        Row.others_append_beyond]
      cases hleft : first.beyond source with
      | nil => rfl
      | cons next rest =>
        have hne := Row.runKey?_ne_of_mem_head?_beyond hsome
          (show next ∈ (first.beyond source).head? by rw [hleft]; rfl)
        rw [List.map_cons, List.destutter'_cons_pos _ hne, List.destutter_cons']

/-- No two record sets share a key exactly when the rows of each key stand together. -/
theorem Run.nodup_keys_iff {rows : List Row} {sets : List RoutedRecordSet}
    (h : items provider territories rows = sets.map .ok) :
    (sets.map RoutedRecordSet.runKey?).Nodup ↔ StandTogether Row.runKey? rows := by
  rw [keys_of_items h, nodup_destutter_ne, StandTogether, List.triplewise_map]
  rfl

end

end GeoRouting
