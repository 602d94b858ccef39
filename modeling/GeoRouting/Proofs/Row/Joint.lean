import GeoRouting.Proofs.Row.Drain

/-!
# Rows joined from two sources

Rows from two sources can be grouped apart or one after the other. The first record set is the
same both ways unless the first run of the left rows is all of them and goes on in the right
rows, and something is answered there: then the joined run holds more data, or is in error.
-/

namespace GeoRouting

namespace Row

theorem sameRun_congr {first other : Row} (h : other.sameRun first = true) (r : Row) :
    r.sameRun first = r.sameRun other := by
  rw [sameRun_eq_agrees] at h
  rw [sameRun_eq_agrees, sameRun_eq_agrees, Bool.eq_iff_iff]
  exact ⟨fun hr => agrees_trans hr (agrees_symm h), fun hr => agrees_trans hr h⟩

theorem others_congr {first other : Row} (h : other.sameRun first = true) (source : List Row) :
    first.others source = other.others source := by
  unfold others
  simp only [sameRun_congr h]

theorem others_append_of_all {first : Row} {xs : List Row}
    (h : ∀ r ∈ xs, r.sameRun first = true) (ys : List Row) :
    first.others (xs ++ ys) = xs ++ first.others ys :=
  List.takeWhile_append_of_pos h

theorem beyond_congr {first other : Row} (h : other.sameRun first = true) (source : List Row) :
    first.beyond source = other.beyond source := by
  unfold beyond
  simp only [sameRun_congr h]

theorem beyond_append_of_all {first : Row} {xs : List Row}
    (h : ∀ r ∈ xs, r.sameRun first = true) (ys : List Row) :
    first.beyond (xs ++ ys) = first.beyond ys :=
  List.dropWhile_append_of_pos h

/-- A run and the rows that go on with it are cut as one run and what is beyond. -/
theorem runs_append_of_sameRun {first b : Row} {others : List Row}
    (h : ∀ r ∈ others, r.sameRun first = true) (hb : b.sameRun first = true) (ys : List Row) :
    runs (first :: others ++ b :: ys) =
      (first :: others ++ b :: b.others ys) :: runs (b.beyond ys) := by
  rw [List.cons_append, runs_cons, others_append_of_all h, beyond_append_of_all h, others_cons,
    beyond_cons, if_pos hb, if_pos hb, others_congr hb, beyond_congr hb]
  rfl

theorem others_append_of_not_all {first : Row} {xs : List Row}
    (h : ¬ ∀ r ∈ xs, r.sameRun first = true) (ys : List Row) :
    first.others (xs ++ ys) = first.others xs := by
  have hlen : ¬ (xs.takeWhile fun r => r.sameRun first).length = xs.length := by
    intro hl
    apply h
    have hx : xs.takeWhile (fun r => r.sameRun first) = xs :=
      (List.takeWhile_prefix _).eq_of_length hl
    exact List.all_eq_true.mp (hx ▸ List.all_takeWhile)
  rw [others, List.takeWhile_append, if_neg hlen]
  rfl

/-- Whether the rows on the left are one run that the first row on the right goes on with, not
all of it without an answer. -/
def Straddles : List Row → List Row → Prop
  | a :: xs, b :: _ =>
    (∀ r ∈ xs, r.sameRun a = true) ∧ b.sameRun a = true ∧
      (a.noResponse = false ∨ b.noResponse = false)
  | _, _ => False

instance : (xs ys : List Row) → Decidable (Straddles xs ys)
  | [], _ => isFalse id
  | _ :: _, [] => isFalse id
  | a :: xs, b :: _ => inferInstanceAs (Decidable
      ((∀ r ∈ xs, r.sameRun a = true) ∧ b.sameRun a = true ∧
        (a.noResponse = false ∨ b.noResponse = false)))

theorem joinProblems_of_noResponse {first r : Row} (hf : first.noResponse = true)
    (hr : r.noResponse = true) (provider : String) : first.joinProblems provider r = [] := by
  rw [joinProblems, problems, if_pos (hr.trans hf.symm), if_pos hr]
  rfl

theorem data_of_noResponse {r : Row} (h : r.noResponse = true) (provider : String) :
    r.data provider = [] := by
  rw [data, if_pos h]

end Row

namespace Run
variable {provider : String} {territories : String → Except GeoError (List String)}

/-- Rows without an answer add nothing to a run without an answer. -/
theorem item_append_of_noResponse {first : Row} {more : List Row}
    (hf : first.noResponse = true) (hm : ∀ r ∈ more, r.noResponse = true) (others : List Row) :
    item provider territories first (others ++ more) =
      item provider territories first others := by
  have hp : more.flatMap (first.joinProblems provider) = [] := by
    rw [List.flatMap_eq_nil_iff]
    intro r hr
    exact Row.joinProblems_of_noResponse hf (hm r hr) provider
  have hd : more.flatMap (Row.data provider) = [] := by
    rw [List.flatMap_eq_nil_iff]
    intro r hr
    exact Row.data_of_noResponse (hm r hr) provider
  unfold item
  rw [List.flatMap_append, hp, List.append_nil, ← List.cons_append, List.flatMap_append, hd,
    List.append_nil]

/-- A run that becomes the same record set with more rows has no answer in any of them. -/
theorem noResponse_of_item_append {first b : Row} {others more : List Row}
    {r : RoutedRecordSet} (h : item provider territories first others = .ok r)
    (hm : item provider territories first (others ++ b :: more) = .ok r) :
    first.noResponse = true ∧ b.noResponse = true := by
  obtain ⟨g, codes, -, -, -, -, -, hr⟩ := item_eq_ok.mp h
  obtain ⟨g', codes', -, -, -, hjoin, -, hr'⟩ := item_eq_ok.mp hm
  have hdata : (first :: others).flatMap (Row.data provider) =
      (first :: others).flatMap (Row.data provider) ++
        (b :: more).flatMap (Row.data provider) := by
    rw [← List.flatMap_append]
    exact congrArg (fun r => r.records.rdata) (hr.symm.trans hr')
  have hnil : (b :: more).flatMap (Row.data provider) = [] :=
    List.self_eq_append_right.mp hdata
  have hb : b.data provider = [] :=
    List.flatMap_eq_nil_iff.mp hnil b List.mem_cons_self
  have hj : first.joinProblems provider b = [] :=
    List.flatMap_eq_nil_iff.mp hjoin b (List.mem_append_right _ List.mem_cons_self)
  have hsame := Row.noResponse_of_joinProblems hj
  have hempty := Row.isEmpty_data (List.append_eq_nil_iff.mp hj).2
  rw [hb] at hempty
  exact ⟨hsame.symm.trans hempty.symm, hempty.symm⟩

/-- Two runs that can be built make the record set of the first when joined, or another item. -/
theorem item_append_eq_ok_iff {a b : Row} {others more : List Row} {r t : RoutedRecordSet}
    (hr : item provider territories a others = .ok r)
    (ht : item provider territories b more = .ok t) :
    item provider territories a (others ++ b :: more) = .ok r ↔
      a.noResponse = true ∧ b.noResponse = true := by
  constructor
  · exact noResponse_of_item_append hr
  · rintro ⟨ha, hb⟩
    obtain ⟨g, codes, -, -, -, hjoin, -, -⟩ := item_eq_ok.mp ht
    rw [← hr]
    apply item_append_of_noResponse ha
    intro s hs
    rcases List.mem_cons.mp hs with rfl | hs
    · exact hb
    · have hj := List.flatMap_eq_nil_iff.mp hjoin s hs
      exact (Row.noResponse_of_joinProblems hj).trans hb

/-- The first record set of joined rows is the first one of the two parts taken apart exactly
when no run that answers straddles the joint. -/
theorem head?_items_append {xs ys : List Row} {as bs : List RoutedRecordSet}
    (hx : items provider territories xs = as.map .ok)
    (hy : items provider territories ys = bs.map .ok) :
    (items provider territories (xs ++ ys)).head? = (as ++ bs).head?.map .ok ↔
      ¬ Row.Straddles xs ys := by
  cases xs with
  | nil =>
    cases as with
    | nil =>
      rw [List.nil_append, List.nil_append, hy, List.head?_map]
      exact ⟨fun _ h => h, fun _ => rfl⟩
    | cons r as => cases hx
  | cons a xs =>
    rw [items_cons] at hx
    cases as with
    | nil => cases hx
    | cons r as =>
      have hr : item provider territories a (a.others xs) = .ok r := (List.cons.inj hx).1
      rw [List.cons_append, items_cons, List.head?_cons, List.cons_append, List.head?_cons,
        Option.map_some, Option.some.injEq]
      by_cases hall : ∀ s ∈ xs, s.sameRun a = true
      · have hone : a.others xs = xs := by
          have h := Row.others_append_of_all hall []
          rwa [List.append_nil, Row.others_nil, List.append_nil] at h
        rw [Row.others_append_of_all hall]
        rw [hone] at hr
        cases ys with
        | nil =>
          rw [Row.others_nil, List.append_nil]
          exact ⟨fun _ h => h, fun _ => hr⟩
        | cons b ys =>
          by_cases hb : b.sameRun a = true
          · rw [items_cons] at hy
            cases bs with
            | nil => cases hy
            | cons t bs =>
              have ht : item provider territories b (b.others ys) = .ok t :=
                (List.cons.inj hy).1
              have hs : Row.Straddles (a :: xs) (b :: ys) ↔
                  (a.noResponse = false ∨ b.noResponse = false) :=
                ⟨fun h => h.2.2, fun h => ⟨hall, hb, h⟩⟩
              rw [Row.others_cons, if_pos hb, Row.others_congr hb, item_append_eq_ok_iff hr ht,
                hs, not_or, Bool.not_eq_false, Bool.not_eq_false]
          · rw [Row.others_cons, if_neg hb, List.append_nil]
            exact ⟨fun _ h => hb h.2.1, fun _ => hr⟩
      · rw [Row.others_append_of_not_all hall]
        refine ⟨fun _ h => ?_, fun _ => hr⟩
        cases ys with
        | nil => exact h
        | cons b ys => exact hall h.1

end Run

end GeoRouting
