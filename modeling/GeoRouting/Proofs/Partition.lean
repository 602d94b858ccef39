import Mathlib.Data.List.Perm.Basic

/-!
# Lists shared out by keys

When every element of a list is under exactly one of some keys, collecting the elements key by
key gives each of them once. Keys under which there is nothing can be left out.
-/

namespace GeoRouting

/-- Elements that give nothing can be left out. -/
theorem flatMap_filter_of_nil {α β : Type} {p : α → Bool} {f : α → List β} {xs : List α}
    (h : ∀ x ∈ xs, p x = false → f x = []) : (xs.filter p).flatMap f = xs.flatMap f := by
  induction xs with
  | nil => rfl
  | cons x xs ih =>
    have hrest := ih fun y hy => h y (List.mem_cons_of_mem x hy)
    rw [List.filter_cons, List.flatMap_cons]
    cases hx : p x with
    | true => rw [if_pos rfl, List.flatMap_cons, hrest]
    | false => rw [if_neg Bool.false_ne_true, h x List.mem_cons_self hx, hrest, List.nil_append]

/-- What is kept of the parts is kept part by part. -/
theorem filter_flatMap_of_parts {α β : Type} {p : α → Bool} {q : β → Bool} {f g : α → List β}
    {xs : List α} (hkeep : ∀ x ∈ xs, p x = true → (f x).filter q = g x)
    (hdrop : ∀ x ∈ xs, p x = false → ∀ y ∈ f x, q y = false) :
    (xs.flatMap f).filter q = (xs.filter p).flatMap g := by
  have hnone : ∀ x ∈ xs, p x = false → (f x).filter q = [] := by
    intro x hx hp
    apply List.filter_eq_nil_iff.mpr
    intro y hy
    rw [hdrop x hx hp y hy]
    exact Bool.false_ne_true
  rw [List.filter_flatMap, ← flatMap_filter_of_nil hnone]
  apply List.flatMap_congr
  intro x hx
  exact hkeep x (List.mem_filter.mp hx).1 (List.mem_filter.mp hx).2

section
variable {α κ : Type} {p : κ → α → Bool}

theorem flatMap_singleton_of_key (keys : List κ) (x : α) :
    (keys.flatMap fun k => if p k x then [x] else []) =
      List.replicate (keys.countP fun k => p k x) x := by
  induction keys with
  | nil => rfl
  | cons k keys ih =>
    rw [List.flatMap_cons, ih, List.countP_cons]
    cases p k x with
    | true => rfl
    | false => rfl

theorem flatMap_filter_perm {keys : List κ} {xs : List α}
    (h : ∀ x ∈ xs, (keys.countP fun k => p k x) = 1) :
    (keys.flatMap fun k => xs.filter (p k)).Perm xs := by
  induction xs with
  | nil => simp
  | cons x xs ih =>
    have hrest := ih fun y hy => h y (List.mem_cons_of_mem x hy)
    have hone : (keys.flatMap fun k => if p k x then [x] else []) = [x] := by
      rw [flatMap_singleton_of_key, h x List.mem_cons_self]
      rfl
    have hsplit : (keys.flatMap fun k => (x :: xs).filter (p k)) =
        keys.flatMap fun k => (if p k x then [x] else []) ++ xs.filter (p k) := by
      congr 1
      funext k
      rw [List.filter_cons]
      split
      · rfl
      · rfl
    rw [hsplit]
    have happend := List.flatMap_append_perm keys (fun k => if p k x then [x] else [])
      fun k => xs.filter (p k)
    rw [hone] at happend
    exact happend.symm.trans (hrest.cons x)

end

end GeoRouting
