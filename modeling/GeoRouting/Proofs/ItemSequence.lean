import GeoRouting.Row.Grouping

/-!
# Sequences of items

A listing gives record sets up to its end or its first error. Cutting a sequence after its first
error can be done piece by piece: what is cut once more stays cut, wherever the pieces come from.

Such a sequence is pulled item by item. When every pull takes the first of the items that are
left, draining gives all of them and further pulls give nothing.
-/

namespace GeoRouting.Item

/-- The items up to the first error, with that error as the last one. -/
def upToError : List Item → List Item
  | [] => []
  | .ok r :: items => .ok r :: upToError items
  | .error e :: _ => [.error e]

@[simp] theorem upToError_nil : upToError [] = [] := rfl

@[simp] theorem upToError_ok (r : RoutedRecordSet) (items : List Item) :
    upToError (.ok r :: items) = .ok r :: upToError items := rfl

@[simp] theorem upToError_error (e : GeoError) (items : List Item) :
    upToError (.error e :: items) = [.error e] := rfl

theorem head?_upToError (items : List Item) : (upToError items).head? = items.head? := by
  rcases items with _ | ⟨_ | _, _⟩ <;> rfl

theorem upToError_eq_nil {items : List Item} : upToError items = [] ↔ items = [] := by
  rcases items with _ | ⟨_ | _, _⟩ <;> simp

theorem eq_nil_of_upToError_error {items rest : List Item} {e : GeoError}
    (h : upToError items = .error e :: rest) : rest = [] := by
  cases items with
  | nil => cases h
  | cons x items =>
    cases x with
    | error e' => exact (List.cons.inj h).2.symm
    | ok r => cases h

theorem upToError_prefix (items : List Item) : upToError items <+: items := by
  induction items with
  | nil => exact List.prefix_rfl
  | cons x items ih =>
    cases x with
    | error e => exact List.prefix_append [.error e] items
    | ok r => exact List.prefix_cons_inj _ |>.mpr ih

theorem upToError_append_left (xs ys : List Item) :
    upToError (upToError xs ++ ys) = upToError (xs ++ ys) := by
  induction xs with
  | nil => rfl
  | cons x xs ih =>
    cases x with
    | error e => rfl
    | ok r => simp [ih]

theorem upToError_upToError (xs : List Item) : upToError (upToError xs) = upToError xs := by
  simpa using upToError_append_left xs []

/-- Only what follows the first error of `xs` hides the items of `ys`. -/
theorem upToError_append_right (xs ys : List Item) :
    upToError (xs ++ upToError ys) = upToError (xs ++ ys) := by
  induction xs with
  | nil => exact upToError_upToError ys
  | cons x xs ih =>
    cases x with
    | error e => rfl
    | ok r => simp [ih]

/-- Pieces that are cut one by one make the same sequence as pieces that are not. -/
theorem upToError_flatMap {α : Type} (f : α → List Item) (pieces : List α) :
    upToError (pieces.flatMap fun a => upToError (f a)) = upToError (pieces.flatMap f) := by
  induction pieces with
  | nil => rfl
  | cons a pieces ih =>
    rw [List.flatMap_cons, List.flatMap_cons, upToError_append_left, ← upToError_append_right, ih,
      upToError_append_right]

/-- A sequence without an error is not cut, and nothing else looks like one. -/
theorem upToError_eq_map_ok {items : List Item} {sets : List RoutedRecordSet} :
    upToError items = sets.map .ok ↔ items = sets.map .ok := by
  induction items generalizing sets with
  | nil => rfl
  | cons x items ih =>
    cases x with
    | error e => cases sets <;> simp
    | ok r => cases sets <;> simp [ih]

/-! ## Record sets among items -/

/-- The first item as the answer to a query. -/
def first : List Item → Except GeoError (Option RoutedRecordSet)
  | [] => .ok none
  | .ok r :: _ => .ok (some r)
  | .error e :: _ => .error e

theorem first_eq_ok {items : List Item} {found : Option RoutedRecordSet} :
    first items = .ok found ↔ items.head? = found.map .ok := by
  rcases items with _ | ⟨_ | r, items⟩ <;> cases found <;> simp [first]

theorem mem_upToError_of_first {items : List Item} {r : RoutedRecordSet}
    (h : first items = .ok (some r)) : .ok r ∈ upToError items := by
  apply List.mem_of_head?
  rw [head?_upToError, first_eq_ok.mp h]
  rfl

theorem first_map_ok (sets : List RoutedRecordSet) :
    first (sets.map .ok) = .ok sets.head? := by
  rw [first_eq_ok, List.head?_map]

/-- The record sets among some items. -/
def sets (items : List Item) : List RoutedRecordSet := items.filterMap Except.toOption

theorem toOption_eq_some {item : Item} {r : RoutedRecordSet} :
    item.toOption = some r ↔ item = .ok r := by
  cases item <;> simp [Except.toOption]

theorem sets_map_ok (rs : List RoutedRecordSet) : sets (rs.map .ok) = rs := by
  unfold sets
  rw [List.filterMap_map]
  exact List.filterMap_some

theorem error_notMem_map_ok (rs : List RoutedRecordSet) (e : GeoError) :
    Except.error e ∉ rs.map Except.ok := by
  simp

theorem eq_map_ok_of_no_error {items : List Item} (h : ∀ e, Except.error e ∉ items) :
    items = (sets items).map .ok := by
  induction items with
  | nil => rfl
  | cons x items ih =>
    cases x with
    | error e => exact absurd List.mem_cons_self (h e)
    | ok r =>
      have hi := ih fun e he => h e (List.mem_cons_of_mem _ he)
      exact congrArg (Except.ok r :: ·) hi

/-- Pieces that make a sequence without an error have none. -/
theorem exists_own {α : Type} {pieces : List α} {f : α → List Item} {all : List RoutedRecordSet}
    (h : pieces.flatMap f = all.map .ok) :
    ∃ own : α → List RoutedRecordSet,
      all = pieces.flatMap own ∧ ∀ a ∈ pieces, f a = (own a).map .ok := by
  refine ⟨fun a => sets (f a), ?_, ?_⟩
  · rw [← sets_map_ok all, ← h, sets, List.filterMap_flatMap]
    rfl
  · intro a ha
    apply eq_map_ok_of_no_error
    intro e he
    apply error_notMem_map_ok all e
    rw [← h]
    exact List.mem_flatMap.mpr ⟨a, ha, he⟩

/-! ## Pulling -/

section
variable {σ ℓ : Type}

/-- Pulls a number of times. -/
def pull (next : ℓ → Act σ (Option Item × ℓ)) (l : ℓ) : Nat → Act σ (List (Option Item))
  | 0 => return []
  | n + 1 => do
    let (item, l) ← next l
    return item :: (← pull next l n)

/-- A listing and its backend after a number of pulls. -/
def reached (next : ℓ → Act σ (Option Item × ℓ)) (l : ℓ) (s : σ) : Nat → ℓ × σ
  | 0 => (l, s)
  | n + 1 =>
    let out := (next (reached next l s n).1).run (reached next l s n).2
    (out.answer.2, out.state)

/-- What the pull after `n` others gives. -/
def given (next : ℓ → Act σ (Option Item × ℓ)) (l : ℓ) (s : σ) (n : Nat) : Option Item :=
  ((next (reached next l s n).1).run (reached next l s n).2).answer.1

theorem reached_succ (next : ℓ → Act σ (Option Item × ℓ)) (l : ℓ) (s : σ) (n : Nat) :
    reached next l s (n + 1) =
      reached next ((next l).run s).answer.2 ((next l).run s).state n := by
  induction n with
  | zero => rfl
  | succ n ih =>
    rw [reached, ih]
    rfl

theorem reached_add (next : ℓ → Act σ (Option Item × ℓ)) (l : ℓ) (s : σ) (n m : Nat) :
    reached next l s (n + m) = reached next (reached next l s n).1 (reached next l s n).2 m := by
  induction m with
  | zero => rfl
  | succ m ih =>
    rw [← Nat.add_assoc, reached, ih]
    rfl

theorem given_succ (next : ℓ → Act σ (Option Item × ℓ)) (l : ℓ) (s : σ) (n : Nat) :
    given next l s (n + 1) = given next ((next l).run s).answer.2 ((next l).run s).state n := by
  rw [given, reached_succ]
  rfl

/-- Further pulls are the pulls of the listing that the first one leaves. -/
theorem map_given_succ (next : ℓ → Act σ (Option Item × ℓ)) (l : ℓ) (s : σ) (n : Nat) :
    (List.range (n + 1)).map (given next l s) = ((next l).run s).answer.1 ::
      (List.range n).map (given next ((next l).run s).answer.2 ((next l).run s).state) := by
  rw [List.range_succ_eq_map, List.map_cons, List.map_map]
  exact congrArg _ (List.map_congr_left fun i _ => given_succ next l s i)

theorem run_pull (next : ℓ → Act σ (Option Item × ℓ)) (l : ℓ) (s : σ) (n : Nat) :
    ((pull next l n).run s).answer = (List.range n).map (given next l s) ∧
      ((pull next l n).run s).state = (reached next l s n).2 := by
  induction n generalizing l s with
  | zero => exact ⟨rfl, rfl⟩
  | succ n ih =>
    obtain ⟨hanswer, hstate⟩ := ih ((next l).run s).answer.2 ((next l).run s).state
    rw [pull, map_given_succ, reached_succ]
    simp only [Act.run_bind, Act.run_pure]
    rw [hanswer, hstate]
    exact ⟨rfl, rfl⟩

/-- Wherever `inv` holds a pull takes the first of the items in `left` off. -/
structure Pulls (next : ℓ → Act σ (Option Item × ℓ)) (inv : ℓ → σ → Prop)
    (left : ℓ → List Item) : Prop where
  step : ∀ l s, inv l s →
    let out := (next l).run s
    inv out.answer.2 out.state ∧ out.answer.1 = (left l).head? ∧
      left out.answer.2 = (left l).tail
  /-- Nothing is left behind an error. -/
  cut : ∀ l e items, left l = .error e :: items → items = []

variable {next : ℓ → Act σ (Option Item × ℓ)} {inv : ℓ → σ → Prop} {left : ℓ → List Item}

theorem Pulls.answer_pull (h : Pulls next inv left) {l : ℓ} {s : σ} (hi : inv l s) (n : Nat) :
    ((pull next l n).run s).answer = (List.range n).map fun i => (left l)[i]? := by
  induction n generalizing l s with
  | zero => rfl
  | succ n ih =>
    obtain ⟨hinv, hitem, hleft⟩ := h.step l s hi
    rw [pull, List.range_succ_eq_map, List.map_cons, List.map_map]
    simp only [Act.run_bind, Act.run_pure]
    rw [hitem, ih hinv, hleft, List.head?_eq_getElem?]
    simp only [List.getElem?_tail]
    rfl

/-- Whether a drain gives what pulls give, up to the end or the first error. -/
def DrainsByPulls (next : ℓ → Act σ (Option Item × ℓ)) (drain : ℓ → Act σ (List Item)) : Prop :=
  ∀ l s,
    let out := (next l).run s
    ((drain l).run s).answer =
      match out.answer.1 with
      | none => []
      | some (.error e) => [.error e]
      | some (.ok r) => .ok r :: ((drain out.answer.2).run out.state).answer

/-- A drain by pulls gives the record sets of the first pulls, and then drains what is left. -/
theorem DrainsByPulls.answer_of_given {drain : ℓ → Act σ (List Item)}
    (hd : DrainsByPulls next drain) {l : ℓ} {s : σ} {n : Nat} {sets : List RoutedRecordSet}
    (h : (List.range n).map (given next l s) = sets.map fun r => some (.ok r)) :
    ((drain l).run s).answer = sets.map .ok ++
      ((drain (reached next l s n).1).run (reached next l s n).2).answer := by
  induction n generalizing l s sets with
  | zero =>
    rw [List.map_eq_nil_iff.mp h.symm]
    rfl
  | succ n ih =>
    rw [map_given_succ] at h
    cases sets with
    | nil => cases h
    | cons r sets =>
      obtain ⟨hitem, hrest⟩ := List.cons.inj h
      rw [hd l s, hitem, reached_succ]
      exact congrArg (Except.ok r :: ·) (ih hrest)

/-- A drain by pulls gives all that is left, of which every pull takes one item. -/
theorem Pulls.answer_drain (h : Pulls next inv left) {drain : ℓ → Act σ (List Item)}
    (hd : DrainsByPulls next drain) {l : ℓ} {s : σ} (hi : inv l s) :
    ((drain l).run s).answer = left l := by
  unfold DrainsByPulls at hd
  generalize hitems : left l = items
  induction items generalizing l s with
  | nil =>
    obtain ⟨-, hitem, -⟩ := h.step l s hi
    rw [hitems] at hitem
    rw [hd]
    simp only [hitem, List.head?_nil]
  | cons item items ih =>
    obtain ⟨hinv, hitem, hleft⟩ := h.step l s hi
    rw [hitems] at hitem hleft
    rw [hd]
    cases item with
    | error e =>
      rw [h.cut l e items hitems]
      simp only [hitem, List.head?_cons]
    | ok r =>
      simp only [hitem, List.head?_cons]
      rw [ih hinv hleft]

end

end GeoRouting.Item
