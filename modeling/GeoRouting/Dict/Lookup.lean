import GeoRouting.Dict

/-!
# Looking up in dictionaries

What a key gives determines a dictionary: after an insertion its key gives the new value and
every other key what it gave before, and two dictionaries in which every key gives the same
are equal. The keys are those that give something, each once, and the values are what they give.
Reading the entries of a dictionary gives the dictionary back.
-/

namespace GeoRouting.Dict
variable {α : Type}

theorem find?_insertEntry (key : String) (value : α) (es : List (String × α)) (k : String) :
    (insertEntry key value es).find? (·.1 == k) =
      if key = k then some (key, value) else es.find? (·.1 == k) := by
  induction es with
  | nil => by_cases h : key = k <;> simp [insertEntry, h]
  | cons e es ih =>
    simp only [insertEntry]
    split
    · by_cases h : key = k <;> simp [List.find?_cons, h]
    · split
      · rename_i hk
        by_cases he : e.1 = k
        · have h : key ≠ k := fun h => String.lt_irrefl key (by simp_all)
          simp [he, h]
        · simp [he, ih]
      · rename_i h₁ h₂
        have h : key = e.1 := String.le_antisymm (String.not_lt.1 h₂) (String.not_lt.1 h₁)
        by_cases hk : key = k <;> simp [← h, hk]

@[simp] theorem get?_empty (k : String) : (empty : Dict α).get? k = none := rfl

@[simp] theorem get?_insert (d : Dict α) (key : String) (value : α) (k : String) :
    (d.insert key value).get? k = if key = k then some value else d.get? k := by
  simp only [get?, insert, find?_insertEntry]
  split <;> simp

@[simp] theorem get?_single (key : String) (value : α) (k : String) :
    (single key value).get? k = if key = k then some value else none := by
  simp [single]

@[simp] theorem get?_map {β : Type} (f : α → β) (d : Dict α) (k : String) :
    (d.map f).get? k = (d.get? k).map f := by
  rw [get?, get?, map, List.find?_map, Option.map_map, Option.map_map]
  rfl

theorem contains_eq_isSome (d : Dict α) (k : String) : d.contains k = (d.get? k).isSome := by
  rw [contains, get?, Option.isSome_map]
  induction d.entries with
  | nil => rfl
  | cons e es ih => rw [List.any_cons, List.find?_cons]; cases e.1 == k <;> simp [ih]

/-- Of entries with one key the last one counts. -/
theorem get?_ofList (es : List (String × α)) (k : String) :
    (ofList es).get? k = (es.reverse.find? (·.1 == k)).map Prod.snd := by
  suffices h : ∀ d : Dict α, (es.foldl (fun d e => d.insert e.1 e.2) d).get? k =
      ((es.reverse.find? (·.1 == k)).map Prod.snd).or (d.get? k) by
    simpa [ofList] using h empty
  induction es with
  | nil => simp
  | cons e es ih =>
    intro d
    rw [List.foldl_cons, ih, get?_insert, List.reverse_cons, List.find?_append]
    by_cases h : e.1 = k <;> cases es.reverse.find? (·.1 == k) <;> simp [h]

/-- A key beyond all others goes to the end. -/
theorem insertEntry_of_greatest {key : String} {value : α} {es : List (String × α)}
    (h : ∀ e ∈ es, e.1 < key) : insertEntry key value es = es ++ [(key, value)] := by
  induction es with
  | nil => rfl
  | cons e es ih =>
    have he := h e List.mem_cons_self
    have hk : ¬key < e.1 := String.lt_asymm he
    rw [insertEntry, if_neg hk, if_pos he, ih fun e' h' => h e' (List.mem_cons_of_mem e h')]
    rfl

@[simp] theorem ofList_entries (d : Dict α) : ofList d.entries = d := by
  suffices h : ∀ (es : List (String × α)) (b : Dict α), (∀ x ∈ b.entries, ∀ y ∈ es, x.1 < y.1) →
      (es.Pairwise fun x y => x.1 < y.1) →
      (es.foldl (fun d e => d.insert e.1 e.2) b).entries = b.entries ++ es from
    eq_of_entries_eq (h d.entries empty (by simp [empty]) d.ascending)
  intro es
  induction es with
  | nil => simp
  | cons e es ih =>
    intro b hb hes
    rw [List.pairwise_cons] at hes
    have hi : (b.insert e.1 e.2).entries = b.entries ++ [e] :=
      insertEntry_of_greatest fun x hx => hb x hx e List.mem_cons_self
    rw [List.foldl_cons, ih _ _ hes.2, hi, List.append_assoc, List.singleton_append]
    intro x hx y hy
    rw [hi, List.mem_append, List.mem_singleton] at hx
    rcases hx with hx | rfl
    · exact hb x hx y (List.mem_cons_of_mem e hy)
    · exact hes.1 y hy

/-- No entry of a dictionary is hidden by another. -/
theorem get?_eq_some_iff {d : Dict α} {k : String} {value : α} :
    d.get? k = some value ↔ (k, value) ∈ d.entries := by
  rcases d with ⟨es, h⟩
  simp only [get?]
  induction es with
  | nil => simp
  | cons e es ih =>
    rw [List.pairwise_cons] at h
    rw [List.find?_cons, List.mem_cons]
    by_cases hk : e.1 = k
    · subst hk
      have hn : (e.1, value) ∉ es := fun hm => String.lt_irrefl e.1 (h.1 (e.1, value) hm)
      simp [hn, Prod.ext_iff, eq_comm]
    · have hn : (k, value) ≠ e := fun he => hk (he ▸ rfl)
      rw [beq_false_of_ne hk, ih h.2]
      simp [hn]

theorem mem_keys_iff {d : Dict α} {k : String} : k ∈ d.keys ↔ ∃ value, d.get? k = some value := by
  simp only [get?_eq_some_iff]
  constructor
  · intro h
    obtain ⟨e, he, rfl⟩ := List.mem_map.mp h
    exact ⟨e.2, he⟩
  · rintro ⟨value, h⟩
    exact List.mem_map.mpr ⟨_, h, rfl⟩

theorem mem_keys_ofList {es : List (String × α)} {k : String} :
    k ∈ (ofList es).keys ↔ k ∈ es.map Prod.fst := by
  rw [mem_keys_iff, ← Option.isSome_iff_exists, get?_ofList, Option.isSome_map, List.find?_isSome]
  simp

theorem keys_nodup (d : Dict α) : d.keys.Nodup := by
  refine d.keys_ascending.imp ?_
  rintro k _ h rfl
  exact String.lt_irrefl k h

/-- Dictionaries in which every key gives the same are equal. -/
theorem ext_get? {d e : Dict α} (h : ∀ k, d.get? k = e.get? k) : d = e := by
  apply eq_of_entries_eq
  have hm : ∀ p : String × α, p ∈ d.entries ↔ p ∈ e.entries := fun p => by
    rw [← get?_eq_some_iff, h, get?_eq_some_iff]
  rcases d with ⟨xs, hx⟩
  rcases e with ⟨ys, hy⟩
  clear h
  induction xs generalizing ys with
  | nil =>
    cases ys with
    | nil => rfl
    | cons y ys => exact absurd ((hm y).2 List.mem_cons_self) List.not_mem_nil
  | cons x xs ih =>
    cases ys with
    | nil => exact absurd ((hm x).1 List.mem_cons_self) List.not_mem_nil
    | cons y ys =>
      rw [List.pairwise_cons] at hx hy
      have hxy : x = y := by
        rcases List.mem_cons.1 ((hm x).1 List.mem_cons_self) with he | hx'
        · exact he
        · rcases List.mem_cons.1 ((hm y).2 List.mem_cons_self) with he | hy'
          · exact he.symm
          · exact absurd (hx.1 y hy') (String.lt_asymm (hy.1 x hx'))
      subst hxy
      have ht : ∀ p : String × α, p ∈ xs ↔ p ∈ ys := fun p => by
        have hp := hm p
        simp only [List.mem_cons] at hp
        constructor
        · intro h
          refine (hp.1 (.inr h)).resolve_left fun he => ?_
          exact String.lt_irrefl x.1 (he ▸ hx.1 p h)
        · intro h
          refine (hp.2 (.inr h)).resolve_left fun he => ?_
          exact String.lt_irrefl x.1 (he ▸ hy.1 p h)
      exact congrArg (x :: ·) (ih hx.2 ys hy.2 ht)

/-- Putting what a key gives already changes nothing. -/
theorem insert_of_get? {d : Dict α} {key : String} {value : α} (h : d.get? key = some value) :
    d.insert key value = d := by
  refine ext_get? fun k => ?_
  rw [get?_insert]
  split
  · rename_i hk
    rw [← hk, h]
  · rfl

theorem mem_values_iff {d : Dict α} {value : α} :
    value ∈ d.values ↔ ∃ k, d.get? k = some value := by
  simp only [get?_eq_some_iff, values, List.mem_map, Prod.exists]
  constructor
  · rintro ⟨k, v, h, rfl⟩
    exact ⟨k, h⟩
  · rintro ⟨k, h⟩
    exact ⟨k, value, h, rfl⟩

end GeoRouting.Dict
