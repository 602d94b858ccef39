/-!
# Dictionaries in key order

A dictionary lists its entries by ascending key, so two dictionaries with the same
entries are equal and every listing of one is already in the order it is shown in.
Strings are ordered by code point, which is also the order of their UTF-8 bytes.
-/

namespace GeoRouting

structure Dict (α : Type) where
  entries : List (String × α)
  ascending : entries.Pairwise fun a b => a.1 < b.1
deriving DecidableEq, Repr

namespace Dict
variable {α β : Type}

/-- Puts an entry at its place, over any entry of the same key. -/
def insertEntry (key : String) (value : α) : List (String × α) → List (String × α)
  | [] => [(key, value)]
  | e :: es =>
    if key < e.1 then (key, value) :: e :: es
    else if e.1 < key then e :: insertEntry key value es
    else (key, value) :: es

theorem key_of_mem_insertEntry {key : String} {value : α} {es : List (String × α)}
    {e : String × α} (h : e ∈ insertEntry key value es) : e.1 = key ∨ e ∈ es := by
  induction es with
  | nil => simp_all [insertEntry]
  | cons a es ih =>
    simp only [insertEntry] at h
    split at h
    · simp only [List.mem_cons] at h ⊢
      rcases h with rfl | h <;> simp_all
    · split at h <;> simp only [List.mem_cons] at h ⊢ <;> rcases h with rfl | h
      · simp
      · rcases ih h with h | h <;> simp [h]
      · simp
      · simp [h]

theorem insertEntry_ascending (key : String) (value : α) {es : List (String × α)}
    (h : es.Pairwise fun a b => a.1 < b.1) :
    (insertEntry key value es).Pairwise fun a b => a.1 < b.1 := by
  induction es with
  | nil => simp [insertEntry]
  | cons a es ih =>
    rw [List.pairwise_cons] at h
    simp only [insertEntry]
    split
    · rename_i hk
      refine List.pairwise_cons.2 ⟨?_, List.pairwise_cons.2 h⟩
      intro b hb
      rcases List.mem_cons.1 hb with rfl | hb
      · exact hk
      · exact String.lt_trans hk (h.1 b hb)
    · split
      · rename_i hk
        refine List.pairwise_cons.2 ⟨?_, ih h.2⟩
        intro b hb
        rcases key_of_mem_insertEntry hb with hb | hb
        · simpa [hb] using hk
        · exact h.1 b hb
      · rename_i h₁ h₂
        have hk : key = a.1 :=
          String.le_antisymm (String.not_lt.1 h₂) (String.not_lt.1 h₁)
        exact List.pairwise_cons.2 ⟨fun b hb => hk ▸ h.1 b hb, h.2⟩

def empty : Dict α := ⟨[], .nil⟩

def insert (d : Dict α) (key : String) (value : α) : Dict α :=
  ⟨insertEntry key value d.entries, insertEntry_ascending key value d.ascending⟩

/-- Reads entries in the given order; the last one of a key stays. -/
def ofList (entries : List (String × α)) : Dict α :=
  entries.foldl (fun d e => d.insert e.1 e.2) empty

def single (key : String) (value : α) : Dict α := empty.insert key value

def get? (d : Dict α) (key : String) : Option α :=
  (d.entries.find? fun e => e.1 == key).map Prod.snd

def contains (d : Dict α) (key : String) : Bool := d.entries.any fun e => e.1 == key

def keys (d : Dict α) : List String := d.entries.map Prod.fst

def values (d : Dict α) : List α := d.entries.map Prod.snd

def size (d : Dict α) : Nat := d.entries.length

/-- The same keys with changed values. -/
def map (f : α → β) (d : Dict α) : Dict β :=
  ⟨d.entries.map fun e => (e.1, f e.2), List.pairwise_map.2 d.ascending⟩

def isEmpty (d : Dict α) : Bool := d.entries.isEmpty

theorem keys_ascending (d : Dict α) : d.keys.Pairwise (· < ·) :=
  List.pairwise_map.2 d.ascending

theorem eq_of_entries_eq {d e : Dict α} (h : d.entries = e.entries) : d = e := by
  cases d; cases e; cases h; rfl

end Dict

end GeoRouting
