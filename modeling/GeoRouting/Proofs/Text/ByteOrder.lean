import Mathlib.Data.String.Basic

/-!
# Texts in byte order

Texts are compared by code points. Comparing the bytes of their UTF-8 encodings gives the same
order: the greater of two characters has the greater byte where their encodings first differ, and
neither encoding is the beginning of the other.
-/

namespace GeoRouting.Text

/-- The bytes of a text in UTF-8. -/
def bytes (s : String) : List Nat := s.toByteArray.data.toList.map UInt8.toNat

/-- The bytes of a character in UTF-8. -/
def charBytes (c : Char) : List Nat := (String.utf8EncodeChar c).map UInt8.toNat

theorem bytes_eq_flatMap (s : String) : bytes s = s.toList.flatMap charBytes := by
  rw [bytes, ← String.utf8Encode_toList, List.utf8Encode, List.data_toByteArray,
    List.toList_toArray, List.map_flatMap]
  rfl

theorem charBytes_append_lt {c d : Char} (h : c < d) (xs ys : List Nat) :
    charBytes c ++ xs < charBytes d ++ ys := by
  have hval : c.val.toNat < d.val.toNat := h
  have hmax : d.val.toNat < 0x110000 := by
    have hvalid := d.valid
    simp only [UInt32.isValidChar, Nat.isValidChar] at hvalid
    omega
  simp only [charBytes, String.utf8EncodeChar]
  split_ifs <;>
    simp only [List.map_cons, List.map_nil, List.cons_append, List.nil_append,
      List.cons_lt_cons_iff, UInt8.toNat_ofNat'] <;>
    simp (disch := omega) only [Nat.mod_eq_of_lt] <;>
    omega

theorem charBytes_ne_nil (c : Char) : charBytes c ≠ [] := by
  simp [charBytes, String.utf8EncodeChar_ne_nil]

theorem flatMap_charBytes_lt {xs ys : List Char} (h : xs < ys) :
    xs.flatMap charBytes < ys.flatMap charBytes := by
  induction xs generalizing ys with
  | nil =>
    cases ys with
    | nil => exact absurd h (lt_irrefl _)
    | cons d ys =>
      obtain ⟨b, bs, hd⟩ := List.exists_cons_of_ne_nil (charBytes_ne_nil d)
      rw [List.flatMap_cons, hd]
      exact List.nil_lt_cons b _
  | cons c xs ih =>
    cases ys with
    | nil => exact absurd h (List.not_lt_nil _)
    | cons d ys =>
      rw [List.flatMap_cons, List.flatMap_cons]
      rcases List.cons_lt_cons_iff.mp h with hcd | ⟨rfl, hrest⟩
      · exact charBytes_append_lt hcd _ _
      · exact List.append_left_lt (ih hrest)

/-- The order of texts is the order of their bytes. -/
theorem le_iff_bytes_le {s t : String} : s ≤ t ↔ bytes s ≤ bytes t := by
  have hmono : StrictMono (List.flatMap charBytes) := fun _ _ h => flatMap_charBytes_lt h
  rw [bytes_eq_flatMap, bytes_eq_flatMap, hmono.le_iff_le, String.le_iff_toList_le]

theorem lt_iff_bytes_lt {s t : String} : s < t ↔ bytes s < bytes t := by
  rw [← not_le, ← not_le, le_iff_bytes_le]

end GeoRouting.Text
