import GeoRouting.DomainName
import GeoRouting.Text.Blank
import Mathlib.Data.List.DropRight

/-!
# Spellings

A record type can be spelled in letters of either case, and a domain name with any number of dots
at its end besides. Two names have the same key exactly when they are spellings of one name.
-/

namespace GeoRouting

/-! ## Letter case -/

namespace Text

theorem toNat_toLower (c : Char) :
    c.toLower.toNat = if 65 ≤ c.toNat ∧ c.toNat ≤ 90 then c.toNat + 32 else c.toNat := by
  have hgap : (('a' : Char).val - ('A' : Char).val).toNat = 32 := rfl
  by_cases h : c.val ≥ ('A' : Char).val ∧ c.val ≤ ('Z' : Char).val
  · have hlower : c.toLower.toNat = (c.val + (('a' : Char).val - ('A' : Char).val)).toNat :=
      congrArg Char.toNat (dif_pos h)
    have hlow : 65 ≤ c.toNat := UInt32.le_iff_toNat_le.mp h.1
    have hhigh : c.toNat ≤ 90 := UInt32.le_iff_toNat_le.mp h.2
    rw [hlower, UInt32.toNat_add, hgap, if_pos ⟨hlow, hhigh⟩]
    exact Nat.mod_eq_of_lt (show c.toNat + 32 < 2 ^ 32 by omega)
  · have hlower : c.toLower = c := dif_neg h
    rw [hlower, if_neg]
    exact fun hn => h (hn.imp UInt32.le_iff_toNat_le.mpr UInt32.le_iff_toNat_le.mpr)

theorem toNat_toUpper (c : Char) :
    c.toUpper.toNat = if 97 ≤ c.toNat ∧ c.toNat ≤ 122 then c.toNat - 32 else c.toNat := by
  have hgap : (('A' : Char).val - ('a' : Char).val).toNat = 2 ^ 32 - 32 := rfl
  by_cases h : ('a' : Char).val ≤ c.val ∧ c.val ≤ ('z' : Char).val
  · have hupper : c.toUpper.val = c.val + (('A' : Char).val - ('a' : Char).val) := by
      rw [show c.toUpper = ⟨_, _⟩ from dif_pos h]
    have hlow : 97 ≤ c.toNat := UInt32.le_iff_toNat_le.mp h.1
    have hhigh : c.toNat ≤ 122 := UInt32.le_iff_toNat_le.mp h.2
    have hwrap : (c.toNat + (2 ^ 32 - 32)) % 2 ^ 32 = c.toNat - 32 := by omega
    rw [Char.toNat, hupper, UInt32.toNat_add, hgap, if_pos ⟨hlow, hhigh⟩]
    exact hwrap
  · have hupper : c.toUpper = c := dif_neg h
    rw [hupper, if_neg]
    exact fun hn => h (hn.imp UInt32.le_iff_toNat_le.mpr UInt32.le_iff_toNat_le.mpr)

theorem toUpper_toLower (c : Char) : c.toLower.toUpper = c.toUpper := by
  apply Char.toNat_inj.mp
  rw [toNat_toUpper, toNat_toUpper, toNat_toLower]
  grind

theorem isSpace_toLower (c : Char) : isSpace c.toLower = isSpace c := by
  simp only [isSpace, spaceRanges, toNat_toLower, List.any_cons, List.any_nil]
  split
  · rw [Bool.eq_iff_iff]
    simp only [Bool.or_eq_true, Bool.and_eq_true, decide_eq_true_eq, Bool.false_eq_true, or_false]
    omega
  · rfl

theorem upper_lower (s : String) : upper (lower s) = upper s := by
  apply String.toList_inj.mp
  simp only [upper, lower, String.toList_map, List.map_map]
  exact List.map_congr_left fun c _ => toUpper_toLower c

theorem isBlank_lower (s : String) : isBlank (lower s) = isBlank s := by
  rw [isBlank, lower, String.toList_map, List.all_map]
  exact congrArg s.toList.all (funext isSpace_toLower)

section
variable {s t : String}

theorem upper_of_lower (h : lower s = lower t) : upper s = upper t := by
  rw [← upper_lower s, h, upper_lower]

theorem isBlank_of_lower (h : lower s = lower t) : isBlank s = isBlank t := by
  rw [← isBlank_lower s, h, isBlank_lower]

end

end Text

/-! ## Dots at the end -/

namespace DomainName

/-- A number of dots. -/
def dots (k : Nat) : String := .ofList (List.replicate k '.')

/-- Whether two names are equal up to the case of letters and the dots at their end. -/
def Respelled (a b : String) : Prop := ∃ k l, Text.lower (a ++ dots k) = Text.lower (b ++ dots l)

theorem toList_lower_append_dots (a : String) (k : Nat) :
    (Text.lower (a ++ dots k)).toList = (Text.lower a).toList ++ List.replicate k '.' := by
  have hdot : Char.toLower '.' = '.' := by decide
  simp only [Text.lower, dots, String.toList_map, String.toList_append, String.toList_ofList,
    List.map_append, List.map_replicate, hdot]

theorem key_eq (a : String) : key a = (Text.lower a).toList.rdropWhile (· == '.') := rfl

theorem key_append_dots (a : String) (k : Nat) : key (a ++ dots k) = key a := by
  rw [key_eq, key_eq, toList_lower_append_dots]
  induction k with
  | zero => rw [List.replicate_zero, List.append_nil]
  | succ k ih =>
    rw [List.replicate_succ', ← List.append_assoc, List.rdropWhile_concat,
      if_pos (beq_self_eq_true '.'), ih]

/-- A name in lower case is its key with some dots after it. -/
theorem exists_lower_eq (a : String) :
    ∃ k, (Text.lower a).toList = key a ++ List.replicate k '.' := by
  have hdots : (Text.lower a).toList.rtakeWhile (· == '.') =
      List.replicate ((Text.lower a).toList.rtakeWhile (· == '.')).length '.' := by
    apply List.eq_replicate_of_mem
    intro c hc
    have hdot := List.mem_rtakeWhile_imp hc
    exact beq_iff_eq.mp hdot
  have hwhole : key a ++ (Text.lower a).toList.rtakeWhile (· == '.') = (Text.lower a).toList :=
    List.rdropWhile_append_rtakeWhile
  rw [hdots] at hwhole
  exact ⟨_, hwhole.symm⟩

/-- Names are spellings of one another when they have the same key. -/
theorem respelled_iff {a b : String} : Respelled a b ↔ key a = key b := by
  constructor
  · rintro ⟨k, l, h⟩
    rw [← key_append_dots a k, key_of_lower h, key_append_dots]
  · intro h
    obtain ⟨k, ha⟩ := exists_lower_eq a
    obtain ⟨l, hb⟩ := exists_lower_eq b
    refine ⟨l, k, String.toList_inj.mp ?_⟩
    rw [toList_lower_append_dots, toList_lower_append_dots, ha, hb, h, List.append_assoc,
      List.append_assoc, List.replicate_append_replicate, List.replicate_append_replicate,
      Nat.add_comm]

theorem respelled_equivalence : Equivalence Respelled where
  refl _ := respelled_iff.mpr rfl
  symm h := respelled_iff.mpr (respelled_iff.mp h).symm
  trans h h' := respelled_iff.mpr ((respelled_iff.mp h).trans (respelled_iff.mp h'))

theorem same_iff_respelled {a b : String} : same a b = true ↔ Respelled a b :=
  same_iff.trans respelled_iff.symm

theorem respelled_of_lower {a b : String} (h : Text.lower a = Text.lower b) : Respelled a b :=
  respelled_iff.mpr (key_of_lower h)

/-- Names that are made of dots are all one name. -/
example : Respelled "." "..." := ⟨2, 0, rfl⟩

end DomainName

end GeoRouting
