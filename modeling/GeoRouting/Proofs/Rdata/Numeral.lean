import GeoRouting.Rdata
import Mathlib.Data.List.Basic
import Mathlib.Data.List.TakeWhile
import Mathlib.Data.Nat.Digits.Defs

/-!
# Numbers in record data

A text is read as a number exactly when it is written as one: white space, perhaps a plus sign,
decimal digits, and white space again. Zeros may lead, in any number, and what is written has to be
below the bound of numeric fields. Nothing is wrapped around.
-/

namespace GeoRouting

namespace Text

theorem isSpace_of_isDigit {c : Char} (h : c.isDigit = true) : isSpace c = false := by
  simp only [Char.isDigit, Bool.and_eq_true, decide_eq_true_eq, ge_iff_le,
    UInt32.le_iff_toNat_le] at h
  have hlow : 48 ≤ c.toNat := h.1
  have hhigh : c.toNat ≤ 57 := h.2
  simp only [isSpace, spaceRanges, List.any_cons, List.any_nil, Bool.or_eq_false_iff,
    Bool.and_eq_false_iff, decide_eq_false_iff_not, and_true]
  omega

/-- A text is what is left of it when it is trimmed, between white space. -/
theorem exists_eq_append_trim (s : String) :
    ∃ before after : List Char, (∀ c ∈ before, isSpace c = true) ∧
      (∀ c ∈ after, isSpace c = true) ∧ s.toList = before ++ (trim s).toList ++ after := by
  let opened := s.toList.dropWhile isSpace
  refine ⟨s.toList.takeWhile isSpace, (opened.reverse.takeWhile isSpace).reverse,
    fun _ => List.mem_takeWhile_imp, fun c hc => List.mem_takeWhile_imp (List.mem_reverse.mp hc),
    ?_⟩
  have hend : (trim s).toList ++ (opened.reverse.takeWhile isSpace).reverse = opened := by
    rw [trim, String.toList_ofList, ← List.reverse_append, List.takeWhile_append_dropWhile,
      List.reverse_reverse]
  rw [List.append_assoc, hend, List.takeWhile_append_dropWhile]

theorem dropWhile_isSpace_append {space rest : List Char} (h : ∀ c ∈ space, isSpace c = true)
    (hrest : ∀ c ∈ rest.head?, isSpace c = false) : (space ++ rest).dropWhile isSpace = rest := by
  rw [List.dropWhile_append_of_pos h]
  cases rest with
  | nil => rfl
  | cons c rest => exact List.dropWhile_cons_of_neg (by simp [hrest c rfl])

/-- Trimming leaves what stands between the white space. -/
theorem toList_trim {s : String} {before middle after : List Char}
    (hbefore : ∀ c ∈ before, isSpace c = true) (hafter : ∀ c ∈ after, isSpace c = true)
    (hhead : ∀ c ∈ middle.head?, isSpace c = false)
    (hlast : ∀ c ∈ middle.getLast?, isSpace c = false) (hne : middle ≠ [])
    (hs : s.toList = before ++ middle ++ after) : (trim s).toList = middle := by
  have hopened : s.toList.dropWhile isSpace = middle ++ after := by
    rw [hs, List.append_assoc]
    refine dropWhile_isSpace_append hbefore ?_
    rwa [List.head?_append_of_ne_nil _ hne]
  have hclosed : (middle ++ after).reverse.dropWhile isSpace = middle.reverse := by
    rw [List.reverse_append]
    refine dropWhile_isSpace_append (fun c hc => hafter c (List.mem_reverse.mp hc)) ?_
    rwa [List.head?_reverse]
  rw [trim, String.toList_ofList, hopened, hclosed, List.reverse_reverse]

end Text

namespace Rdata

/-- The number that decimal digits stand for. -/
def decimal (digits : List Char) : Nat :=
  Nat.ofDigits 10 (digits.reverse.map fun c => c.toNat - '0'.toNat)

/-- Whether a text is written as a number: white space, perhaps a plus sign, one decimal digit or
more, and white space. -/
inductive Numeral (raw : String) : Nat → Prop where
  | intro (before sign digits after : List Char)
      (hraw : raw.toList = before ++ (sign ++ digits) ++ after)
      (hbefore : ∀ c ∈ before, Text.isSpace c = true) (hsign : sign = [] ∨ sign = ['+'])
      (hne : digits ≠ []) (hdigits : ∀ c ∈ digits, c.isDigit = true)
      (hafter : ∀ c ∈ after, Text.isSpace c = true) : Numeral raw (decimal digits)

theorem decimal_eq_foldl (digits : List Char) :
    decimal digits = digits.foldl (fun n c => 10 * n + (c.toNat - '0'.toNat)) 0 := by
  rw [decimal, Nat.ofDigits_eq_foldr, List.foldr_map, List.foldr_reverse]
  simp only [Nat.cast_id, Nat.add_comm]

/-- Characters without a plus sign in front. -/
def unsigned : List Char → List Char
  | '+' :: cs => cs
  | cs => cs

theorem exists_eq_append_unsigned (cs : List Char) :
    ∃ sign, (sign = [] ∨ sign = ['+']) ∧ cs = sign ++ unsigned cs := by
  unfold unsigned
  split
  · exact ⟨['+'], .inr rfl, rfl⟩
  · exact ⟨[], .inl rfl, rfl⟩

theorem unsigned_append {sign digits : List Char} (hsign : sign = [] ∨ sign = ['+'])
    (hdigits : ∀ c ∈ digits, c.isDigit = true) : unsigned (sign ++ digits) = digits := by
  rcases hsign with rfl | rfl
  · unfold unsigned
    split
    · rename_i cs hcs
      rw [List.nil_append] at hcs
      have hplus := hdigits '+' (hcs ▸ List.mem_cons_self)
      cases hplus
    · rfl
  · rfl

/-- A text is written as a number when it has digits and nothing else between its sign and its
white space. -/
theorem numeral_iff {raw : String} {n : Nat} :
    Numeral raw n ↔
      let digits := unsigned (Text.trim raw).toList
      digits ≠ [] ∧ (∀ c ∈ digits, c.isDigit = true) ∧ n = decimal digits := by
  constructor
  · rintro ⟨before, sign, digits, after, hraw, hbefore, hsign, hne, hdigits, hafter⟩
    have hhead : ∀ c ∈ (sign ++ digits).head?, Text.isSpace c = false := by
      intro c hc
      rcases hsign with rfl | rfl
      · exact Text.isSpace_of_isDigit (hdigits c (List.mem_of_mem_head? hc))
      · rw [← Option.some.inj hc]
        decide
    have hlast : ∀ c ∈ (sign ++ digits).getLast?, Text.isSpace c = false := by
      intro c hc
      rw [List.getLast?_append_of_ne_nil sign hne] at hc
      exact Text.isSpace_of_isDigit (hdigits c (List.mem_of_mem_getLast? hc))
    have htrim := Text.toList_trim hbefore hafter hhead hlast
      (List.append_ne_nil_of_right_ne_nil sign hne) hraw
    rw [htrim, unsigned_append hsign hdigits]
    exact ⟨hne, hdigits, rfl⟩
  · rintro ⟨hne, hdigits, hn⟩
    obtain ⟨before, after, hbefore, hafter, hraw⟩ := Text.exists_eq_append_trim raw
    obtain ⟨sign, hsign, htrim⟩ := exists_eq_append_unsigned (Text.trim raw).toList
    rw [hn]
    exact .intro before sign _ after (htrim ▸ hraw) hbefore hsign hne hdigits hafter

theorem Numeral.unique {raw : String} {n m : Nat} (hn : Numeral raw n) (hm : Numeral raw m) :
    n = m :=
  (numeral_iff.mp hn).2.2.trans (numeral_iff.mp hm).2.2.symm

/-- A text is read as the number that it is written as, if that is below the bound. -/
theorem number?_eq_some_iff {raw : String} {n : Nat} :
    number? raw = some n ↔ Numeral raw n ∧ n ≤ 4294967295 := by
  have hlimit (m : Nat) : m < numberLimit ↔ m ≤ 4294967295 := Nat.lt_succ_iff
  have hnumber : number? raw =
      let digits := unsigned (Text.trim raw).toList
      if digits ≠ [] ∧ digits.all Char.isDigit = true then
        if decimal digits < numberLimit then some (decimal digits) else none
      else none := by
    simp only [decimal_eq_foldl]
    rfl
  rw [hnumber, numeral_iff]
  generalize unsigned (Text.trim raw).toList = digits
  simp only [List.all_eq_true, ← hlimit]
  by_cases hdigits : digits ≠ [] ∧ ∀ c ∈ digits, c.isDigit = true
  · rw [if_pos hdigits]
    by_cases hn : decimal digits < numberLimit
    · rw [if_pos hn, Option.some.injEq]
      constructor
      · rintro rfl
        exact ⟨⟨hdigits.1, hdigits.2, rfl⟩, hn⟩
      · exact fun h => h.1.2.2.symm
    · rw [if_neg hn]
      refine iff_of_false (by simp) ?_
      rintro ⟨⟨-, -, rfl⟩, hlt⟩
      exact hn hlt
  · rw [if_neg hdigits]
    refine iff_of_false (by simp) ?_
    rintro ⟨⟨hne, hall, -⟩, -⟩
    exact hdigits ⟨hne, hall⟩

end Rdata

end GeoRouting
