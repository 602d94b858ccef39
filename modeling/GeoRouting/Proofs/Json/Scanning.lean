import GeoRouting.Json.Printer
import GeoRouting.Json.Token
import Mathlib.Tactic.SplitIfs

/-!
# Scanning what was written

The text of a value scans to the tokens of that value: every string to its characters, whatever was
escaped in it, and every integer of a machine word to that integer. A number ends where something
follows that is no part of a number, and after a value that is a comma, the end of a container or
the end of the text.
-/

namespace GeoRouting.Json

namespace Token

/-! ## Strings -/

theorem hexUnit_of_control {n : Nat} (h : n < 0x20) :
    hexUnit '0' '0' (hexDigit (n / 16)) (hexDigit (n % 16)) = some n := by
  revert n
  decide

theorem scanText_short {c e : Char} (h : unescape e = some c) (hu : e ≠ 'u') (cs : List Char) :
    scanText ('\\' :: e :: cs) = (scanText cs).map fun p => (c.toNat :: p.1, p.2) := by
  rw [scanText.eq_def]
  split
  · simp_all
  · simp_all
  · simp_all
  · rename_i heq
    simp only [List.cons.injEq, true_and] at heq
    obtain ⟨rfl, rfl⟩ := heq
    rw [h]
    cases scanText cs <;> rfl
  · rename_i hshort heq
    obtain ⟨rfl, rfl⟩ := List.cons.inj heq
    exact absurd rfl (hshort e cs rfl)

theorem scanText_plain {c : Char} (hquote : c ≠ '"') (hslash : c ≠ '\\')
    (hcontrol : ¬ c.toNat < 0x20) (cs : List Char) :
    scanText (c :: cs) = (scanText cs).map fun p => (c.toNat :: p.1, p.2) := by
  rw [scanText.eq_def]
  split
  · simp_all
  · simp_all
  · simp_all
  · simp_all
  · rename_i heq
    obtain ⟨rfl, rfl⟩ := List.cons.inj heq
    rw [if_neg hcontrol]
    cases scanText cs <;> rfl

/-- Whatever stands for a character in a string is read as that character. -/
theorem scanText_escape (c : Char) (cs : List Char) :
    scanText (escape c ++ cs) = (scanText cs).map fun p => (c.toNat :: p.1, p.2) := by
  unfold escape
  split_ifs with hquote hslash hb hf hn hr ht hcontrol
  · exact scanText_short (by rw [hquote]; rfl) (by decide) cs
  · exact scanText_short (by rw [hslash]; rfl) (by decide) cs
  · exact scanText_short (by rw [hb]; rfl) (by decide) cs
  · exact scanText_short (by rw [hf]; rfl) (by decide) cs
  · exact scanText_short (by rw [hn]; rfl) (by decide) cs
  · exact scanText_short (by rw [hr]; rfl) (by decide) cs
  · exact scanText_short (by rw [ht]; rfl) (by decide) cs
  · simp only [List.cons_append, List.nil_append, scanText]
    rw [hexUnit_of_control hcontrol]
    cases scanText cs <;> rfl
  · exact scanText_plain hquote hslash hcontrol cs

theorem scanText_quoted (cs rest : List Char) :
    scanText (cs.flatMap escape ++ '"' :: rest) = some (cs.map Char.toNat, rest) := by
  induction cs with
  | nil => rfl
  | cons c cs ih =>
    rw [List.flatMap_cons, List.append_assoc, scanText_escape, ih]
    rfl

theorem not_surrogate (c : Char) :
    isHighSurrogate c.toNat = false ∧ isLowSurrogate c.toNat = false := by
  have hvalid : c.toNat < 0xD800 ∨ 0xDFFF < c.toNat ∧ c.toNat < 0x110000 := c.valid
  simp only [isHighSurrogate, isLowSurrogate, Bool.and_eq_false_iff, decide_eq_false_iff_not]
  omega

/-- Characters are no surrogates, so nothing is joined. -/
theorem joinUnits_map_toNat (cs : List Char) : joinUnits (cs.map Char.toNat) = some cs := by
  induction cs with
  | nil => rfl
  | cons c cs ih =>
    obtain ⟨hhigh, hlow⟩ := not_surrogate c
    cases cs with
    | nil => simp [joinUnits, hhigh, hlow]
    | cons d cs =>
      rw [List.map_cons, List.map_cons, joinUnits, hhigh, hlow, ← List.map_cons, ih]
      simp

/-! ## Numbers -/

/-- Whether a text can stand after a value: nothing in it goes on with a number. -/
def Ends (rest : List Char) : Prop := ∀ c ∈ rest.head?, c = ',' ∨ c = ']' ∨ c = '}'

/-- A number of more than one digit does not start with a zero. -/
theorem head?_toDigits {n : Nat} (h : (Nat.toDigits 10 n).head? = some '0') : n = 0 := by
  induction n using Nat.strongRecOn with
  | ind n ih =>
    by_cases hn : n < 10
    · rw [Nat.toDigits_of_lt_base hn] at h
      exact Nat.digitChar_eq_zero.mp (Option.some.inj h)
    · obtain ⟨d, ds, hcons⟩ := List.exists_cons_of_ne_nil (@Nat.toDigits_ne_nil (n / 10) 10)
      rw [Nat.toDigits_of_base_le (by omega) (by omega), hcons] at h
      have hquotient := ih (n / 10) (by omega) (hcons ▸ h)
      omega

theorem scanDigits_append {digits rest : List Char} (hall : ∀ c ∈ digits, c.isDigit = true)
    (hne : digits ≠ []) (hrest : Ends rest) :
    scanDigits (digits ++ rest) = some (digits, rest) := by
  have hstop : rest.takeWhile Char.isDigit = [] ∧ rest.dropWhile Char.isDigit = rest := by
    cases rest with
    | nil => exact ⟨rfl, rfl⟩
    | cons c rest =>
      have hc : c.isDigit = false := by
        rcases hrest c rfl with rfl | rfl | rfl <;> rfl
      simp [hc]
  rw [scanDigits, List.takeWhile_append_of_pos hall, List.dropWhile_append_of_pos hall, hstop.1,
    hstop.2, List.append_nil]
  split
  · exact absurd rfl hne
  · rfl

theorem scanLiteral_toDigits (negative : Bool) (n : Nat) {rest : List Char} (hrest : Ends rest) :
    scanLiteral negative (Nat.toDigits 10 n ++ rest) =
      some (⟨negative, Nat.toDigits 10 n, none, none⟩, rest) := by
  have hwhole : scanWhole (Nat.toDigits 10 n ++ rest) = some (Nat.toDigits 10 n, rest) := by
    have hdigits : ∀ c ∈ Nat.toDigits 10 n, c.isDigit = true :=
      fun c hc => Nat.isDigit_of_mem_toDigits (by omega) (by omega) hc
    rw [scanWhole, scanDigits_append hdigits Nat.toDigits_ne_nil hrest]
    refine if_neg ?_
    rintro ⟨hzero, hlength⟩
    rw [head?_toDigits hzero] at hlength
    exact hlength rfl
  have hfraction : scanFraction rest = some (none, rest) := by
    cases rest with
    | nil => rfl
    | cons c rest => rcases hrest c rfl with rfl | rfl | rfl <;> rfl
  have hexponent : scanExponent rest = some (none, rest) := by
    cases rest with
    | nil => rfl
    | cons c rest => rcases hrest c rfl with rfl | rfl | rfl <;> rfl
  rw [scanLiteral, hwhole]
  simp [hfraction, hexponent]

end Token

namespace Literal

theorem le_ofDigitChars (digits : List Char) (n : Nat) : n ≤ Nat.ofDigitChars 10 digits n := by
  induction digits generalizing n with
  | nil => exact Nat.le_refl n
  | cons c digits ih =>
    rw [Nat.ofDigitChars_cons]
    have hrest := ih (10 * n + (c.toNat - '0'.toNat))
    omega

/-- A number that fits the word is collected as it is. -/
theorem absorb_eq {digits : List Char} {n : Nat} (h : Nat.ofDigitChars 10 digits n < wordLimit) :
    absorb n digits = (Nat.ofDigitChars 10 digits n, 0) := by
  induction digits generalizing n with
  | nil => rfl
  | cons c digits ih =>
    rw [Nat.ofDigitChars_cons] at h ⊢
    have hle := le_ofDigitChars digits (10 * n + (c.toNat - '0'.toNat))
    rw [absorb]
    exact (if_pos (Nat.lt_of_le_of_lt hle h)).trans (ih h)

end Literal

/-- Whether a number is an integer of a machine word, with or without a sign. -/
def Number.FitsWord : Number → Prop
  | .integer n => Int64.minValue.toInt ≤ n ∧ n < UInt64.size
  | .real _ => False

theorem Literal.number?_toDigits {n : Int} (h : Number.FitsWord (.integer n)) :
    number? ⟨decide (n < 0), Nat.toDigits 10 n.natAbs, none, none⟩ = some (.integer n) := by
  obtain ⟨hlow, hhigh⟩ := h
  have hmin : Int64.minValue.toInt = -9223372036854775808 := rfl
  have hword : n.natAbs < wordLimit := by
    simp only [wordLimit, UInt64.size] at hhigh ⊢
    omega
  have habsorb : absorb 0 (Nat.toDigits 10 n.natAbs) = (n.natAbs, 0) := by
    rw [absorb_eq (by rwa [Nat.ofDigitChars_ten_toDigits]), Nat.ofDigitChars_ten_toDigits]
  rw [number?, habsorb]
  by_cases hn : n < 0
  · have hpositive : 0 < n.natAbs := by omega
    have hhalf : n.natAbs ≤ wordLimit / 2 := by
      simp only [wordLimit, UInt64.size]
      omega
    have hvalue : -(n.natAbs : Int) = n := by omega
    simp only [hn, hpositive, hhalf, hvalue, decide_true]
    rfl
  · have hvalue : (n.natAbs : Int) = n := by omega
    simp only [hn, hvalue, decide_false]
    rfl

namespace Token

theorem scan_of_one {c : Char} {cs rest : List Char} {t : Token} (hc : isSpace c = false)
    (h : scanOne c cs = some (t, rest)) : scan (c :: cs) = (scan rest).map (t :: ·) := by
  rw [scan, hc, if_neg Bool.false_ne_true]
  split <;> simp_all

theorem ne_of_isDigit {d : Char} (h : d.isDigit = true) {c : Char} (hc : c.isDigit = false) :
    d ≠ c := by
  rintro rfl
  rw [h] at hc
  cases hc

theorem scan_of_isDigit {d : Char} (h : d.isDigit = true) {cs rest : List Char} {l : Literal}
    (hl : scanLiteral false (d :: cs) = some (l, rest)) :
    scan (d :: cs) = (scan rest).map (.number l.number? :: ·) := by
  have hne : ∀ c : Char, c.isDigit = false → d ≠ c := fun c hc => ne_of_isDigit h hc
  have hspace : isSpace d = false := by
    simp [isSpace, hne ' ' rfl, hne '\n' rfl, hne '\r' rfl, hne '\t' rfl]
  have hmark : ofMark d = none := by
    simp [ofMark, hne '[' rfl, hne ']' rfl, hne '{' rfl, hne '}' rfl, hne ':' rfl,
      hne ',' rfl]
  refine scan_of_one hspace ?_
  rw [scanOne, hmark]
  simp [hne '"' rfl, hne '-' rfl, h, hl]

theorem scan_minus {cs rest : List Char} {l : Literal} (hl : scanLiteral true cs = some (l, rest)) :
    scan ('-' :: cs) = (scan rest).map (.number l.number? :: ·) := by
  have hmark : ofMark '-' = none := rfl
  refine scan_of_one rfl ?_
  rw [scanOne, hmark]
  simp [hl]

/-- An integer of a machine word scans to itself. -/
theorem scan_number {n : Number} (h : n.FitsWord) {rest : List Char} (hrest : Ends rest) :
    scan (n.chars ++ rest) = (scan rest).map (.number (some n) :: ·) := by
  cases n with
  | real x => cases h
  | integer i =>
    have hnumber := Literal.number?_toDigits h
    rw [Number.chars]
    split_ifs with hi
    · rw [decide_eq_true hi] at hnumber
      rw [← hnumber]
      exact scan_minus (scanLiteral_toDigits true i.natAbs hrest)
    · rw [decide_eq_false hi] at hnumber
      have hliteral := scanLiteral_toDigits false i.natAbs hrest
      obtain ⟨d, ds, hcons⟩ := List.exists_cons_of_ne_nil (@Nat.toDigits_ne_nil i.natAbs 10)
      have hd : d.isDigit = true :=
        Nat.isDigit_of_mem_toDigits (by omega) (by omega) (hcons ▸ List.mem_cons_self)
      rw [hcons] at hliteral hnumber ⊢
      rw [← hnumber]
      exact scan_of_isDigit hd hliteral

theorem scan_quote (s : String) (rest : List Char) :
    scan (quote s ++ rest) = (scan rest).map (.text (some s) :: ·) := by
  have hscan : scanOne '"' (s.toList.flatMap escape ++ '"' :: rest) =
      some (.text (some s), rest) := by
    have hmark : ofMark '"' = none := rfl
    rw [scanOne, hmark]
    simp only [if_true, scanText_quoted, joinUnits_map_toNat, Option.map_some, String.ofList_toList]
  rw [quote, List.append_assoc]
  exact scan_of_one rfl hscan

theorem scan_mark {c : Char} {t : Token} (hc : isSpace c = false) (h : ofMark c = some t)
    (cs : List Char) : scan (c :: cs) = (scan cs).map (t :: ·) := by
  refine scan_of_one hc ?_
  rw [scanOne, h]

end Token

/-! ## Values -/

namespace Value

mutual

/-- The tokens of a value. -/
def tokens : Value → List Token
  | .null => [.null]
  | .bool b => [.bool b]
  | .number n => [.number (some n)]
  | .text s => [.text (some s)]
  | .array items => .arrayOpen :: itemTokens items ++ [.arrayClose]
  | .object fields => .objectOpen :: fieldTokens fields ++ [.objectClose]

def itemTokens : List Value → List Token
  | [] => []
  | [v] => tokens v
  | v :: w :: vs => tokens v ++ .comma :: itemTokens (w :: vs)

def fieldTokens : List (String × Value) → List Token
  | [] => []
  | [(k, v)] => .text (some k) :: .colon :: tokens v
  | (k, v) :: f :: fs => .text (some k) :: .colon :: tokens v ++ .comma :: fieldTokens (f :: fs)

end

/-- Whether the numbers of a value are integers of machine words, and at most so many arrays and
objects enclose one another in it. -/
inductive Fits : Nat → Value → Prop
  | null {depth : Nat} : Fits depth .null
  | bool {depth : Nat} (b : Bool) : Fits depth (.bool b)
  | number {depth : Nat} {n : Number} (h : n.FitsWord) : Fits depth (.number n)
  | text {depth : Nat} (s : String) : Fits depth (.text s)
  | array {depth : Nat} {items : List Value} (h : ∀ v ∈ items, Fits depth v) :
      Fits (depth + 1) (.array items)
  | object {depth : Nat} {fields : List (String × Value)} (h : ∀ f ∈ fields, Fits depth f.2) :
      Fits (depth + 1) (.object fields)

attribute [simp] Fits.bool Fits.text

open Token (scan Ends scan_mark scan_quote)

/-- Whether the text of a value scans to its tokens wherever it can stand. -/
def Scans (v : Value) : Prop :=
  ∀ rest, Ends rest → scan (v.chars ++ rest) = (scan rest).map (v.tokens ++ ·)

theorem scan_itemChars {items : List Value} (h : ∀ v ∈ items, v.Scans) (rest : List Char) :
    scan (itemChars items ++ ']' :: rest) =
      (scan rest).map (itemTokens items ++ .arrayClose :: ·) := by
  have hclose : scan (']' :: rest) = (scan rest).map (.arrayClose :: ·) := scan_mark rfl rfl rest
  induction items with
  | nil => exact hclose
  | cons v items ih =>
    have hv := h v List.mem_cons_self
    cases items with
    | nil =>
      rw [itemChars, itemTokens, hv (']' :: rest) (by simp [Ends]), hclose, Option.map_map]
      rfl
    | cons w items =>
      rw [itemChars, itemTokens, List.append_assoc, List.cons_append,
        hv _ (by simp [Ends]), scan_mark rfl rfl,
        ih fun u hu => h u (List.mem_cons_of_mem v hu), Option.map_map, Option.map_map]
      simp [Function.comp_def]

theorem scan_fieldChars {fields : List (String × Value)} (h : ∀ f ∈ fields, f.2.Scans)
    (rest : List Char) :
    scan (fieldChars fields ++ '}' :: rest) =
      (scan rest).map (fieldTokens fields ++ .objectClose :: ·) := by
  have hclose : scan ('}' :: rest) = (scan rest).map (.objectClose :: ·) :=
    scan_mark rfl rfl rest
  induction fields with
  | nil => exact hclose
  | cons f fields ih =>
    obtain ⟨k, v⟩ := f
    have hv := h (k, v) List.mem_cons_self
    cases fields with
    | nil =>
      rw [fieldChars, fieldTokens, List.append_assoc, scan_quote, List.cons_append,
        scan_mark rfl rfl, hv ('}' :: rest) (by simp [Ends]), hclose]
      simp [Function.comp_def]
    | cons g fields =>
      rw [fieldChars, fieldTokens, List.append_assoc, List.append_assoc, scan_quote,
        List.cons_append, scan_mark rfl rfl, List.cons_append, hv _ (by simp [Ends]),
        scan_mark rfl rfl, ih fun f hf => h f (List.mem_cons_of_mem _ hf)]
      simp [Function.comp_def]

theorem Fits.scans {depth : Nat} {v : Value} (h : v.Fits depth) : v.Scans := by
  induction h with
  | null => exact fun rest _ => Token.scan_of_one rfl rfl
  | bool b =>
    cases b with
    | true => exact fun rest _ => Token.scan_of_one rfl rfl
    | false => exact fun rest _ => Token.scan_of_one rfl rfl
  | number h => exact fun rest hrest => Token.scan_number h hrest
  | text s => exact fun rest _ => scan_quote s rest
  | @array depth items _ ih =>
    intro rest _
    rw [chars, tokens, List.append_assoc, List.cons_append, scan_mark rfl rfl,
      List.singleton_append, scan_itemChars ih]
    simp [Function.comp_def]
  | @object depth fields _ ih =>
    intro rest _
    rw [chars, tokens, List.append_assoc, List.cons_append, scan_mark rfl rfl,
      List.singleton_append, scan_fieldChars ih]
    simp [Function.comp_def]

/-- The text of a value scans to its tokens. -/
theorem Fits.scan_print {depth : Nat} {v : Value} (h : v.Fits depth) :
    scan v.print.toList = some v.tokens := by
  have hscan := h.scans [] (by simp [Ends])
  have hnil : scan [] = some [] := by rw [scan]
  rw [List.append_nil, hnil] at hscan
  rw [print, String.toList_ofList, hscan]
  simp

end Value

end GeoRouting.Json
