import GeoRouting.Json.Literal

/-!
# JSON tokens

Scanning splits a text into tokens and drops the white space between them. A string with an
unpaired surrogate and a number too large to be finite are tokens without a value: they
stand in the text rightly, but nothing can be read from them.
-/

namespace GeoRouting.Json

inductive Token where
  | arrayOpen | arrayClose | objectOpen | objectClose | colon | comma | null
  | bool (b : Bool)
  | number (n : Option Number)
  | text (s : Option String)
deriving DecidableEq, Repr

namespace Token

def hexValue (c : Char) : Option Nat :=
  if c.isDigit then some (c.toNat - '0'.toNat)
  else if 'a' ≤ c ∧ c ≤ 'f' then some (c.toNat - 'a'.toNat + 10)
  else if 'A' ≤ c ∧ c ≤ 'F' then some (c.toNat - 'A'.toNat + 10)
  else none

/-- The number of four hexadecimal digits. -/
def hexUnit (a b c d : Char) : Option Nat := do
  some ((((← hexValue a) * 16 + (← hexValue b)) * 16 + (← hexValue c)) * 16 + (← hexValue d))

/-- The character of a short escape. -/
def unescape (c : Char) : Option Char :=
  if c = '"' ∨ c = '\\' ∨ c = '/' then some c
  else if c = 'b' then some '\x08'
  else if c = 'f' then some '\x0c'
  else if c = 'n' then some '\n'
  else if c = 'r' then some '\r'
  else if c = 't' then some '\t'
  else none

/-- Reads up to the closing quote. The units read are code points, and surrogates where the
text escapes them. -/
def scanText : List Char → Option (List Nat × List Char)
  | [] => none
  | '"' :: cs => some ([], cs)
  | '\\' :: 'u' :: a :: b :: c :: d :: cs => do
    let unit ← hexUnit a b c d
    let (units, rest) ← scanText cs
    some (unit :: units, rest)
  | '\\' :: e :: cs => do
    let c ← unescape e
    let (units, rest) ← scanText cs
    some (c.toNat :: units, rest)
  | c :: cs =>
    if c.toNat < 0x20 then none
    else do
      let (units, rest) ← scanText cs
      some (c.toNat :: units, rest)

def isHighSurrogate (unit : Nat) : Bool := 0xD800 ≤ unit && unit < 0xDC00

def isLowSurrogate (unit : Nat) : Bool := 0xDC00 ≤ unit && unit < 0xE000

/-- Joins surrogate pairs; `none` when a surrogate stands alone. -/
def joinUnits : List Nat → Option (List Char)
  | [] => some []
  | [u] => if isHighSurrogate u || isLowSurrogate u then none else some [Char.ofNat u]
  | u :: v :: us =>
    if isHighSurrogate u then
      if isLowSurrogate v then
        (joinUnits us).map (Char.ofNat (0x10000 + (u - 0xD800) * 0x400 + (v - 0xDC00)) :: ·)
      else none
    else if isLowSurrogate u then none
    else (joinUnits (v :: us)).map (Char.ofNat u :: ·)

/-- One or more digits and what follows them. -/
def scanDigits (cs : List Char) : Option (List Char × List Char) :=
  match cs.takeWhile Char.isDigit with
  | [] => none
  | digits => some (digits, cs.dropWhile Char.isDigit)

/-- The digits before the point: a zero stands alone. -/
def scanWhole (cs : List Char) : Option (List Char × List Char) := do
  let (digits, rest) ← scanDigits cs
  if digits.head? = some '0' ∧ digits.length ≠ 1 then none else some (digits, rest)

def scanFraction : List Char → Option (Option (List Char) × List Char)
  | '.' :: cs => (scanDigits cs).map fun p => (some p.1, p.2)
  | cs => some (none, cs)

def naturalOfDigits (digits : List Char) : Nat :=
  digits.foldl (fun n c => 10 * n + Literal.digit c) 0

/-- The digits of an exponent after its mark. -/
def scanPower : List Char → Option (Int × List Char)
  | '-' :: cs => (scanDigits cs).map fun p => (-(naturalOfDigits p.1 : Int), p.2)
  | '+' :: cs => (scanDigits cs).map fun p => ((naturalOfDigits p.1 : Int), p.2)
  | cs => (scanDigits cs).map fun p => ((naturalOfDigits p.1 : Int), p.2)

def scanExponent : List Char → Option (Option Int × List Char)
  | [] => some (none, [])
  | c :: cs =>
    if c = 'e' ∨ c = 'E' then (scanPower cs).map fun p => (some p.1, p.2)
    else some (none, c :: cs)

/-- Reads a number literal after its sign. -/
def scanLiteral (negative : Bool) (cs : List Char) : Option (Literal × List Char) := do
  let (whole, cs) ← scanWhole cs
  let (fraction, cs) ← scanFraction cs
  let (exponent, cs) ← scanExponent cs
  some (⟨negative, whole, fraction, exponent⟩, cs)

/-- The words that stand for values. -/
def scanWord : List Char → Option (Token × List Char)
  | 'n' :: 'u' :: 'l' :: 'l' :: cs => some (.null, cs)
  | 't' :: 'r' :: 'u' :: 'e' :: cs => some (.bool true, cs)
  | 'f' :: 'a' :: 'l' :: 's' :: 'e' :: cs => some (.bool false, cs)
  | _ => none

def isSpace (c : Char) : Bool := c = ' ' || c = '\n' || c = '\r' || c = '\t'

def ofMark (c : Char) : Option Token :=
  if c = '[' then some .arrayOpen
  else if c = ']' then some .arrayClose
  else if c = '{' then some .objectOpen
  else if c = '}' then some .objectClose
  else if c = ':' then some .colon
  else if c = ',' then some .comma
  else none

/-- The token that starts with `c`, and the text after it. -/
def scanOne (c : Char) (cs : List Char) : Option (Token × List Char) :=
  match ofMark c with
  | some t => some (t, cs)
  | none =>
    if c = '"' then (scanText cs).map fun p => (.text ((joinUnits p.1).map String.ofList), p.2)
    else if c = '-' then (scanLiteral true cs).map fun p => (.number p.1.number?, p.2)
    else if c.isDigit then
      (scanLiteral false (c :: cs)).map fun p => (.number p.1.number?, p.2)
    else scanWord (c :: cs)

theorem scanText_length {cs : List Char} {p : List Nat × List Char} (h : scanText cs = some p) :
    p.2.length < cs.length := by
  obtain ⟨units, rest⟩ := p
  fun_induction scanText cs generalizing units <;>
    simp_all [Option.bind_eq_some_iff] <;> grind

theorem length_dropWhile_le (q : Char → Bool) (cs : List Char) :
    (cs.dropWhile q).length ≤ cs.length := by
  induction cs with
  | nil => simp
  | cons c cs ih => rw [List.dropWhile_cons]; split <;> simp_all; omega

theorem scanDigits_length {cs : List Char} {p : List Char × List Char}
    (h : scanDigits cs = some p) : p.2.length < cs.length := by
  unfold scanDigits at h
  cases cs with
  | nil => simp at h
  | cons c cs =>
    rw [List.takeWhile_cons, List.dropWhile_cons] at h
    split at h
    · simp at h
    · split at h
      · simp only [Option.some.injEq] at h
        rw [← h]
        exact Nat.lt_succ_of_le (length_dropWhile_le _ cs)
      · simp_all

theorem scanWhole_length {cs : List Char} {p : List Char × List Char}
    (h : scanWhole cs = some p) : p.2.length < cs.length := by
  simp only [scanWhole, Option.bind_eq_bind, Option.bind_eq_some_iff] at h
  obtain ⟨q, hq, h⟩ := h
  split at h
  · simp at h
  · simp only [Option.some.injEq] at h
    exact h ▸ scanDigits_length hq

theorem scanFraction_length {cs : List Char} {p : Option (List Char) × List Char}
    (h : scanFraction cs = some p) : p.2.length ≤ cs.length := by
  unfold scanFraction at h
  split at h
  · simp only [Option.map_eq_some_iff] at h
    obtain ⟨q, hq, rfl⟩ := h
    exact Nat.le_succ_of_le (Nat.le_of_lt (scanDigits_length hq))
  · simp_all
    simp [← h]

theorem scanPower_length {cs : List Char} {p : Int × List Char} (h : scanPower cs = some p) :
    p.2.length < cs.length := by
  unfold scanPower at h
  split at h <;> simp only [Option.map_eq_some_iff] at h <;> obtain ⟨q, hq, rfl⟩ := h
  · exact Nat.lt_succ_of_lt (scanDigits_length hq)
  · exact Nat.lt_succ_of_lt (scanDigits_length hq)
  · exact scanDigits_length hq

theorem scanExponent_length {cs : List Char} {p : Option Int × List Char}
    (h : scanExponent cs = some p) : p.2.length ≤ cs.length := by
  unfold scanExponent at h
  split at h
  · simp_all
    simp [← h]
  · split at h
    · simp only [Option.map_eq_some_iff] at h
      obtain ⟨q, hq, rfl⟩ := h
      exact Nat.le_succ_of_le (Nat.le_of_lt (scanPower_length hq))
    · simp_all
      simp [← h]

theorem scanLiteral_length {negative : Bool} {cs : List Char} {p : Literal × List Char}
    (h : scanLiteral negative cs = some p) : p.2.length < cs.length := by
  simp only [scanLiteral, Option.bind_eq_bind, Option.bind_eq_some_iff] at h
  obtain ⟨q₁, h₁, q₂, h₂, q₃, h₃, h⟩ := h
  simp only [Option.some.injEq] at h
  rw [← h]
  exact Nat.lt_of_le_of_lt (Nat.le_trans (scanExponent_length h₃) (scanFraction_length h₂))
    (scanWhole_length h₁)

theorem scanOne_length {c : Char} {cs rest : List Char} {t : Token}
    (h : scanOne c cs = some (t, rest)) : rest.length ≤ cs.length := by
  unfold scanOne at h
  split at h
  · simp_all
  · split at h
    · simp only [Option.map_eq_some_iff, Prod.mk.injEq] at h
      obtain ⟨p, hp, -, rfl⟩ := h
      exact Nat.le_of_lt (scanText_length hp)
    · split at h
      · simp only [Option.map_eq_some_iff, Prod.mk.injEq] at h
        obtain ⟨p, hp, -, rfl⟩ := h
        exact Nat.le_of_lt (scanLiteral_length hp)
      · split at h
        · simp only [Option.map_eq_some_iff, Prod.mk.injEq] at h
          obtain ⟨p, hp, -, rfl⟩ := h
          exact Nat.le_of_lt_succ (scanLiteral_length hp)
        · unfold scanWord at h
          split at h <;> simp_all <;> grind

/-- The tokens of a text; `none` when some part of it is no token. -/
def scan : (cs : List Char) → Option (List Token)
  | [] => some []
  | c :: cs =>
    if isSpace c then scan cs
    else
      match _h : scanOne c cs with
      | none => none
      | some (t, rest) => (scan rest).map (t :: ·)
termination_by cs => cs.length
decreasing_by
  · simp
  · exact Nat.lt_succ_of_le (scanOne_length _h)

end Token

end GeoRouting.Json
