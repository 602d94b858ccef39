import GeoRouting.Json.Value
import GeoRouting.Binary64.Scaling

/-!
# Number literals

A literal without fraction and exponent is an integer when it fits a machine word of 64
bits, with or without sign; `-0` and everything else is a binary64 number. The significand
is collected in one word: once a digit would overflow it, the digits after it only count.
-/

namespace GeoRouting.Json

/-- The parts of a number literal, digits in writing order. -/
structure Literal where
  negative : Bool
  whole : List Char
  fraction : Option (List Char)
  exponent : Option Int
deriving DecidableEq, Repr

namespace Literal

def wordLimit : Nat := UInt64.size

def digit (c : Char) : Nat := c.toNat - '0'.toNat

/-- Appends digits to a significand while it stays below `wordLimit`, and counts the
digits left over. -/
def absorb (significand : Nat) : List Char → Nat × Nat
  | [] => (significand, 0)
  | d :: ds =>
    let next := 10 * significand + digit d
    if next < wordLimit then absorb next ds else (significand, ds.length + 1)

def real (negative : Bool) (significand : Nat) (exponent : Int) : Option Number :=
  (Binary64.ofDecimal negative significand exponent).map .real

/-- The number that a literal denotes; `none` when it is too large to be finite. -/
def number? (l : Literal) : Option Number :=
  let (significand, left) := absorb 0 l.whole
  if l.fraction = none ∧ l.exponent = none then
    if left = 0 ∧ l.negative = false then some (.integer significand)
    else if left = 0 ∧ 0 < significand ∧ significand ≤ wordLimit / 2 then
      some (.integer (-significand))
    else real l.negative significand left
  else
    let fraction := l.fraction.getD []
    let (significand, unread) := absorb significand fraction
    real l.negative significand (l.exponent.getD 0 + left + unread - fraction.length)

end Literal

end GeoRouting.Json
