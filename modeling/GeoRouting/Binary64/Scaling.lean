import GeoRouting.Binary64.Basic

/-!
# Numbers from a significand and a power of ten

The significand is rounded first, then multiplied or divided by the rounded power of ten.
Each step rounds, so the result can differ in its last bit from the number nearest to the
decimal text. That is the price of the short method, and part of the format.
-/

namespace GeoRouting.Binary64

/-- The largest power of ten that is finite. -/
def greatestTen : Nat := 308

def powerOfTen (k : Nat) : Option Binary64 := ofQuotient false (Nat.pow 10 k) 1

def divideByTen (x : Binary64) (k : Nat) : Option Binary64 :=
  (powerOfTen k).bind x.div

/-- Divides by `10 ^ k`, in steps of the largest finite power of ten. -/
def scaleDown (x : Binary64) (k : Nat) : Option Binary64 :=
  if k ≤ greatestTen then divideByTen x k
  else if x.mantissa = 0 then some x
  else (divideByTen x greatestTen).bind (scaleDown · (k - greatestTen))
termination_by k
decreasing_by simp only [greatestTen] at *; omega

/-- `significand · 10 ^ exponent`; `none` when it is too large to be finite. -/
def ofDecimal (negative : Bool) (significand : Nat) (exponent : Int) : Option Binary64 := do
  let x ← ofQuotient negative significand 1
  if exponent < 0 then scaleDown x (-exponent).toNat
  else if exponent.toNat ≤ greatestTen then (← powerOfTen exponent.toNat).mul x
  else if x.mantissa = 0 then some x
  else none

end GeoRouting.Binary64
