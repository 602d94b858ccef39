/-!
# Finite binary64 numbers

A number is a sign and an exact multiple of a power of two. Rounding is done on exact
quotients of natural numbers, to the nearest representable number and to the even one of
two equally near, so products and quotients need no further rule. Infinities and NaN do
not occur: a result beyond the largest finite number is refused.
-/

namespace GeoRouting

structure Binary64 where
  negative : Bool
  mantissa : Nat
  /-- The power of two that `mantissa` is a multiple of. -/
  exponent : Int
deriving DecidableEq, Repr

namespace Binary64

/-- The power of two of the subnormal numbers. -/
def leastExponent : Int := -1074

/-- The power of two of the largest finite number. -/
def greatestExponent : Int := 971

/-- Numbers of full precision have a mantissa from this bound up to its double. -/
def normalBound : Nat := Nat.pow 2 52

def zero (negative : Bool) : Binary64 := ⟨negative, 0, leastExponent⟩

/-- `m · base ^ e` as a quotient of natural numbers. -/
def quotient (base m : Nat) (e : Int) : Nat × Nat :=
  if 0 ≤ e then (m * base.pow e.toNat, 1) else (m, base.pow (-e).toNat)

/-- The nearest natural number to `num / den`, the even one of two. -/
def roundQuotient (num den : Nat) : Nat :=
  let q := num / den
  let r := 2 * (num % den)
  if r < den then q else if den < r then q + 1 else q + q % 2

/-- The `k` with `2 ^ k ≤ num / den < 2 ^ (k + 1)`, for positive `num` and `den`. -/
def magnitude (num den : Nat) : Int :=
  let k : Int := (num.log2 : Int) - den.log2
  let scaled := quotient 2 den k
  if scaled.1 ≤ num * scaled.2 then k else k - 1

/-- The nearest finite number to `num / den`; `none` when it would be infinite. -/
def ofQuotient (negative : Bool) (num den : Nat) : Option Binary64 :=
  if num = 0 then some (zero negative)
  else
    let e := max (magnitude num den - 52) leastExponent
    let unit := quotient 2 1 e
    let m := roundQuotient (num * unit.2) (den * unit.1)
    let x := if m < 2 * normalBound then ⟨negative, m, e⟩ else ⟨negative, normalBound, e + 1⟩
    if x.exponent ≤ greatestExponent then some x else none

/-- The size of a number as a quotient of natural numbers. -/
def size (x : Binary64) : Nat × Nat := quotient 2 x.mantissa x.exponent

def mul (x y : Binary64) : Option Binary64 :=
  ofQuotient (x.negative ^^ y.negative) (x.size.1 * y.size.1) (x.size.2 * y.size.2)

/-- The quotient by a number other than zero. -/
def div (x y : Binary64) : Option Binary64 :=
  ofQuotient (x.negative ^^ y.negative) (x.size.1 * y.size.2) (x.size.2 * y.size.1)

end Binary64

end GeoRouting
