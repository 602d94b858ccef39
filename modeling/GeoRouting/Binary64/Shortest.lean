import GeoRouting.Binary64.Basic

/-!
# Shortest decimal digits

The fewest digits that read back as the same number. On each decimal grid, from one digit
on, the two neighbours of the number are tried; the first grid with a neighbour that rounds
to the number wins, and of two such neighbours the nearer, the even one of two equally near.
-/

namespace GeoRouting.Binary64

/-- A positive decimal number `digits · 10 ^ power`. -/
structure Digits where
  digits : Nat
  power : Int
deriving DecidableEq, Repr

/-- Four times the number and the two ends of the interval that rounds to it, over one
denominator. The interval reaches down only half as far from a power of two. -/
structure Interval where
  low : Nat
  centre : Nat
  high : Nat
  unit : Nat
  /-- The ends themselves round to an even mantissa. -/
  closed : Bool

def interval (x : Binary64) : Interval :=
  let scale := quotient 2 1 (x.exponent - 2)
  let below :=
    if x.mantissa = normalBound ∧ x.exponent ≠ leastExponent then 1 else 2
  { low := (4 * x.mantissa - below) * scale.1
    centre := 4 * x.mantissa * scale.1
    high := (4 * x.mantissa + 2) * scale.1
    unit := scale.2
    closed := x.mantissa % 2 == 0 }

/-- Whether a quotient lies in the interval. -/
def Interval.contains (i : Interval) (p : Nat × Nat) : Bool :=
  let scaled := p.1 * i.unit
  if i.closed then i.low * p.2 ≤ scaled && scaled ≤ i.high * p.2
  else i.low * p.2 < scaled && scaled < i.high * p.2

/-- The distance of a grid point from the number, times both denominators. -/
def Interval.distance (i : Interval) (p : Nat × Nat) : Nat :=
  let scaled := p.1 * i.unit
  let c := i.centre * p.2
  (scaled - c) + (c - scaled)

/-- The neighbour on one grid that reads back, if one does. -/
def Interval.onGrid (i : Interval) (power : Int) : Option Digits :=
  let g := quotient 10 1 power
  let d := i.centre * g.2 / (i.unit * g.1)
  let down := quotient 10 d power
  let up := quotient 10 (d + 1) power
  match i.contains down, i.contains up with
  | false, false => none
  | true, false => some ⟨d, power⟩
  | false, true => some ⟨d + 1, power⟩
  | true, true =>
    if i.distance down < i.distance up ∨ (i.distance down = i.distance up ∧ d % 2 = 0) then
      some ⟨d, power⟩
    else some ⟨d + 1, power⟩

/-- The power of ten of the first digit: scaled by `10 ^ 350` every number has an integral
part, and the number of its digits tells. -/
def Interval.leading (i : Interval) : Int :=
  ((Nat.toDigits 10 (i.centre * Nat.pow 10 350 / i.unit)).length : Int) - 351

/-- Seventeen digits always read back, so the last alternative is not reached. -/
def shortest (x : Binary64) : Digits :=
  let i := x.interval
  ((List.range 17).findSome? fun (n : Nat) => i.onGrid (i.leading - n)).getD ⟨x.mantissa, 0⟩

end GeoRouting.Binary64
