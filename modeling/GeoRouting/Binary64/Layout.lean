import GeoRouting.Binary64.Shortest

/-!
# Writing binary64 numbers

A layout says which powers of ten are written positionally. Beyond them a number is written
with an exponent that has a sign and no leading zero.
-/

namespace GeoRouting.Binary64

structure Layout where
  /-- The least power of ten of a first digit that is written positionally. -/
  least : Int
  /-- The greatest one. -/
  greatest : Int
deriving DecidableEq, Repr

/-- The digits without trailing zeros. -/
def Digits.significant (d : Digits) : List Char :=
  ((Nat.toDigits 10 d.digits).reverse.dropWhile (· == '0')).reverse

/-- The power of ten of the first digit. -/
def Digits.leading (d : Digits) : Int := d.power + ((Nat.toDigits 10 d.digits).length : Int) - 1

/-- The digits with a point after the first `whole` of them and at least one digit on
either side of it. -/
def positional (digits : List Char) (whole : Int) : List Char :=
  if whole ≤ 0 then '0' :: '.' :: List.replicate (-whole).toNat '0' ++ digits
  else
    let n := whole.toNat
    if digits.length ≤ n then
      digits ++ List.replicate (n - digits.length) '0' ++ ['.', '0']
    else digits.take n ++ '.' :: digits.drop n

def scientific (digits : List Char) (exponent : Int) : List Char :=
  let fraction := match digits.drop 1 with
    | [] => []
    | ds => '.' :: ds
  digits.take 1 ++ fraction ++ 'e' :: (if exponent < 0 then '-' else '+') ::
    Nat.toDigits 10 exponent.natAbs

def Layout.chars (layout : Layout) (x : Binary64) : List Char :=
  let sign := if x.negative then ['-'] else []
  if x.mantissa = 0 then sign ++ ['0', '.', '0']
  else
    let d := x.shortest
    let k := d.leading
    if layout.least ≤ k ∧ k ≤ layout.greatest then sign ++ positional d.significant (k + 1)
    else sign ++ scientific d.significant k

end GeoRouting.Binary64
