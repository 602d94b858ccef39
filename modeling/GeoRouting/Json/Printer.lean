import GeoRouting.Json.Value
import GeoRouting.Binary64.Layout

/-!
# Writing JSON

The text of a value has no white space. Within strings only the quote, the backslash and
the control characters below U+0020 are escaped; everything else stands as it is.
-/

namespace GeoRouting.Json

/-- Numbers are written positionally from `0.00001` up to sixteen digits before the point. -/
def realLayout : Binary64.Layout := ⟨-5, 15⟩

def hexDigit (n : Nat) : Char := Nat.digitChar n

/-- The five short escapes, the other control characters by number. -/
def escape (c : Char) : List Char :=
  if c = '"' then ['\\', '"']
  else if c = '\\' then ['\\', '\\']
  else if c = '\x08' then ['\\', 'b']
  else if c = '\x0c' then ['\\', 'f']
  else if c = '\n' then ['\\', 'n']
  else if c = '\r' then ['\\', 'r']
  else if c = '\t' then ['\\', 't']
  else if c.toNat < 0x20 then
    ['\\', 'u', '0', '0', hexDigit (c.toNat / 16), hexDigit (c.toNat % 16)]
  else [c]

def quote (s : String) : List Char := '"' :: s.toList.flatMap escape ++ ['"']

def Number.chars : Number → List Char
  | .integer n =>
    if n < 0 then '-' :: Nat.toDigits 10 n.natAbs else Nat.toDigits 10 n.natAbs
  | .real x => realLayout.chars x

namespace Value

mutual

def chars : Value → List Char
  | .null => ['n', 'u', 'l', 'l']
  | .bool true => ['t', 'r', 'u', 'e']
  | .bool false => ['f', 'a', 'l', 's', 'e']
  | .number n => n.chars
  | .text s => quote s
  | .array items => '[' :: itemChars items ++ [']']
  | .object fields => '{' :: fieldChars fields ++ ['}']

def itemChars : List Value → List Char
  | [] => []
  | [v] => chars v
  | v :: w :: vs => chars v ++ ',' :: itemChars (w :: vs)

def fieldChars : List (String × Value) → List Char
  | [] => []
  | [(k, v)] => quote k ++ ':' :: chars v
  | (k, v) :: f :: fs => quote k ++ ':' :: chars v ++ ',' :: fieldChars (f :: fs)

end

def print (v : Value) : String := .ofList v.chars

end Value

end GeoRouting.Json
