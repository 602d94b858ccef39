import GeoRouting.Dict
import GeoRouting.Text.Shapeless

/-!
# Quoted texts for diagnostics

A quoted text stands between double quotes. Quotes, backslashes and the common controls have
short escapes, a character without a shape is shown by its number, and single quotes stand
as they are.
-/

namespace GeoRouting.Text

def quotedChar (c : Char) : List Char :=
  if c = '"' ∨ c = '\\' then ['\\', c]
  else if c = '\n' then ['\\', 'n']
  else if c = '\r' then ['\\', 'r']
  else if c = '\t' then ['\\', 't']
  else if c.toNat = 0 then ['\\', '0']
  else if isShapeless c then ['\\', 'u', '\x7b'] ++ Nat.toDigits 16 c.toNat ++ ['\x7d']
  else [c]

def quoted (s : String) : String := .ofList ('"' :: s.toList.flatMap quotedChar ++ ['"'])

def quotedList (xs : List String) : String := "[" ++ ", ".intercalate (xs.map quoted) ++ "]"

def quotedOption : Option String → String
  | none => "None"
  | some s => "Some(" ++ quoted s ++ ")"

/-- Keys with the lists they stand for. -/
def quotedTable (d : Dict (List String)) : String :=
  let entry (e : String × List String) : String := quoted e.1 ++ ": " ++ quotedList e.2
  "\x7b" ++ ", ".intercalate (d.entries.map entry) ++ "\x7d"

end GeoRouting.Text
