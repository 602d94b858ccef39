/-!
# Letter case

Record types and domain names are compared over the ASCII letters alone: `É` and `é`
stay different, as they are different octets on the wire.
-/

namespace GeoRouting.Text

/-- Raises the letters `a` to `z` and leaves every other character. -/
def upper (s : String) : String := s.map Char.toUpper

/-- Lowers the letters `A` to `Z` and leaves every other character. -/
def lower (s : String) : String := s.map Char.toLower

/-- Equality up to the case of ASCII letters. -/
def sameLetters (a b : String) : Bool := lower a == lower b

@[simp] theorem sameLetters_iff {a b : String} : sameLetters a b = true ↔ lower a = lower b := by
  simp [sameLetters]

end GeoRouting.Text
