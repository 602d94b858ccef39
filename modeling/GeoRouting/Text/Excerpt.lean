/-!
# Excerpts for log lines

A text record can run to kilobytes. A log line carries its first characters and its
size only.
-/

namespace GeoRouting.Text

/-- How many characters of a value a log line keeps. -/
def excerptLimit : Nat := 128

/-- The byte offsets at which characters start when the first of them starts at a given one. -/
def charOffsets (start : Nat) : List Char → List Nat
  | [] => []
  | c :: cs => start :: charOffsets (start + c.utf8Size) cs

@[simp] theorem length_charOffsets (start : Nat) (cs : List Char) :
    (charOffsets start cs).length = cs.length := by
  induction cs generalizing start with
  | nil => rfl
  | cons c cs ih => simp [charOffsets, ih]

/-- The byte offset of the first character beyond the limit, if there is one. -/
def cut? (s : String) : Option String.Pos.Raw :=
  ((charOffsets 0 s.toList)[excerptLimit]?).map String.Pos.Raw.mk

/-- A text of at most `excerptLimit` characters stays as it is; of a longer one the bytes before
its cut remain, and the number of its UTF-8 bytes follows. -/
def excerpt (s : String) : String :=
  match cut? s with
  | none => s
  | some cut => String.Pos.Raw.extract s 0 cut ++ s!"... [{s.utf8ByteSize} bytes]"

theorem cut?_eq_none {s : String} : cut? s = none ↔ s.length ≤ excerptLimit := by
  rw [cut?, Option.map_eq_none_iff, List.getElem?_eq_none_iff, length_charOffsets,
    String.length_toList]

theorem excerpt_of_short {s : String} (h : s.length ≤ excerptLimit) : excerpt s = s := by
  rw [excerpt, cut?_eq_none.mpr h]

end GeoRouting.Text
