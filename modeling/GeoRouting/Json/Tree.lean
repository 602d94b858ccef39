import GeoRouting.Dict
import GeoRouting.Json.Token

/-!
# JSON documents

A document is the tree that its tokens spell, before anything is read from it: strings and
numbers without a value stay in it, and so do repeated fields. Reading a value from a tree
refuses the former and keeps the last of the latter.

Assembly works on one token at a time with a stack of open containers, so a text is refused
at the first token that cannot stand where it stands.
-/

namespace GeoRouting.Json

inductive Tree where
  | null
  | bool (b : Bool)
  | number (n : Option Number)
  | text (s : Option String)
  | array (items : List Tree)
  | object (fields : List (Option String × Tree))
deriving Repr

namespace Tree

mutual

/-- The value of a tree. At most `room` arrays and objects may enclose one another in it. -/
def value? (room : Nat) : Tree → Option Value
  | .null => some .null
  | .bool b => some (.bool b)
  | .number n => n.map .number
  | .text s => s.map .text
  | .array items => if room = 0 then none else (itemValues? (room - 1) items).map .array
  | .object fields =>
    if room = 0 then none
    else (fieldValues? (room - 1) fields).map fun fs => .object (Dict.ofList fs).entries

def itemValues? (room : Nat) : List Tree → Option (List Value)
  | [] => some []
  | t :: ts => do some ((← value? room t) :: (← itemValues? room ts))

def fieldValues? (room : Nat) : List (Option String × Tree) → Option (List (String × Value))
  | [] => some []
  | (k, t) :: fs => do some ((← k, ← value? room t) :: (← fieldValues? room fs))

end

end Tree

/-- A container whose next value is being read; what it holds already, last first. -/
inductive Frame where
  | array (before : List Tree)
  | object (before : List (Option String × Tree)) (key : Option String)

/-- What may follow the tokens taken so far. -/
inductive Assembly where
  /-- A value. -/
  | value (stack : List Frame)
  /-- The first item of an array, or its end. -/
  | firstItem (stack : List Frame)
  /-- The first field of an object, or its end. -/
  | firstField (stack : List Frame)
  /-- A further field of an object. -/
  | field (before : List (Option String × Tree)) (stack : List Frame)
  /-- The colon after the name of a field. -/
  | colon (before : List (Option String × Tree)) (key : Option String) (stack : List Frame)
  /-- A comma, or the end of the array. -/
  | afterItem (items : List Tree) (stack : List Frame)
  /-- A comma, or the end of the object. -/
  | afterField (fields : List (Option String × Tree)) (stack : List Frame)
  /-- Nothing: the document is complete. -/
  | finished (document : Tree)

namespace Assembly

/-- Puts a complete value into the innermost open container. -/
def complete (t : Tree) : List Frame → Assembly
  | [] => .finished t
  | .array before :: stack => .afterItem (t :: before) stack
  | .object before key :: stack => .afterField ((key, t) :: before) stack

/-- Takes the first token of a value. -/
def start (stack : List Frame) : Token → Option Assembly
  | .null => some (complete .null stack)
  | .bool b => some (complete (.bool b) stack)
  | .number n => some (complete (.number n) stack)
  | .text s => some (complete (.text s) stack)
  | .arrayOpen => some (.firstItem stack)
  | .objectOpen => some (.firstField stack)
  | .arrayClose | .objectClose | .colon | .comma => none

def step : Assembly → Token → Option Assembly
  | .value stack, t => start stack t
  | .firstItem stack, .arrayClose => some (complete (.array []) stack)
  | .firstItem stack, t => start (.array [] :: stack) t
  | .firstField stack, .objectClose => some (complete (.object []) stack)
  | .firstField stack, .text key => some (.colon [] key stack)
  | .field before stack, .text key => some (.colon before key stack)
  | .colon before key stack, .colon => some (.value (.object before key :: stack))
  | .afterItem items stack, .comma => some (.value (.array items :: stack))
  | .afterItem items stack, .arrayClose => some (complete (.array items.reverse) stack)
  | .afterField fields stack, .comma => some (.field fields stack)
  | .afterField fields stack, .objectClose => some (complete (.object fields.reverse) stack)
  | _, _ => none

def run (a : Assembly) (tokens : List Token) : Option Assembly := tokens.foldlM step a

theorem run_append (a : Assembly) (ts us : List Token) :
    a.run (ts ++ us) = (a.run ts).bind (·.run us) := by
  simp [run, List.foldlM_append]

end Assembly

namespace Tree

def ofTokens? (tokens : List Token) : Option Tree :=
  match (Assembly.value []).run tokens with
  | some (.finished t) => some t
  | _ => none

/-- The document that a text spells; `none` when it spells none. -/
def parse (text : String) : Option Tree := (Token.scan text.toList).bind ofTokens?

end Tree

end GeoRouting.Json
