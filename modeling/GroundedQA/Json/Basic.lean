import GroundedQA.Number.Numeral
import GroundedQA.Number.Shortest
import GroundedQA.Dictionary
/-!
# JSON values

A value is kept as it was written: numbers are numerals, members of an object stay in order and may
repeat a key. A string whose escapes leave half of a surrogate pair by itself spells no Unicode
text; it is well-formed all the same, and is kept as `none`: it may stand in a part of a document
that nobody reads.
-/

namespace GroundedQA

/-- A JSON value. -/
inductive Json where
  | null
  | bool (value : Bool)
  | number (value : Number.Numeral)
  | string (text : Option String)
  | array (items : List Json)
  | object (members : List (Option String × Json))
deriving Inhabited, Repr

namespace Json

/-- A string. -/
def text (s : String) : Json := .string (some s)

def nat (n : Nat) : Json := .number ⟨false, n, [], none⟩

/-- A binary32 number in its shortest decimal, or `null` when it is not finite. -/
def float32 (x : Float32) : Json := ((Number.numeral32? x).map .number).getD .null

/-- A binary64 number in its shortest decimal, or `null` when it is not finite. -/
def float64 (x : Float) : Json := ((Number.numeral64? x).map .number).getD .null

/-- A list of strings. -/
def texts (ss : List String) : Json := .array (ss.map text)

def member (key : String) (value : Json) : Option String × Json := (some key, value)

/-- An object with the given members. -/
def record (members : List (String × Json)) : Json :=
  .object (members.map fun m => member m.1 m.2)

/-- An object with a member for each entry, in the order of the keys. -/
def dictionary {α : Type} (value : α → Json) (d : Dictionary α) : Json :=
  .object (d.entries.map fun e => member e.1 (value e.2))

end Json

end GroundedQA
