import GroundedQA.Json.Basic
/-!
# Reading typed values out of JSON

Each kind of value has a reader that gives nothing when the JSON does not fit. Whole numbers have to
be written plainly, without sign, point or exponent, and stay below a bound; binary numbers may be
written in any way, but not beyond the range of binary64.

A record is an object with its fields as members: other members are passed over, but no field may
stand twice. It may also be an array of its fields in order, of which the last may be missing.
-/

namespace GroundedQA.Json

/-- A string that has a text. -/
def text? : Json → Option String
  | .string s => s
  | _ => none

/-- A whole number below `bound`. -/
def nat? (bound : Nat) : Json → Option Nat
  | .number n => n.toNat? bound
  | _ => none

/-- A whole number of 64 bits. -/
def word? : Json → Option Nat := nat? (2 ^ 64)

def float64? : Json → Option Float
  | .number n => n.toFloat?
  | _ => none

def float32? : Json → Option Float32
  | .number n => n.toFloat32?
  | _ => none

variable {α : Type}

/-- An array, each item of which `item` reads. -/
def list? (item : Json → Option α) : Json → Option (List α)
  | .array items => items.mapM item
  | _ => none

/-- Nothing for `null`, else what `value` reads. -/
def nullable? (value : Json → Option α) : Json → Option (Option α)
  | .null => some none
  | j => (value j).map some

/-- An object with any keys, each value of which `value` reads; of one key the last value stands. -/
def dictionary? (value : Json → Option α) : Json → Option (Dictionary α)
  | .object members => do
    let entries ← members.mapM fun m => do return (← m.1, ← value m.2)
    return Dictionary.ofList entries
  | _ => none

/-! ## Records -/

/-- A field of a record may have several names; any of them stands for it. -/
abbrev FieldNames := List String

/-- The member that a field has among the members of an object: there may be none, but not two. -/
def memberOf? (members : List (String × Json)) (names : FieldNames) : Option (Option Json) :=
  match members.filter fun m => names.contains m.1 with
  | [] => some none
  | [m] => some (some m.2)
  | _ => none

/-- The members of an object, if every key has a text. -/
def keyed? (members : List (Option String × Json)) : Option (List (String × Json)) :=
  members.mapM fun m => m.1.map fun key => (key, m.2)

/-- What a record has for each of its fields. -/
def fields? (fields : List FieldNames) : Json → Option (List (Option Json))
  | .object members => do
    let members ← keyed? members
    fields.mapM (memberOf? members)
  | .array items =>
    if items.length ≤ fields.length then
      some (items.map some ++ List.replicate (fields.length - items.length) none)
    else none
  | _ => none

def required? (value : Json → Option α) (field : Option Json) : Option α :=
  field.bind value

/-- A field that has a value of its own when it is not there. -/
def defaulted? (default : α) (value : Json → Option α) : Option Json → Option α
  | none => some default
  | some j => value j

/-! ## Whole documents -/

mutual

/-- Every string has a text, every number a value, and arrays and objects stand at most `room`
inside one another. -/
def readable (room : Nat) : Json → Bool
  | .null => true
  | .bool _ => true
  | .number n => n.toFloat?.isSome
  | .string s => s.isSome
  | .array items => 0 < room && itemsReadable (room - 1) items
  | .object members => 0 < room && membersReadable (room - 1) members

def itemsReadable (room : Nat) : List Json → Bool
  | [] => true
  | item :: items => item.readable room && itemsReadable room items

/-- Every key has a text and every value is readable. -/
def membersReadable (room : Nat) : List (Option String × Json) → Bool
  | [] => true
  | (key, value) :: members => key.isSome && value.readable room && membersReadable room members

end

/-- How deep the arrays and objects of a document may stand inside one another. -/
def maxDepth : Nat := 127

/-- The last member of an object under a key. -/
def lookup? (members : List (Option String × Json)) (key : String) : Option Json :=
  (members.reverse.find? fun m => m.1 == some key).map (·.2)

end GroundedQA.Json
