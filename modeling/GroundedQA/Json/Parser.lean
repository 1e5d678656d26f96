import GroundedQA.Json.Basic
import GroundedQA.Json.Token
/-!
# Reading JSON documents

A document is one value and nothing else. `ofTokens?` reads a value off a sequence of tokens, and
`parse?` a whole text.
-/

namespace GroundedQA.Json

mutual

/-- The value that the tokens begin with, and what follows it; the first argument bounds the work. -/
def ofTokens? : Nat → List Token → Option (Json × List Token)
  | 0, _ => none
  | fuel + 1, tokens =>
    match tokens with
    | .null :: rest => some (.null, rest)
    | .bool b :: rest => some (.bool b, rest)
    | .number n :: rest => some (.number n, rest)
    | .string s :: rest => some (.string s, rest)
    | .openArray :: .closeArray :: rest => some (.array [], rest)
    | .openArray :: rest => (itemsOf? fuel rest).map fun (items, rest) => (.array items, rest)
    | .openObject :: .closeObject :: rest => some (.object [], rest)
    | .openObject :: rest => (membersOf? fuel rest).map fun (members, rest) => (.object members, rest)
    | _ => none

/-- The items of an array, one at least, up to its closing bracket. -/
def itemsOf? : Nat → List Token → Option (List Json × List Token)
  | 0, _ => none
  | fuel + 1, tokens =>
    match ofTokens? fuel tokens with
    | some (item, .closeArray :: rest) => some ([item], rest)
    | some (item, .comma :: rest) =>
      (itemsOf? fuel rest).map fun (items, rest) => (item :: items, rest)
    | _ => none

/-- The members of an object, one at least, up to its closing brace. -/
def membersOf? : Nat → List Token → Option (List (Option String × Json) × List Token)
  | 0, _ => none
  | fuel + 1, tokens =>
    match tokens with
    | .string key :: .colon :: tokens =>
      match ofTokens? fuel tokens with
      | some (value, .closeObject :: rest) => some ([(key, value)], rest)
      | some (value, .comma :: rest) =>
        (membersOf? fuel rest).map fun (members, rest) => ((key, value) :: members, rest)
      | _ => none
    | _ => none

end

/-- The value that a sequence of tokens writes, if it writes one. -/
def ofTokenList? (tokens : List Token) : Option Json :=
  match ofTokens? (tokens.length + 1) tokens with
  | some (value, []) => some value
  | _ => none

/-- The value that a text writes, if it is a document. -/
def parse? (s : String) : Option Json := do
  ofTokenList? (← Token.lex? s.toList)

end GroundedQA.Json
