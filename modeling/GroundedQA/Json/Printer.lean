import GroundedQA.Json.Basic
import GroundedQA.Json.Token
/-!
# Writing JSON documents

A value is written compactly, with no blanks between its tokens.
-/

namespace GroundedQA.Json

def commaSeparated : List (List Token) → List Token
  | [] => []
  | [part] => part
  | part :: parts => part ++ .comma :: commaSeparated parts

mutual

def tokens : Json → List Token
  | .null => [.null]
  | .bool b => [.bool b]
  | .number n => [.number n]
  | .string s => [.string s]
  | .array items => .openArray :: (commaSeparated (itemTokens items) ++ [.closeArray])
  | .object members => .openObject :: (commaSeparated (memberTokens members) ++ [.closeObject])

def itemTokens : List Json → List (List Token)
  | [] => []
  | item :: items => item.tokens :: itemTokens items

def memberTokens : List (Option String × Json) → List (List Token)
  | [] => []
  | (key, value) :: members => (.string key :: .colon :: value.tokens) :: memberTokens members

end

def render (value : Json) : String :=
  .ofList (value.tokens.flatMap Token.render)

end GroundedQA.Json
