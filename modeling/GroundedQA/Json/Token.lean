import GroundedQA.Number.Numeral
import GroundedQA.Text.Hex
/-!
# JSON tokens

A document is a sequence of tokens, with blank space, tab, line feed and carriage return free
between them. `Token.lex?` takes a text apart and `Token.render` writes one token.

In a string, a quote, a backslash and the characters below U+0020 are escaped. A character beyond
U+FFFF may be escaped as a surrogate pair; half of a pair by itself is no character, and the string
it stands in has no text.
-/

namespace GroundedQA.Json

/-- A lexical element of a document. -/
inductive Token where
  | openArray
  | closeArray
  | openObject
  | closeObject
  | comma
  | colon
  | null
  | bool (value : Bool)
  | number (value : Number.Numeral)
  | string (text : Option String)
deriving DecidableEq, Repr

/-! ## Strings -/

/-- What stands in a string: a character, or a code unit escaped by its four digits. -/
inductive Piece where
  | char (c : Char)
  | code (unit : Nat)
deriving DecidableEq, Repr

/-- The first code unit of a surrogate pair. -/
def isHighSurrogate (unit : Nat) : Bool := 0xD800 ≤ unit && unit < 0xDC00

/-- The second code unit of a surrogate pair. -/
def isLowSurrogate (unit : Nat) : Bool := 0xDC00 ≤ unit && unit < 0xE000

/-- The characters that the pieces spell, unless half of a surrogate pair stands alone. -/
def spell? : List Piece → Option (List Char)
  | [] => some []
  | .char c :: rest => (spell? rest).map (c :: ·)
  | .code high :: .code low :: rest =>
    if isHighSurrogate high then
      if isLowSurrogate low then
        (spell? rest).map (Char.ofNat (0x10000 + (high - 0xD800) * 0x400 + (low - 0xDC00)) :: ·)
      else none
    else if isLowSurrogate high then none
    else (spell? (.code low :: rest)).map (Char.ofNat high :: ·)
  | .code unit :: rest =>
    if isHighSurrogate unit || isLowSurrogate unit then none
    else (spell? rest).map (Char.ofNat unit :: ·)

/-- The character that a backslash and this letter stand for. -/
def shortEscape? : Char → Option Char
  | '"' => some '"'
  | '\\' => some '\\'
  | '/' => some '/'
  | 'b' => some '\x08'
  | 'f' => some '\x0c'
  | 'n' => some '\n'
  | 'r' => some '\r'
  | 't' => some '\t'
  | _ => none

/-- The pieces of a string up to its closing quote, and what follows that. -/
def lexPieces? : List Char → Option (List Piece × List Char)
  | [] => none
  | '"' :: rest => some ([], rest)
  | '\\' :: 'u' :: a :: b :: c :: d :: rest => do
    let unit ← Text.hexNumber? [a, b, c, d]
    let (pieces, rest) ← lexPieces? rest
    return (.code unit :: pieces, rest)
  | '\\' :: letter :: rest => do
    let c ← shortEscape? letter
    let (pieces, rest) ← lexPieces? rest
    return (.char c :: pieces, rest)
  | c :: rest =>
    if c.toNat < 0x20 || c = '\\' then none
    else (lexPieces? rest).map fun (pieces, rest) => (.char c :: pieces, rest)

/-- A string after its opening quote. -/
def lexString? (cs : List Char) : Option (Option String × List Char) :=
  (lexPieces? cs).map fun (pieces, rest) => ((spell? pieces).map String.ofList, rest)

/-- A character as it is written in a string. -/
def escapeChar (c : Char) : List Char :=
  if c = '"' then ['\\', '"']
  else if c = '\\' then ['\\', '\\']
  else if c = '\x08' then ['\\', 'b']
  else if c = '\x0c' then ['\\', 'f']
  else if c = '\n' then ['\\', 'n']
  else if c = '\r' then ['\\', 'r']
  else if c = '\t' then ['\\', 't']
  else if c.toNat < 0x20 then '\\' :: 'u' :: Text.hexPadded 4 c.toNat
  else [c]

/-- A string in quotes; the one that has no text is half of a surrogate pair. -/
def renderString : Option String → List Char
  | some s => '"' :: (s.toList.flatMap escapeChar ++ ['"'])
  | none => ['"', '\\', 'u', 'd', '8', '0', '0', '"']

/-! ## Documents -/

def Token.render : Token → List Char
  | .openArray => ['[']
  | .closeArray => [']']
  | .openObject => ['\x7b']
  | .closeObject => ['\x7d']
  | .comma => [',']
  | .colon => [':']
  | .null => ['n', 'u', 'l', 'l']
  | .bool true => ['t', 'r', 'u', 'e']
  | .bool false => ['f', 'a', 'l', 's', 'e']
  | .number n => n.render
  | .string s => renderString s

/-- The token that a text begins with, and what follows it. -/
def Token.first? : List Char → Option (Token × List Char)
  | '[' :: cs => some (.openArray, cs)
  | ']' :: cs => some (.closeArray, cs)
  | '\x7b' :: cs => some (.openObject, cs)
  | '\x7d' :: cs => some (.closeObject, cs)
  | ',' :: cs => some (.comma, cs)
  | ':' :: cs => some (.colon, cs)
  | 'n' :: 'u' :: 'l' :: 'l' :: cs => some (.null, cs)
  | 't' :: 'r' :: 'u' :: 'e' :: cs => some (.bool true, cs)
  | 'f' :: 'a' :: 'l' :: 's' :: 'e' :: cs => some (.bool false, cs)
  | '"' :: cs => (lexString? cs).map fun (s, rest) => (.string s, rest)
  | cs => (Number.Numeral.lex? cs).map fun (n, rest) => (.number n, rest)

/-- A character that may stand between tokens. -/
def isFiller (c : Char) : Bool :=
  c = ' ' || c = '\n' || c = '\t' || c = '\r'

/-- Takes tokens off a text until it is used up; the first argument bounds how many. -/
def Token.lexUpTo : Nat → List Char → Option (List Token)
  | 0, cs => if (cs.dropWhile isFiller).isEmpty then some [] else none
  | bound + 1, cs =>
    match cs.dropWhile isFiller with
    | [] => some []
    | c :: cs => do
      let (token, rest) ← Token.first? (c :: cs)
      let tokens ← Token.lexUpTo bound rest
      return token :: tokens

/-- The tokens of a text, if it consists of tokens. -/
def Token.lex? (cs : List Char) : Option (List Token) :=
  Token.lexUpTo cs.length cs

example : lexString? "a\\ud83d\\ude00\"x".toList = some (some "a😀", ['x']) := by cbv
example : (lexString? "\\ud83d\"".toList) = some (none, []) := by cbv

end GroundedQA.Json
