import GroundedQA.Text.Alphanumeric
import GroundedQA.Text.Blank
/-!
# Statements

A text is taken apart into statements, roughly its sentences. One ends at a line break, after a
full-width sentence mark, and after `.`, `!` or `?` when white space or nothing follows. What holds
no letter or digit is no statement.
-/

namespace GroundedQA.Evaluation

open Text

/-- The sentence marks that end a statement whatever follows. -/
def fullWidthMarks : List Char := ['。', '！', '？']

/-- The sentence marks that end a statement before white space or at the end of the text. -/
def plainMarks : List Char := ['.', '!', '?']

/-- A statement ends after `c`, given what follows it. -/
def endsStatement (c : Char) (rest : List Char) : Bool :=
  fullWidthMarks.contains c || plainMarks.contains c && rest.head?.all isSpace

/-- Puts a character at the front of the first of some texts. -/
def consFirst (c : Char) : List (List Char) → List (List Char)
  | [] => [[c]]
  | first :: rest => (c :: first) :: rest

/-- The text between the ends of statements, without its line breaks. -/
def sentences : List Char → List (List Char)
  | [] => [[]]
  | c :: cs =>
    if c = '\n' then [] :: sentences cs
    else if endsStatement c cs then [c] :: sentences cs
    else consFirst c (sentences cs)

/-- The text holds a letter or a digit. -/
def hasContent (cs : List Char) : Bool :=
  cs.any isAlphanumeric

/-- The statements of a text, in order. -/
def statementsOf (cs : List Char) : List (List Char) :=
  ((sentences cs).map trim).filter hasContent

def statements (text : String) : List String :=
  (statementsOf text.toList).map String.ofList

end GroundedQA.Evaluation
