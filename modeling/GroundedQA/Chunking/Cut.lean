import GroundedQA.Text.Blank
/-!
# Where a chunk ends

A chunk ends right after a separator, if one ends far enough into its window. Separators come in
levels: blank line, line break, end of a sentence, space. The first level with a usable place wins,
and of the places of that level the last. Without any, the window is used up.
-/

namespace GroundedQA.Chunking

open Text

/-- The separators in descending priority; those of one level rank equal. -/
def separatorLevels : List (List (List Char)) :=
  [[['\n', '\n']], [['\n']], [['.', ' '], ['!', ' '], ['?', ' ']], [[' ']]]

/-- The positions at which a separator ends, counted from `start` characters before the text. -/
def separatorEnds (separators : List (List Char)) (start : Nat) : List Char → List Nat
  | [] => []
  | c :: cs =>
    (separators.filter (·.isPrefixOf (c :: cs))).map (start + ·.length) ++
      separatorEnds separators (start + 1) cs

/-- The last position, at least `least`, at which one of the separators ends. -/
def lastEnd? (window : List Char) (least : Nat) (separators : List (List Char)) : Option Nat :=
  ((separatorEnds separators 0 window).filter (least ≤ ·)).max?

/-- Where a window is cut: at the last usable end of the best level that has one, else at its edge. -/
def cutPoint (window : List Char) (least : Nat) : Nat :=
  (separatorLevels.findSome? (lastEnd? window least)).getD window.length

/-- The first position from `i` on that holds no white space; the end of the text when all do. -/
def nextInk (cs : List Char) (i : Nat) : Nat :=
  i + ((cs.drop i).takeWhile isSpace).length

/-- The least acceptable cut of a chunk of the text `rest`, of which earlier chunks have taken the
first `taken` characters if there are earlier ones. It lies past the overlap, takes in something new
that is no white space, and with a positive overlap a second such character, at which the following
chunk can start. -/
def leastCut (overlap : Nat) (rest : List Char) (taken : Option Nat) : Nat :=
  let pastOverlap := overlap + 1
  let pastTaken := taken.elim 0 fun n => nextInk rest n + 1
  let pastSecond := if 0 < overlap then nextInk rest 1 + 1 else 0
  max (max pastOverlap pastTaken) pastSecond

end GroundedQA.Chunking
