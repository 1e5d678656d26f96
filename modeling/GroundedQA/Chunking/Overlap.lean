import GroundedQA.Chunking.Cut
/-!
# Where the next chunk starts

With an overlap, the next chunk starts at the first word that begins among the last characters of
the chunk; when none does, at the first of these characters that is no white space; when they are
all white space, at the last word before them, or inside that word when it is the whole chunk.
Without an overlap it starts at the next character that is no white space.
-/

namespace GroundedQA.Chunking

open Text

/-- The first position at which a word begins, given the character before the text. -/
def wordStart? : Char → List Char → Option Nat
  | _, [] => none
  | before, c :: cs =>
    if isSpace before && !isSpace c then some 0 else (wordStart? c cs).map (· + 1)

/-- The first position from `i` on at which a word begins; the start of the text begins none. -/
def wordStartFrom? (cs : List Char) (i : Nat) : Option Nat :=
  match cs.drop (i - 1) with
  | [] => none
  | before :: cs => (wordStart? before cs).map (· + i)

/-- The length of the last word of a text that ends in one. -/
def lastWordLength (cs : List Char) : Nat :=
  (cs.reverse.takeWhile fun c => !isSpace c).length

/-- Where the chunk after `rest.take cut` starts, counted from the start of `rest`. -/
def nextStart (overlap : Nat) (rest : List Char) (cut : Nat) : Nat :=
  if overlap = 0 then nextInk rest cut
  else
    let window := cut - overlap
    match wordStartFrom? (rest.take cut) window with
    | some start => start
    | none =>
      if nextInk rest window < cut then nextInk rest window
      else
        let body := trimEnd (rest.take window)
        let wordStart := body.length - lastWordLength body
        if 0 < wordStart then wordStart
        else if 1 < body.length then max (body.length - overlap) 1
        else nextInk rest cut

end GroundedQA.Chunking
