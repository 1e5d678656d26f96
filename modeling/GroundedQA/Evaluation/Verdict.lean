import GroundedQA.Error
import GroundedQA.Text.Alphanumeric
import GroundedQA.Text.Blank
import GroundedQA.Text.Pieces
/-!
# Verdicts

A judge answers yes or no in its own words. The first word that decides counts, whatever stands
around it; a word is a run of letters and digits, and its case does not matter. When no word
decides, the first letter or digit may be a character that means yes or no.
-/

namespace GroundedQA.Evaluation

open Text

def words (cs : List Char) : List (List Char) :=
  filledPieces (!isAlphanumeric ·) cs

/-- The verdict of a word. No character beyond ASCII is a capital of the letters in these words. -/
def wordVerdict? (word : List Char) : Option Bool :=
  let word := String.ofList (word.map Char.toLower)
  if word = "yes" ∨ word = "true" then some true
  else if word = "no" ∨ word = "false" then some false
  else none

/-- The verdict of a character that opens a reply. -/
def openingVerdict? (c : Char) : Option Bool :=
  if c = '是' then some true
  else if c = '否' ∨ c = '不' then some false
  else none

def verdict? (cs : List Char) : Option Bool :=
  ((words cs).findSome? wordVerdict?).or ((cs.find? isAlphanumeric).bind openingVerdict?)

/-- The verdict of a reply; a reply without one is a fault that shows the reply. -/
def readVerdict (reply : String) : Except MetricFault Bool :=
  match verdict? (trim reply.toList) with
  | some verdict => .ok verdict
  | none => .error (.unrecognisedVerdict (stripped reply))

example : verdict? "**YES** - the context says so".toList = some true := by decide +kernel
example : verdict? "Verdict: false".toList = some false := by decide +kernel
example : verdict? "不是".toList = some false ∧ verdict? "maybe".toList = none := by decide +kernel

end GroundedQA.Evaluation
