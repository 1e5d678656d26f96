import GroundedQA.Text.Hex
import GroundedQA.Text.Pieces
/-!
# Sets of code points

A property of characters is given by a table of ranges of code points. A table may be written in
words, each a code point in hexadecimal digits or two of them with a hyphen between.
-/

namespace GroundedQA.Text

/-- The character's code point lies in one of the ranges, both ends included. -/
def inRanges (ranges : List (Nat × Nat)) (c : Char) : Bool :=
  ranges.any fun r => r.1 ≤ c.toNat && c.toNat ≤ r.2

theorem inRanges_iff {ranges : List (Nat × Nat)} {c : Char} :
    inRanges ranges c ↔ ∃ r ∈ ranges, r.1 ≤ c.toNat ∧ c.toNat ≤ r.2 := by
  simp [inRanges]

/-! ## Tables in words -/

/-- The words of a table, which stand between spaces. -/
def tableWords (lines : List String) : List (List Char) :=
  lines.flatMap fun line => filledPieces (· = ' ') line.toList

/-- One code point, as `B5`, or a range of them, as `C0-D6`. -/
def range? (word : List Char) : Option (Nat × Nat) :=
  match pieces (· = '-') word with
  | [only] => (hexNumber? only).map fun n => (n, n)
  | [first, last] => do return (← hexNumber? first, ← hexNumber? last)
  | _ => none

/-- The ranges that the words of a table give. -/
def ranges (lines : List String) : List (Nat × Nat) :=
  (tableWords lines).filterMap range?

example : ranges ["B5 C0-D6", "F7"] = [(0xB5, 0xB5), (0xC0, 0xD6), (0xF7, 0xF7)] := by decide +kernel

end GroundedQA.Text
