import GroundedQA.Text.CodePoints
/-!
# White space

White space is the Unicode property White_Space. A text is *blank* when it holds nothing else, and
trimming removes it from both ends. Everything is stated on lists of characters; the functions on
`String` only convert.
-/

namespace GroundedQA.Text

/-- The code points with the property White_Space. -/
def spaceRanges : List (Nat × Nat) :=
  [(0x9, 0xD), (0x20, 0x20), (0x85, 0x85), (0xA0, 0xA0), (0x1680, 0x1680), (0x2000, 0x200A),
  (0x2028, 0x2029), (0x202F, 0x202F), (0x205F, 0x205F), (0x3000, 0x3000)]

def isSpace (c : Char) : Bool :=
  inRanges spaceRanges c

/-- Only white space, or nothing at all. -/
def isBlank (cs : List Char) : Bool :=
  cs.all isSpace

/-- Without the white space at its start. -/
def trimStart (cs : List Char) : List Char :=
  cs.dropWhile isSpace

/-- Without the white space at its end. -/
def trimEnd (cs : List Char) : List Char :=
  (cs.reverse.dropWhile isSpace).reverse

/-- Without the white space at either end. -/
def trim (cs : List Char) : List Char :=
  trimEnd (trimStart cs)

/-- The text without the white space at either end. -/
def stripped (s : String) : String :=
  .ofList (trim s.toList)

/-- The text holds only white space, or nothing at all. -/
def blank (s : String) : Bool :=
  isBlank s.toList

theorem isBlank_iff {cs : List Char} : isBlank cs ↔ ∀ c ∈ cs, isSpace c := by
  simp [isBlank]

theorem trimStart_eq_nil {cs : List Char} : trimStart cs = [] ↔ isBlank cs := by
  induction cs with
  | nil => simp [trimStart, isBlank]
  | cons c cs ih =>
    by_cases hc : isSpace c
    · rw [trimStart, List.dropWhile_cons_of_pos hc, isBlank, List.all_cons, hc, Bool.true_and]
      exact ih
    · simp [trimStart, isBlank, hc]

/-- Trimming at the start takes off a run of white space and nothing else. -/
theorem takeWhile_append_trimStart (cs : List Char) : cs.takeWhile isSpace ++ trimStart cs = cs :=
  List.takeWhile_append_dropWhile

example : isSpace '\u3000' ∧ isSpace '\x85' ∧ ¬ isSpace '\u200b' := by decide

end GroundedQA.Text
