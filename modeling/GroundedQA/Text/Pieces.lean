/-!
# The pieces of a text between separators

`pieces` takes a text apart at every character that separates, and keeps empty pieces: there is one
more of them than there are separators, and together they are all of the text but these.
-/

namespace GroundedQA.Text

/-- The pieces between the characters that separate. -/
def pieces (separates : Char → Bool) : List Char → List (List Char)
  | [] => [[]]
  | c :: cs =>
    if separates c then [] :: pieces separates cs
    else
      match pieces separates cs with
      | [] => [[c]]
      | piece :: rest => (c :: piece) :: rest

/-- The pieces that are not empty. -/
def filledPieces (separates : Char → Bool) (cs : List Char) : List (List Char) :=
  (pieces separates cs).filter (!·.isEmpty)

theorem pieces_ne_nil (separates : Char → Bool) (cs : List Char) : pieces separates cs ≠ [] := by
  cases cs with
  | nil => simp [pieces]
  | cons c cs =>
    rw [pieces]
    split
    · simp
    · split <;> simp

/-- A separator ends one piece and begins the next: what `pieces` does to a text follows from this. -/
theorem pieces_append_cons {separates : Char → Bool} {c : Char} (h : separates c) (xs ys : List Char) :
    pieces separates (xs ++ c :: ys) = pieces separates xs ++ pieces separates ys := by
  induction xs with
  | nil => simp [pieces, h]
  | cons x xs ih =>
    rw [List.cons_append, pieces, pieces]
    split
    · simp [ih]
    · rw [ih]
      split
      · next hp => exact absurd (List.append_eq_nil_iff.1 hp).1 (pieces_ne_nil _ _)
      · next first rest hp =>
        obtain ⟨piece, others, hx⟩ := List.exists_cons_of_ne_nil (pieces_ne_nil separates xs)
        rw [hx, List.cons_append] at hp
        obtain ⟨rfl, rfl⟩ := List.cons.inj hp
        simp [hx]

end GroundedQA.Text
