import GroundedQA.Json.Token
import GroundedQA.Proofs.Text.Hex
/-!
# Strings read as they are written

Each character of a string is written as one piece (`lexPieces?_escapeChar`), and the pieces spell
the string (`spell?_pieces`). So every string is read back off the start of a text that begins with
it (`lexString?_render`), whatever its characters are and whatever follows.
-/

namespace GroundedQA.Json

/-- The piece that a character is written as. -/
def pieceOf (c : Char) : Piece :=
  if c.toNat < 0x20 ∧ c ∉ ['\x08', '\x0c', '\n', '\r', '\t'] then .code c.toNat else .char c

/-- Puts a piece before those of a string. -/
def prepend (piece : Piece) : List Piece × List Char → List Piece × List Char
  | (pieces, rest) => (piece :: pieces, rest)

theorem lexPieces?_code (n : Nat) (h : n < 16 ^ 4) (cs : List Char) :
    lexPieces? ('\\' :: 'u' :: Text.hexPadded 4 n ++ cs) = (lexPieces? cs).map (prepend (.code n)) := by
  have hn := Text.hexNumber?_hexPadded 4 n
  obtain ⟨a, b, c, d, habcd⟩ : ∃ a b c d, Text.hexPadded 4 n = [a, b, c, d] := by
    have hl := Text.length_hexPadded (by decide) h
    match Text.hexPadded 4 n, hl with
    | [a, b, c, d], _ => exact ⟨a, b, c, d, rfl⟩
  rw [habcd] at hn ⊢
  simp only [List.cons_append, List.nil_append, lexPieces?, hn]
  cases lexPieces? cs <;> rfl

theorem lexPieces?_escapeChar (c : Char) (cs : List Char) :
    lexPieces? (escapeChar c ++ cs) = (lexPieces? cs).map (prepend (pieceOf c)) := by
  have hshort (letter : Char) (hl : letter ≠ 'u') (hc : shortEscape? letter = some c) :
      lexPieces? ('\\' :: letter :: cs) = (lexPieces? cs).map (prepend (.char c)) := by
    rw [lexPieces?]
    · rw [hc]
      cases lexPieces? cs <;> rfl
    · intro _ _ _ _ _ hu
      exact absurd hu hl
  unfold escapeChar
  -- The characters that have a letter after the backslash.
  split
  · subst c; exact hshort '"' (by decide) rfl
  split
  · subst c; exact hshort '\\' (by decide) rfl
  split
  · subst c; exact hshort 'b' (by decide) rfl
  split
  · subst c; exact hshort 'f' (by decide) rfl
  split
  · subst c; exact hshort 'n' (by decide) rfl
  split
  · subst c; exact hshort 'r' (by decide) rfl
  split
  · subst c; exact hshort 't' (by decide) rfl
  -- The other characters below the blank, and those that stand for themselves.
  split
  next hb hf hn hr ht hlow =>
    rw [lexPieces?_code _ (by omega), pieceOf, if_pos ⟨hlow, by simp [*]⟩]
  next hquote hslash hb hf hn hr ht hlow =>
    rw [List.singleton_append, lexPieces?, if_neg (by simp [hlow, hslash]), pieceOf, if_neg (fun h => hlow h.1)]
    · rfl
    all_goals simp [hquote, hslash]

/-- A code unit below the blank is no half of a surrogate pair. -/
theorem spell?_code (c : Char) (h : c.toNat < 0x20) (pieces : List Piece) :
    spell? (.code c.toNat :: pieces) = (spell? pieces).map (c :: ·) := by
  have hhigh : isHighSurrogate c.toNat = false := by simp [isHighSurrogate]; omega
  have hlow : isLowSurrogate c.toNat = false := by simp [isLowSurrogate]; omega
  have hc : Char.ofNat c.toNat = c := Char.ofNat_toNat c
  cases pieces with
  | nil => simp [spell?, hhigh, hlow, hc]
  | cons piece pieces => cases piece <;> simp [spell?, hhigh, hlow, hc]

theorem spell?_pieces (cs : List Char) : spell? (cs.map pieceOf) = some cs := by
  induction cs with
  | nil => rfl
  | cons c cs ih =>
    rw [List.map_cons, pieceOf]
    split
    next h => rw [spell?_code c h.1, ih]; rfl
    next => simp [spell?, ih]

theorem lexPieces?_text (s rest : List Char) :
    lexPieces? (s.flatMap escapeChar ++ '"' :: rest) = some (s.map pieceOf, rest) := by
  induction s with
  | nil => rfl
  | cons c s ih =>
    rw [List.flatMap_cons, List.append_assoc, lexPieces?_escapeChar, ih]
    rfl

/-- Every string reads back after its opening quote, and half of a pair as no text. -/
theorem lexString?_render (text : Option String) (rest : List Char) :
    ∃ cs, renderString text ++ rest = '"' :: cs ∧ lexString? cs = some (text, rest) := by
  cases text with
  | none => exact ⟨_, rfl, rfl⟩
  | some s =>
    refine ⟨s.toList.flatMap escapeChar ++ '"' :: rest, ?_, ?_⟩
    · simp [renderString]
    · simp [lexString?, lexPieces?_text, spell?_pieces]

end GroundedQA.Json
