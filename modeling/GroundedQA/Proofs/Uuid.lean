import GroundedQA.Uuid
import GroundedQA.Proofs.Text.Hex
/-!
# Identifiers read as they are written

The hyphenated form of an identifier is none of the other forms: its first digit is no brace and no
`u`, and it has hyphens. So it reads back (`parse?_render`).
-/

namespace GroundedQA.Uuid

theorem length_hexDigits (u : Uuid) : u.hexDigits.length = 32 :=
  Text.length_hexPadded (by decide) u.bits.isLt

/-- Without the hyphens the digits are left. -/
theorem digits_hyphenate {ds : List Char} (h : ds.length = 32) :
    (hyphenate ds).take 8 ++ ((hyphenate ds).drop 9).take 4 ++ ((hyphenate ds).drop 14).take 4 ++
      ((hyphenate ds).drop 19).take 4 ++ (hyphenate ds).drop 24 = ds := by
  have h₁ : ds.drop 8 = (ds.drop 8).take 4 ++ ds.drop 12 := by
    simpa using (List.take_append_drop 4 (ds.drop 8)).symm
  have h₂ : ds.drop 12 = (ds.drop 12).take 4 ++ ds.drop 16 := by
    simpa using (List.take_append_drop 4 (ds.drop 12)).symm
  have h₃ : ds.drop 16 = (ds.drop 16).take 4 ++ ds.drop 20 := by
    simpa using (List.take_append_drop 4 (ds.drop 16)).symm
  simp [hyphenate, List.drop_append, h, List.drop_take]
  rw [← h₃, ← h₂, ← h₁, List.take_append_drop]

theorem length_hyphenate {ds : List Char} (h : ds.length = 32) : (hyphenate ds).length = 36 := by
  simp [hyphenate, h]

theorem ofHyphenated?_hyphenate {ds : List Char} (h : ds.length = 32) : ofHyphenated? (hyphenate ds) = ofHex? ds := by
  unfold ofHyphenated?
  dsimp only
  rw [digits_hyphenate h, length_hyphenate h]
  simp

theorem ofHex?_hexDigits (u : Uuid) : ofHex? u.hexDigits = some u := by
  unfold ofHex?
  rw [if_pos (length_hexDigits u), hexDigits, Text.hexNumber?_hexPadded, Option.map_some, BitVec.ofNat_toNat,
    BitVec.setWidth_eq]

/-- The written form begins with a digit. -/
theorem hyphenate_cons (u : Uuid) : ∃ d < 16, ∃ cs, hyphenate u.hexDigits = Nat.digitChar d :: cs := by
  cases hds : u.hexDigits with
  | nil =>
    have := length_hexDigits u
    simp [hds] at this
  | cons c cs =>
    have hc : c ∈ u.hexDigits := by simp [hds]
    obtain ⟨d, hd, rfl⟩ := Text.mem_hexPadded hc
    exact ⟨d, hd, _, rfl⟩

theorem digitChar_ne {d : Nat} (h : d < 16) : Nat.digitChar d ≠ '\x7b' ∧ (Nat.digitChar d).toLower ≠ 'u' := by
  revert d
  decide

/-- An identifier reads back from its text. -/
theorem parse?_render (u : Uuid) : parse? u.render = some u := by
  have hlength := length_hyphenate (length_hexDigits u)
  have hread : ofHyphenated? (hyphenate u.hexDigits) = some u := by
    rw [ofHyphenated?_hyphenate (length_hexDigits u), ofHex?_hexDigits]
  obtain ⟨d, hd, cs, hcs⟩ := hyphenate_cons u
  obtain ⟨hbrace, hurn⟩ := digitChar_ne hd
  rw [hcs] at hlength hread
  unfold parse? render
  rw [String.toList_ofList, hcs]
  dsimp only
  -- Neither in braces nor with the prefix of a URN.
  split
  next heq => exact absurd (List.cons.inj heq).1 hbrace
  next =>
    rw [if_neg, if_neg, hread]
    · rw [hlength]
      decide
    · intro heq
      exact hurn (List.cons.inj heq).1

end GroundedQA.Uuid
