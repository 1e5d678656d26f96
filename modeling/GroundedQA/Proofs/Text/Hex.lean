import GroundedQA.Text.Hex
import Mathlib.Tactic.Common
/-!
# Hexadecimal digits read as they are written

A number reads back from its digits (`hexNumber?_hexDigits`), also when they are filled up with
zeros (`hexNumber?_hexPadded`).
-/

namespace GroundedQA.Text

theorem hexValue?_digitChar {d : Nat} (h : d < 16) : hexValue? d.digitChar = some d := by
  revert d
  decide

theorem hexNumber?_append_singleton (cs : List Char) (c : Char) :
    hexNumber? (cs ++ [c]) = (hexNumber? cs).bind fun n => (hexValue? c).map (n * 16 + ·) := by
  unfold hexNumber?
  rw [List.foldlM_append]
  cases cs.foldlM (fun n c => (hexValue? c).map (n * 16 + ·)) 0 with
  | none => rfl
  | some n => simp

/-- A number reads back from its digits. -/
theorem hexNumber?_hexDigits (n : Nat) : hexNumber? (hexDigits n) = some n := by
  induction n using Nat.strongRecOn with
  | _ n ih =>
    unfold hexDigits at ih ⊢
    rw [Nat.toDigits_eq_if (by decide)]
    split
    next hn => simp [hexNumber?, hexValue?_digitChar hn]
    next hn =>
      rw [hexNumber?_append_singleton, ih (n / 16) (by omega), hexValue?_digitChar (Nat.mod_lt _ (by decide))]
      simp
      omega

theorem hexNumber?_zeros (k : Nat) (cs : List Char) : hexNumber? (List.replicate k '0' ++ cs) = hexNumber? cs := by
  induction k with
  | zero => rfl
  | succ k ih => exact ih

/-- Leading zeros do not change the number. -/
theorem hexNumber?_hexPadded (width n : Nat) : hexNumber? (hexPadded width n) = some n := by
  rw [hexPadded, hexNumber?_zeros, hexNumber?_hexDigits]

theorem length_hexPadded {width n : Nat} (hw : 0 < width) (h : n < 16 ^ width) : (hexPadded width n).length = width := by
  have : (hexDigits n).length ≤ width := (Nat.length_toDigits_le_iff (by decide) hw).2 h
  simp [hexPadded]
  omega

/-- Nothing but digits stands in the digits of a number. -/
theorem mem_hexDigits {n : Nat} {c : Char} (h : c ∈ hexDigits n) : ∃ d < 16, c = Nat.digitChar d := by
  induction n using Nat.strongRecOn with
  | _ n ih =>
    unfold hexDigits at ih h
    rw [Nat.toDigits_eq_if (by decide)] at h
    split at h
    next hn => exact ⟨n, hn, by simpa using h⟩
    next hn =>
      rcases List.mem_append.1 h with h | h
      · exact ih (n / 16) (by omega) h
      · exact ⟨n % 16, Nat.mod_lt _ (by decide), by simpa using h⟩

theorem mem_hexPadded {width n : Nat} {c : Char} (h : c ∈ hexPadded width n) : ∃ d < 16, c = Nat.digitChar d := by
  rcases List.mem_append.1 h with h | h
  · exact ⟨0, by decide, List.eq_of_mem_replicate h⟩
  · exact mem_hexDigits h

end GroundedQA.Text
