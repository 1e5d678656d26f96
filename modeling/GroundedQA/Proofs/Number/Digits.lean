import GroundedQA.Number.Digits
import Mathlib.Tactic.Common
/-!
# The digits of a number

A number below ten has one digit, any other has those of its tenth and one more (`digits_eq`). So a
digit zero comes first only in the number zero, and as many digits as a number has are the power of
ten that it lies below.
-/

namespace GroundedQA.Number

theorem digitsOnto_append (fuel n : Nat) (acc : List Digit) :
    digitsOnto fuel n acc = digitsOnto fuel n [] ++ acc := by
  induction fuel generalizing n acc with
  | zero => rfl
  | succ fuel ih =>
    unfold digitsOnto
    split
    · rfl
    · rw [ih, ih _ [_], List.append_assoc]
      rfl

/-- More fuel than the number gives the same digits. -/
theorem digitsOnto_congr {fuel fuel' n : Nat} (h : n < fuel) (h' : n < fuel') (acc : List Digit) :
    digitsOnto fuel n acc = digitsOnto fuel' n acc := by
  induction fuel generalizing fuel' n acc with
  | zero => omega
  | succ fuel ih =>
    obtain ⟨fuel', rfl⟩ : ∃ k, fuel' = k + 1 := ⟨fuel' - 1, by omega⟩
    unfold digitsOnto
    split
    · rfl
    · exact ih (by omega) (by omega) _

/-- The last digit of a number. -/
def lastDigit (n : Nat) : Digit := Fin.ofNat 10 n

theorem digits_eq (n : Nat) :
    digits n = if n < 10 then [lastDigit n] else digits (n / 10) ++ [lastDigit n] := by
  rw [digits, digitsOnto]
  split
  · rfl
  · -- One unit of fuel is spent, and what is left is still more than the tenth.
    have hfuel : digitsOnto n (n / 10) [] = digits (n / 10) := digitsOnto_congr (by omega) (by omega) _
    rw [digitsOnto_append, hfuel]
    rfl

/-- A digit zero comes first only when it is the only one. -/
theorem digits_head {n : Nat} {d : Digit} {ds : List Digit} (h : digits n = d :: ds) (hds : ds ≠ []) :
    d ≠ 0 := by
  induction n using Nat.strongRecOn generalizing d ds with
  | _ n ih =>
    rw [digits_eq] at h
    split at h
    · exact absurd (List.cons.inj h).2.symm hds
    next hn =>
    obtain ⟨e, es, he⟩ := List.exists_cons_of_ne_nil (digits_ne_nil (n / 10))
    rw [he, List.cons_append, List.cons.injEq] at h
    by_cases hes : es = []
    · -- The tenth has one digit, which is its value.
      intro hd
      have hv := ofDigits_digits (n / 10)
      rw [he, hes, h.1, hd, ofDigits_cons] at hv
      simp [ofDigits_eq_foldl] at hv
      omega
    · exact h.1 ▸ ih (n / 10) (by omega) he hes

theorem toChar_lastDigit (n : Nat) : (lastDigit n).toChar = (n % 10).digitChar := by
  have hall : ∀ d : Digit, d.toChar = d.val.digitChar := by decide
  exact hall (lastDigit n)

theorem map_toChar_digits (n : Nat) : (digits n).map Digit.toChar = Nat.toDigits 10 n := by
  induction n using Nat.strongRecOn with
  | _ n ih =>
    rw [digits_eq, Nat.toDigits_eq_if (by decide)]
    split
    · next h => rw [List.map_singleton, toChar_lastDigit, Nat.mod_eq_of_lt h]
    · next h => rw [List.map_append, ih (n / 10) (by omega), List.map_singleton, toChar_lastDigit]

/-- The decimal of a number is its usual text. -/
theorem decimal_eq_toString (n : Nat) : decimal n = toString n := by
  rw [decimal, map_toChar_digits, Nat.toString_eq_repr, Nat.repr_eq_ofList_toDigits]

theorem ofDigits_lt (ds : List Digit) : ofDigits ds < 10 ^ ds.length := by
  induction ds with
  | nil => simp [ofDigits_eq_foldl]
  | cons d ds ih =>
    rw [ofDigits_cons, List.length_cons, Nat.pow_succ]
    have hd : d.val * 10 ^ ds.length ≤ 9 * 10 ^ ds.length := Nat.mul_le_mul_right _ (by omega)
    omega

theorem lt_pow_length_digits (n : Nat) : n < 10 ^ (digits n).length := by
  have := ofDigits_lt (digits n)
  rwa [ofDigits_digits] at this

end GroundedQA.Number
