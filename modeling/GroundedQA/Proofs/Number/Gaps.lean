import GroundedQA.Proofs.Number.Rounding
import Mathlib.Data.Nat.GCD.Basic
import Mathlib.Tactic.FieldSimp
/-!
# Gaps between decimals and binary numbers

A decimal `d * 10 ^ k` and a number `M * 2 ^ j` of 25 bits may be equal, but if they are not, they are
five parts in `2 ^ 54` apart at least; there are two families of exceptions (`gap`).

For each power of ten this follows from a single fraction `p / q` that is close to it, up to a power of
two: any other fraction `M / n` of that size is too far from `p / q` to be close to the power as well
(`Separates.eq_or_apart`). The fraction is found among the convergents of the power (`exists_fraction`).
-/

namespace GroundedQA.Number

/-- How far `q * a` is from `p * b`. -/
def offset (a b p q : ℕ) : ℕ :=
  ((q * a : ℤ) - p * b).natAbs

/-- `p / q` is so close to `a / b` that no other fraction with a numerator of 25 bits is. -/
structure Separates (a b p q : ℕ) : Prop where
  coprime : p.Coprime q
  close : (2 ^ 54 + 5) * offset a b p q + 5 * q * a ≤ 2 ^ 29 * a

variable {a b p q M n : ℕ}

/-- The offsets of two fractions differ by what makes the fractions differ. -/
theorem le_offsets (hne : M * q ≠ p * n) : b ≤ n * offset a b p q + q * offset a b M n := by
  have hsplit : (b : ℤ) * (M * q - p * n) = n * (q * a - p * b) - q * (n * a - M * b) := by ring
  have hpos : 1 ≤ ((M * q : ℤ) - p * n).natAbs := by
    refine Int.natAbs_pos.2 fun hzero => hne ?_
    exact_mod_cast sub_eq_zero.1 hzero
  calc b ≤ b * ((M * q : ℤ) - p * n).natAbs := Nat.le_mul_of_pos_right b hpos
    _ = ((n : ℤ) * (q * a - p * b) - q * (n * a - M * b)).natAbs := by
      rw [← hsplit, Int.natAbs_mul, Int.natAbs_natCast]
    _ ≤ ((n : ℤ) * (q * a - p * b)).natAbs + ((q : ℤ) * (n * a - M * b)).natAbs := Int.natAbs_sub_le ..
    _ = n * offset a b p q + q * offset a b M n := by
      rw [Int.natAbs_mul, Int.natAbs_mul, Int.natAbs_natCast, Int.natAbs_natCast]
      rfl

/-- Another fraction is off, since a whole number that is not zero is at least one. -/
theorem Separates.eq_or_apart (h : Separates a b p q) (ha : 0 < a) (hb : 0 < b) (hM : M < 2 ^ 25) :
    M * q = p * n ∨ 5 * M * b ≤ 2 ^ 54 * offset a b M n := by
  refine or_iff_not_imp_left.2 fun hne => ?_
  by_contra hnear
  have hnear' : 2 ^ 54 * offset a b M n ≤ 5 * M * b := by omega
  have hna : 2 ^ 54 * (n * a) ≤ (2 ^ 54 + 5) * (M * b) := by
    have hle : (n * a : ℤ) ≤ offset a b M n + M * b := by
      have := Int.le_natAbs (a := n * a - M * b)
      unfold offset
      omega
    have hle' : n * a ≤ offset a b M n + M * b := by exact_mod_cast hle
    rw [Nat.mul_assoc] at hnear'
    omega
  have hsmall : M * 2 ^ 29 < 2 ^ 54 := by omega
  refine Nat.lt_irrefl (2 ^ 54 * (a * b)) ?_
  calc 2 ^ 54 * (a * b) ≤ 2 ^ 54 * (a * (n * offset a b p q + q * offset a b M n)) :=
        Nat.mul_le_mul_left _ (Nat.mul_le_mul_left a (le_offsets hne))
    _ = 2 ^ 54 * (n * a) * offset a b p q + q * a * (2 ^ 54 * offset a b M n) := by ring
    _ ≤ (2 ^ 54 + 5) * (M * b) * offset a b p q + q * a * (5 * M * b) :=
        Nat.add_le_add (Nat.mul_le_mul_right _ hna) (Nat.mul_le_mul_left _ hnear')
    _ = M * b * ((2 ^ 54 + 5) * offset a b p q + 5 * q * a) := by ring
    _ ≤ M * b * (2 ^ 29 * a) := Nat.mul_le_mul_left _ h.close
    _ = M * 2 ^ 29 * (a * b) := by ring
    _ < 2 ^ 54 * (a * b) := Nat.mul_lt_mul_of_pos_right hsmall (Nat.mul_pos ha hb)

theorem Separates.exists_multiple (h : Separates a b p q) (hpos : 0 < M) (hq : M * q = p * n) :
    ∃ t, M = p * t ∧ n = q * t := by
  obtain ⟨t, rfl⟩ : p ∣ M := h.coprime.dvd_of_dvd_mul_right ⟨n, hq⟩
  have hp : 0 < p := Nat.pos_of_mul_pos_right hpos
  refine ⟨t, rfl, Nat.eq_of_mul_eq_mul_left hp ?_⟩
  rw [← hq]
  ring

/-! ## Powers of ten -/

/-- The largest power of two that is not above `10 ^ k`, as its exponent. -/
def binade (k : ℤ) : ℤ :=
  k * 217706 / 65536

/-- `10 ^ k / 2 ^ binade k` is `numerator k / denominator k`. -/
def numerator (k : ℤ) : ℕ :=
  10 ^ k.toNat * 2 ^ (-binade k).toNat

def denominator (k : ℤ) : ℕ :=
  10 ^ (-k).toNat * 2 ^ (binade k).toNat

/-- The convergents of `a / b`, after the last two of them. -/
def convergents (p q p' q' : ℕ) : ℕ → ℕ → ℕ → List (ℕ × ℕ)
  | 0, _, _ => []
  | steps + 1, a, b =>
    if b = 0 then []
    else
      let next := (a / b * p' + p, a / b * q' + q)
      next :: convergents p' q' next.1 next.2 steps b (a % b)

/-- The two fractions that a number of 25 bits may come too close to. -/
def IsException (k : ℤ) (p q : ℕ) : Prop :=
  (k = -32 ∧ p = 22841339 ∧ q = 14077062) ∨ (k = -15 ∧ p = 28874659 ∧ q = 25645849)

instance (k : ℤ) (p q : ℕ) : Decidable (IsException k p q) :=
  inferInstanceAs (Decidable (_ ∨ _))

/-- What saves the numbers that are `p / q`: they are exact, or far away, or not odd numbers of 25 bits. -/
def IsHarmless (k : ℤ) (p q : ℕ) : Prop :=
  (q * numerator k = p * denominator k ∧ k.natAbs ≤ 22) ∨
    5 * p * denominator k ≤ 2 ^ 54 * offset (numerator k) (denominator k) p q ∨
    p % 2 = 0 ∨ 2 ^ 25 ≤ p ∨ IsException k p q

instance (k : ℤ) (p q : ℕ) : Decidable (IsHarmless k p q) :=
  inferInstanceAs (Decidable (_ ∨ _))

instance (a b p q : ℕ) : Decidable (Separates a b p q) :=
  decidable_of_iff (p.Coprime q ∧ (2 ^ 54 + 5) * offset a b p q + 5 * q * a ≤ 2 ^ 29 * a)
    ⟨fun h => ⟨h.1, h.2⟩, fun h => ⟨h.coprime, h.close⟩⟩

theorem exists_fraction {k : ℤ} (hmin : -45 ≤ k) (hmax : k ≤ 45) :
    numerator k < 2 * denominator k ∧ ∃ p q, Separates (numerator k) (denominator k) p q ∧ IsHarmless k p q := by
  have hall : ∀ n < (91 : ℕ), numerator (n - 45) < 2 * denominator (n - 45) ∧
      ∃ f ∈ convergents 0 1 1 0 100 (numerator (n - 45)) (denominator (n - 45)),
        Separates (numerator (n - 45)) (denominator (n - 45)) f.1 f.2 ∧ IsHarmless (n - 45) f.1 f.2 := by
    decide +kernel
  have hk : ((k + 45).toNat : ℤ) - 45 = k := by omega
  have hcase := hall (k + 45).toNat (by omega)
  rw [hk] at hcase
  obtain ⟨hlt, ⟨p, q⟩, -, hf⟩ := hcase
  exact ⟨hlt, p, q, hf⟩

theorem numerator_pos (k : ℤ) : 0 < numerator k :=
  Nat.mul_pos (Nat.pow_pos (by decide)) (Nat.two_pow_pos _)

theorem denominator_pos (k : ℤ) : 0 < denominator k :=
  Nat.mul_pos (Nat.pow_pos (by decide)) (Nat.two_pow_pos _)

theorem ten_zpow_eq (k : ℤ) : (10 : ℚ) ^ k = numerator k / denominator k * 2 ^ binade k := by
  rw [zpow_eq_div (by norm_num) k, zpow_eq_div two_ne_zero (binade k), numerator, denominator]
  push_cast
  field_simp

theorem le_binade {k j : ℤ} (hmin : -45 ≤ k) (hmax : k ≤ 45) (hj : (2 : ℚ) ^ j ≤ 10 ^ k) : j ≤ binade k := by
  have hb : (0 : ℚ) < denominator k := by exact_mod_cast denominator_pos k
  have hpow : (2 : ℚ) ^ j < 2 ^ (1 + binade k) := by
    refine lt_of_le_of_lt hj ?_
    rw [ten_zpow_eq, two_zpow_add]
    refine mul_lt_mul_of_pos_right ?_ (two_zpow_pos _)
    rw [div_lt_iff₀ hb]
    exact_mod_cast (exists_fraction hmin hmax).1
  have := (zpow_lt_zpow_iff_right₀ one_lt_two).1 hpow
  omega

theorem offset_mul (a b p q t : ℕ) : offset a b (p * t) (q * t) = t * offset a b p q := by
  unfold offset
  rw [← Int.natAbs_natCast t, ← Int.natAbs_mul, Int.natAbs_natCast]
  congr 1
  push_cast
  ring

/-- What becomes of a multiple of `p / q`. -/
theorem IsHarmless.multiple {k : ℤ} {t : ℕ} (h : IsHarmless k p q) (hodd : p * t % 2 = 1) (hM : p * t < 2 ^ 25) :
    (q * t * numerator k = p * t * denominator k ∧ k.natAbs ≤ 22) ∨
      5 * (p * t) * denominator k ≤ 2 ^ 54 * offset (numerator k) (denominator k) (p * t) (q * t) ∨
      IsException k (p * t) (q * t) := by
  have ht : 0 < t := by
    rcases Nat.eq_zero_or_pos t with rfl | ht
    · simp at hodd
    · exact ht
  rcases h with ⟨hexact, hk⟩ | hapart | heven | hlarge | hexception
  · refine .inl ⟨?_, hk⟩
    rw [Nat.mul_right_comm, hexact, Nat.mul_right_comm]
  · refine .inr (.inl ?_)
    rw [offset_mul]
    calc 5 * (p * t) * denominator k = t * (5 * p * denominator k) := by ring
      _ ≤ t * (2 ^ 54 * offset (numerator k) (denominator k) p q) := Nat.mul_le_mul_left t hapart
      _ = _ := by ring
  · rw [Nat.mul_mod, heven] at hodd
    simp at hodd
  · exact absurd hM (Nat.not_lt.2 (hlarge.trans (Nat.le_mul_of_pos_right p ht)))
  · -- Twice the numerator would have a bit too many.
    have hp : 2 ^ 24 ≤ p := by
      rcases hexception with ⟨-, rfl, -⟩ | ⟨-, rfl, -⟩ <;> decide
    have hone : t = 1 := by
      by_contra hne
      have := Nat.mul_le_mul hp (show 2 ≤ t by omega)
      omega
    rw [hone, Nat.mul_one, Nat.mul_one]
    exact .inr (.inr hexception)

/-- A decimal that is not too fine for the number is equal to it, or apart from it, or an exception. -/
theorem gap {k j : ℤ} {d : ℕ} (hmin : -45 ≤ k) (hmax : k ≤ 45) (hodd : M % 2 = 1) (hM : M < 2 ^ 25)
    (hj : (2 : ℚ) ^ j ≤ 10 ^ k) :
    (d * 10 ^ k = (M * 2 ^ j : ℚ) ∧ k.natAbs ≤ 22) ∨ M * 2 ^ j * (5 / 2 ^ 54) ≤ |(d * 10 ^ k - M * 2 ^ j : ℚ)| ∨
      IsException k M (d * 2 ^ (binade k - j).toNat) := by
  obtain ⟨-, p, q, hseparates, hharmless⟩ := exists_fraction hmin hmax
  obtain ⟨n, hn⟩ : ∃ n, n = d * 2 ^ (binade k - j).toNat := ⟨_, rfl⟩
  have hb : (0 : ℚ) < denominator k := by exact_mod_cast denominator_pos k
  have hunit := two_zpow_pos j
  have hle := le_binade hmin hmax hj
  have hvalue : (d * 10 ^ k : ℚ) = n * numerator k / denominator k * 2 ^ j := by
    have hsplit : binade k = (binade k - j).toNat + j := by omega
    rw [ten_zpow_eq, hn]
    conv_lhs => rw [hsplit, two_zpow_add, two_zpow_natCast]
    push_cast
    ring
  have hdiff : |(d * 10 ^ k - M * 2 ^ j : ℚ)| = offset (numerator k) (denominator k) M n / denominator k * 2 ^ j := by
    have hfraction : (n * numerator k / denominator k * 2 ^ j - M * 2 ^ j : ℚ) =
        (n * numerator k - M * denominator k : ℤ) / denominator k * 2 ^ j := by
      push_cast
      field_simp
    rw [hvalue, hfraction, abs_mul, abs_div, abs_of_pos hunit, abs_of_pos hb, offset, Nat.cast_natAbs]
    push_cast
    rfl
  have hapart (h : 5 * M * denominator k ≤ 2 ^ 54 * offset (numerator k) (denominator k) M n) :
      M * 2 ^ j * (5 / 2 ^ 54) ≤ |(d * 10 ^ k - M * 2 ^ j : ℚ)| := by
    have hcast : (5 * M * denominator k : ℚ) ≤ 2 ^ 54 * offset (numerator k) (denominator k) M n := by exact_mod_cast h
    rw [hdiff, mul_right_comm]
    refine mul_le_mul_of_nonneg_right ?_ hunit.le
    rw [le_div_iff₀ hb]
    linarith
  rw [← hn]
  rcases hseparates.eq_or_apart (numerator_pos k) (denominator_pos k) hM with heq | h
  swap
  · exact .inr (.inl (hapart h))
  obtain ⟨t, rfl, hnt⟩ := hseparates.exists_multiple (by omega) heq
  subst hnt
  rcases hharmless.multiple hodd hM with ⟨hexact, hk⟩ | h | hexception
  · refine .inl ⟨?_, hk⟩
    have hcast : ((q * t : ℕ) * numerator k : ℚ) = (p * t : ℕ) * denominator k := by exact_mod_cast hexact
    rw [hvalue, hcast, mul_div_cancel_right₀ _ hb.ne']
  · exact .inr (.inl (hapart h))
  · exact .inr (.inr hexception)

end GroundedQA.Number
