import GroundedQA.Number.Power
import Mathlib.Algebra.Order.Field.Power
import Mathlib.Algebra.Order.Field.Rat
import Mathlib.Tactic.Linarith
import Mathlib.Tactic.Positivity
import Mathlib.Tactic.Ring
/-!
# Rounding to nearest

Around a number `v` the numbers of a format are the multiples of one power of two, `2 ^ t`, and `v` is
rounded to the nearest of them, `n * 2 ^ t`, a tie going to the even multiple (`rounds_roundWithAccuracy`).
A multiple that needs one bit too many is written with half the mantissa, so what comes out is canonical,
and a canonical number is told by its value (`Canonical.unique`).
-/

namespace GroundedQA.Number

open Float.Model Float.Model.UnpackedFloat

/-! ## Whole numbers -/

/-- `n` is the whole number nearest to `x`, of two that are equally near the even one. -/
structure IsNearest (n : ℕ) (x : ℚ) : Prop where
  le : x ≤ n + 1 / 2
  ge : n ≤ x + 1 / 2
  even_of_tie : x = n + 1 / 2 ∨ n = x + 1 / 2 → n % 2 = 0

theorem IsNearest.mono {n n' : ℕ} {x y : ℚ} (h : IsNearest n x) (h' : IsNearest n' y) (hxy : x ≤ y) : n ≤ n' := by
  by_contra hlt
  have hge := h.ge
  have hle := h'.le
  have hstep : (n' : ℚ) + 1 ≤ n := by exact_mod_cast Nat.lt_of_not_le hlt
  -- Two that follow each other would both be tied, and one of them is odd.
  have heven := h.even_of_tie (.inr (by linarith))
  have heven' := h'.even_of_tie (.inl (by linarith))
  have hnext : n = n' + 1 := by
    have : (n : ℚ) = n' + 1 := by linarith
    exact_mod_cast this
  omega

theorem IsNearest.unique {n n' : ℕ} {x : ℚ} (h : IsNearest n x) (h' : IsNearest n' x) : n = n' :=
  Nat.le_antisymm (h.mono h' le_rfl) (h'.mono h le_rfl)

theorem isNearest_self (n : ℕ) : IsNearest n (n : ℚ) where
  le := by linarith
  ge := by linarith
  even_of_tie h := by rcases h with h | h <;> linarith

/-! ## Extended mantissas -/

/-- What the mantissa and the bit behind it spell. -/
def spelled (em : ExtendedMantissa) : ℚ :=
  em.mantissa + if em.roundBit then 1 / 2 else 0

/-- The number that an extended mantissa stands for: what it spells, or less than a half more. -/
def Represents (em : ExtendedMantissa) (x : ℚ) : Prop :=
  if em.stickyBit then spelled em < x ∧ x < spelled em + 1 / 2 else x = spelled em

theorem mantissa_ofMantissaAndAccuracy (mantissa : Nat) (accuracy : Accuracy) :
    (ExtendedMantissa.ofMantissaAndAccuracy mantissa accuracy).mantissa = mantissa := by
  unfold ExtendedMantissa.ofMantissaAndAccuracy
  split <;> rfl

theorem represents_exact (n : ℕ) : Represents (.ofMantissaAndAccuracy n .exact) (n : ℚ) :=
  (add_zero (n : ℚ)).symm

theorem represents_fraction (n : ℕ) {num den : ℕ} (h : num < den) :
    Represents (.ofMantissaAndAccuracy n (accuracyOfFraction num den)) (n + num / den) := by
  have hden : (0 : ℚ) < den := by exact_mod_cast Nat.zero_lt_of_lt h
  have hlt : (num / den : ℚ) < 1 := (div_lt_one hden).2 (by exact_mod_cast h)
  unfold accuracyOfFraction
  by_cases hnum : num = 0
  · rw [if_pos hnum, hnum, Nat.cast_zero, zero_div, add_zero]
    exact represents_exact n
  have hpos : (0 : ℚ) < num / den := div_pos (by exact_mod_cast Nat.pos_of_ne_zero hnum) hden
  rw [if_neg hnum]
  cases hcmp : compare (2 * num) den with
  | lt =>
    have hhalf : (num / den : ℚ) < 1 / 2 := by
      rw [div_lt_div_iff₀ hden two_pos]
      exact_mod_cast (show num * 2 < 1 * den by have := Nat.compare_eq_lt.1 hcmp; omega)
    show (n : ℚ) + 0 < n + num / den ∧ (n : ℚ) + num / den < n + 0 + 1 / 2
    exact ⟨by linarith, by linarith⟩
  | eq =>
    have hhalf : (num / den : ℚ) = 1 / 2 := by
      rw [div_eq_div_iff hden.ne' two_ne_zero]
      exact_mod_cast (show num * 2 = 1 * den by have := Nat.compare_eq_eq.1 hcmp; omega)
    rw [hhalf]
    rfl
  | gt =>
    have hhalf : (1 / 2 : ℚ) < num / den := by
      rw [div_lt_div_iff₀ two_pos hden]
      exact_mod_cast (show 1 * den < num * 2 by have := Nat.compare_eq_gt.1 hcmp; omega)
    show (n : ℚ) + 1 / 2 < n + num / den ∧ (n : ℚ) + num / den < n + 1 / 2 + 1 / 2
    exact ⟨by linarith, by linarith⟩

/-- A shift spells half of the mantissa; the bit that was behind it is remembered as a sticky one. -/
theorem spelled_shiftRightOne (em : ExtendedMantissa) : spelled em.shiftRightOne = em.mantissa / 2 := by
  have hdiv : (em.mantissa : ℚ) = 2 * (em.mantissa / 2 : ℕ) + (em.mantissa % 2 : ℕ) := by
    exact_mod_cast (Nat.div_add_mod em.mantissa 2).symm
  unfold spelled ExtendedMantissa.shiftRightOne
  rcases Nat.mod_two_eq_zero_or_one em.mantissa with hm | hm <;> rw [hm] at hdiv ⊢ <;> rw [hdiv] <;> simp
  ring

namespace Represents

variable {em : ExtendedMantissa} {x : ℚ}

theorem bounds (h : Represents em x) : em.mantissa ≤ x ∧ x < em.mantissa + 1 := by
  obtain ⟨m, round, sticky⟩ := em
  cases round <;> cases sticky <;> simp [Represents, spelled] at h ⊢ <;> constructor <;> linarith

/-- The two bits are what rounding needs to know. -/
theorem isNearest (h : Represents em x) : IsNearest em.roundedMantissa x := by
  obtain ⟨m, round, sticky⟩ := em
  match round, sticky with
  | false, false =>
    have hx : x = m := by simpa [Represents, spelled] using h
    exact hx ▸ isNearest_self m
  | false, true =>
    have hx : m < x ∧ x < m + 1 / 2 := by simpa [Represents, spelled] using h
    show IsNearest m x
    exact ⟨by linarith, by linarith, fun htie => by rcases htie with h' | h' <;> linarith⟩
  | true, false =>
    -- A tie: the mantissa stays if it is even, else the next one is.
    have hx : x = m + 1 / 2 := by simpa [Represents, spelled] using h
    show IsNearest (m + m % 2) x
    rcases Nat.mod_two_eq_zero_or_one m with hm | hm <;> rw [hm, hx]
    · exact ⟨by simp, by push_cast; linarith, fun _ => hm⟩
    · exact ⟨by push_cast; linarith, by push_cast; linarith, fun _ => by omega⟩
  | true, true =>
    have hx : (m : ℚ) + 1 / 2 < x ∧ x < m + 1 / 2 + 1 / 2 := by simpa [Represents, spelled] using h
    show IsNearest (m + 1) x
    refine ⟨by push_cast; linarith, by push_cast; linarith, fun htie => ?_⟩
    push_cast at htie
    rcases htie with h' | h' <;> linarith

theorem shiftRightOne (h : Represents em x) : Represents em.shiftRightOne (x / 2) := by
  unfold Represents at h ⊢
  rw [spelled_shiftRightOne]
  obtain ⟨m, round, sticky⟩ := em
  cases round <;> cases sticky <;> simp [spelled, ExtendedMantissa.shiftRightOne] at h ⊢
  · exact h
  all_goals constructor <;> linarith

theorem shiftRight (h : Represents em x) (n : ℕ) : Represents (em >>> n) (x / 2 ^ n) := by
  show Represents (n.repeat ExtendedMantissa.shiftRightOne em) _
  induction n with
  | zero =>
    rw [pow_zero, div_one]
    exact h
  | succ n ih =>
    rw [pow_succ, ← div_div]
    exact ih.shiftRightOne

end Represents

/-! ## The numbers of a format -/

variable {spec : Format} {v : ℚ} {t e e' : ℤ} {m m' : ℕ}

theorem log2_lt {n k : Nat} (h : n < 2 ^ k) (hk : 0 < k) : n.log2 < k := by
  by_cases hn : n = 0
  · rw [hn, Nat.log2_zero]
    exact hk
  · exact (Nat.log2_lt hn).2 h

theorem two_zpow_pos (e : ℤ) : (0 : ℚ) < 2 ^ e :=
  zpow_pos two_pos e

theorem two_zpow_le (h : e ≤ e') : (2 : ℚ) ^ e ≤ 2 ^ e' :=
  zpow_le_zpow_right₀ one_le_two h

theorem two_zpow_add (e e' : ℤ) : (2 : ℚ) ^ (e + e') = 2 ^ e * 2 ^ e' :=
  zpow_add₀ two_ne_zero e e'

theorem two_zpow_le_mul {n : ℕ} (h : e ≤ n + e') : (2 : ℚ) ^ e ≤ 2 ^ n * 2 ^ e' := by
  rw [← zpow_natCast, ← two_zpow_add]
  exact two_zpow_le h

theorem two_zpow_natCast (n : ℕ) : (2 : ℚ) ^ (n : ℤ) = (2 ^ n : ℕ) := by
  rw [zpow_natCast, Nat.cast_pow, Nat.cast_ofNat]

theorem zpow_eq_div {b : ℚ} (hb : b ≠ 0) (n : ℤ) : b ^ n = b ^ n.toNat / b ^ (-n).toNat := by
  rw [← zpow_natCast, ← zpow_natCast, ← zpow_sub₀ hb]
  congr 1
  omega

/-- A mantissa and an exponent as the format has them: the mantissa fits, and it has all its bits unless
the exponent is the least one. -/
structure Canonical (spec : Format) (m : ℕ) (e : ℤ) : Prop where
  lt : m < 2 ^ spec.mantissaBits
  ge : spec.minExponent ≤ e
  full : e = spec.minExponent ∨ 2 ^ spec.mantissaBitsWithoutImplicit ≤ m

theorem mantissaBits_eq (spec : Format) : spec.mantissaBits = 1 + spec.mantissaBitsWithoutImplicit := rfl

theorem two_pow_mantissaBits (spec : Format) :
    2 ^ spec.mantissaBits = 2 * 2 ^ spec.mantissaBitsWithoutImplicit := by
  rw [mantissaBits_eq, Nat.pow_add, Nat.pow_one]

theorem Canonical.exponent_le (h : Canonical spec m e) (h' : Canonical spec m' e')
    (hv : (m : ℚ) * 2 ^ e = m' * 2 ^ e') : e' ≤ e := by
  by_contra hlt
  have hge := h.ge
  -- With the larger exponent goes a full mantissa, so the other one would not fit.
  have hfull : 2 ^ spec.mantissaBitsWithoutImplicit ≤ m' := h'.full.resolve_left (by omega)
  have hstep : (2 : ℚ) ^ e * 2 ≤ 2 ^ e' := by
    rw [← zpow_add_one₀ two_ne_zero]
    exact two_zpow_le (by omega)
  have hm : 2 ^ spec.mantissaBits ≤ m := by
    rw [two_pow_mantissaBits]
    have hm' : (2 * m' : ℚ) * 2 ^ e ≤ m * 2 ^ e :=
      calc (2 * m' : ℚ) * 2 ^ e = m' * (2 ^ e * 2) := by ring
        _ ≤ m' * 2 ^ e' := mul_le_mul_of_nonneg_left hstep (Nat.cast_nonneg m')
        _ = m * 2 ^ e := hv.symm
    have hle : (2 * m' : ℚ) ≤ m := le_of_mul_le_mul_right hm' (two_zpow_pos e)
    have : 2 * m' ≤ m := by exact_mod_cast hle
    omega
  exact absurd h.lt (Nat.not_lt_of_le hm)

/-- A canonical number is told by its value. -/
theorem Canonical.unique (h : Canonical spec m e) (h' : Canonical spec m' e')
    (hv : (m : ℚ) * 2 ^ e = m' * 2 ^ e') : m = m' ∧ e = e' := by
  obtain rfl : e = e' := le_antisymm (h'.exponent_le h hv.symm) (h.exponent_le h' hv)
  exact ⟨by exact_mod_cast mul_right_cancel₀ (two_zpow_pos e).ne' hv, rfl⟩

/-- The format's number of the given sign and size. -/
inductive IsNumber (spec : Format) (sign : Sign) (v : ℚ) : UnpackedFloat → Prop
  | zero (hv : v = 0) : IsNumber spec sign v (.zero sign)
  | finite {m : ℕ} {e : ℤ} (hpos : 0 < m) (hcanonical : Canonical spec m e) (hv : v = m * 2 ^ e) :
    IsNumber spec sign v (.finite sign m e hpos)

/-! ## Rounding -/

/-- Around `v` the numbers of the format are the multiples of `2 ^ t`. -/
structure IsGrid (spec : Format) (v : ℚ) (t : ℤ) : Prop where
  ge : spec.minExponent ≤ t
  lt : v < 2 ^ (t + spec.mantissaBits)
  full : t = spec.minExponent ∨ 2 ^ (t + spec.mantissaBitsWithoutImplicit) ≤ v

theorem isGrid_targetExponent (hm : 0 < m) (hle : (m : ℚ) ≤ v / 2 ^ e) (hlt : v / 2 ^ e < m + 1) :
    IsGrid spec v (spec.targetExponent (totalExponent m e)) := by
  have htarget : spec.targetExponent (totalExponent m e) =
      max ((m.log2 : ℤ) + 1 + e - spec.mantissaBits) spec.minExponent := rfl
  have hbits : (spec.mantissaBits : ℤ) = 1 + spec.mantissaBitsWithoutImplicit := by
    simp [mantissaBits_eq]
  have hbelow : (2 : ℚ) ^ ((m.log2 : ℤ) + e) ≤ v := by
    rw [le_div_iff₀ (two_zpow_pos e)] at hle
    refine le_trans ?_ hle
    rw [two_zpow_add, two_zpow_natCast]
    exact mul_le_mul_of_nonneg_right (by exact_mod_cast Nat.log2_self_le hm.ne') (two_zpow_pos e).le
  have habove : v < (2 : ℚ) ^ ((m.log2 : ℤ) + 1 + e) := by
    rw [div_lt_iff₀ (two_zpow_pos e)] at hlt
    refine lt_of_lt_of_le hlt ?_
    rw [two_zpow_add, ← Int.natCast_succ, two_zpow_natCast]
    refine mul_le_mul_of_nonneg_right ?_ (two_zpow_pos e).le
    exact_mod_cast Nat.lt_log2_self (n := m)
  refine ⟨htarget ▸ le_max_right _ _, lt_of_lt_of_le habove (two_zpow_le (by omega)), ?_⟩
  by_cases hmin : spec.targetExponent (totalExponent m e) = spec.minExponent
  · exact .inl hmin
  · exact .inr (le_trans (two_zpow_le (by omega)) hbelow)

namespace IsGrid

variable {n : ℕ}

theorem nearest_le (h : IsGrid spec v t) (hn : IsNearest n (v / 2 ^ t)) : n ≤ 2 ^ spec.mantissaBits := by
  have hlt : v / 2 ^ t < (2 ^ spec.mantissaBits : ℕ) := by
    rw [div_lt_iff₀ (two_zpow_pos t), ← two_zpow_natCast, ← two_zpow_add, add_comm]
    exact h.lt
  have hge := hn.ge
  have hsucc : (n : ℚ) < (2 ^ spec.mantissaBits + 1 : ℕ) := by
    push_cast at hlt ⊢
    linarith
  exact Nat.lt_succ_iff.1 (by exact_mod_cast hsucc)

theorem le_nearest (h : IsGrid spec v t) (hn : IsNearest n (v / 2 ^ t)) :
    t = spec.minExponent ∨ 2 ^ spec.mantissaBitsWithoutImplicit ≤ n := by
  refine h.full.imp_right fun hv => ?_
  have hge : ((2 ^ spec.mantissaBitsWithoutImplicit : ℕ) : ℚ) ≤ v / 2 ^ t := by
    rw [le_div_iff₀ (two_zpow_pos t), ← two_zpow_natCast, ← two_zpow_add, add_comm]
    exact hv
  have hle := hn.le
  have hsucc : ((2 ^ spec.mantissaBitsWithoutImplicit : ℕ) : ℚ) < (n + 1 : ℕ) := by
    push_cast at hge ⊢
    linarith
  exact Nat.lt_succ_iff.1 (by exact_mod_cast hsucc)

/-- A multiple of a finer grid does not come to lie behind one of a coarser grid, nor one behind another of the same
grid. -/
theorem mono {w : ℚ} {t' : ℤ} {n' : ℕ} (h : IsGrid spec v t) (h' : IsGrid spec w t') (hn : IsNearest n (v / 2 ^ t))
    (hn' : IsNearest n' (w / 2 ^ t')) (hvw : v ≤ w) : (n : ℚ) * 2 ^ t ≤ n' * 2 ^ t' := by
  have hbits : (spec.mantissaBits : ℤ) = 1 + spec.mantissaBitsWithoutImplicit := by simp [mantissaBits_eq]
  rcases lt_trichotomy t t' with hlt | rfl | hgt
  · have hfull : 2 ^ spec.mantissaBitsWithoutImplicit ≤ n' := (h'.le_nearest hn').resolve_left fun heq => by
      have := h.ge
      omega
    calc (n : ℚ) * 2 ^ t ≤ (2 ^ spec.mantissaBits : ℕ) * 2 ^ t :=
          mul_le_mul_of_nonneg_right (by exact_mod_cast h.nearest_le hn) (two_zpow_pos t).le
      _ = 2 ^ (spec.mantissaBits + t) := by rw [← two_zpow_natCast, two_zpow_add]
      _ ≤ 2 ^ (spec.mantissaBitsWithoutImplicit + t') := two_zpow_le (by omega)
      _ = (2 ^ spec.mantissaBitsWithoutImplicit : ℕ) * 2 ^ t' := by rw [two_zpow_add, two_zpow_natCast]
      _ ≤ n' * 2 ^ t' := mul_le_mul_of_nonneg_right (by exact_mod_cast hfull) (two_zpow_pos t').le
  · have hscaled : v / 2 ^ t ≤ w / 2 ^ t := div_le_div_of_nonneg_right hvw (two_zpow_pos t).le
    exact mul_le_mul_of_nonneg_right (by exact_mod_cast hn.mono hn' hscaled) (two_zpow_pos t).le
  · -- The smaller of two numbers never has the coarser grid.
    have hfull := h.full.resolve_left fun heq => by
      have := h'.ge
      omega
    have hpow : (2 : ℚ) ^ (t' + spec.mantissaBits) ≤ 2 ^ (t + spec.mantissaBitsWithoutImplicit) := two_zpow_le (by omega)
    exact absurd hvw (not_le_of_gt (lt_of_lt_of_le h'.lt (le_trans hpow hfull)))

/-- A number with no more bits than the format has is on the grid around it. -/
theorem exponent_le (h : IsGrid spec v t) (hv : v = m * 2 ^ e) (hm : m < 2 ^ spec.mantissaBits)
    (he : spec.minExponent ≤ e) : t ≤ e := by
  rcases h.full with rfl | hfull
  · exact he
  have hlt : (2 : ℚ) ^ (t + spec.mantissaBitsWithoutImplicit) < 2 ^ (e + spec.mantissaBits) := by
    refine lt_of_le_of_lt hfull ?_
    rw [hv, add_comm, two_zpow_add, two_zpow_natCast]
    exact mul_lt_mul_of_pos_right (by exact_mod_cast hm) (two_zpow_pos e)
  have hexp := (zpow_lt_zpow_iff_right₀ one_lt_two).1 hlt
  have hbits := mantissaBits_eq spec
  omega

/-- So it is not changed by rounding. -/
theorem nearest_eq (h : IsGrid spec v t) (hn : IsNearest n (v / 2 ^ t)) (hv : v = m * 2 ^ e)
    (hm : m < 2 ^ spec.mantissaBits) (he : spec.minExponent ≤ e) : (n : ℚ) * 2 ^ t = v := by
  have hle := h.exponent_le hv hm he
  have hwhole : v / 2 ^ t = (m * 2 ^ (e - t).toNat : ℕ) := by
    have hsplit : e = t + ((e - t).toNat : ℤ) := by omega
    rw [hv, div_eq_iff (two_zpow_pos t).ne']
    conv_lhs => rw [hsplit, two_zpow_add, two_zpow_natCast]
    push_cast
    ring
  have hself : IsNearest (m * 2 ^ (e - t).toNat) (v / 2 ^ t) := hwhole ▸ isNearest_self _
  rw [hn.unique hself, ← hwhole, div_mul_cancel₀ _ (two_zpow_pos t).ne']

/-- Rounding a number that is not too small changes it by half a unit of its last place at most. -/
theorem nearest_close (h : IsGrid spec v t) (hn : IsNearest n (v / 2 ^ t))
    (hmin : 2 ^ (spec.minExponent + spec.mantissaBitsWithoutImplicit) ≤ v) :
    |(n : ℚ) * 2 ^ t - v| ≤ v / 2 ^ (spec.mantissaBits : ℤ) := by
  have hfull : 2 ^ (t + spec.mantissaBitsWithoutImplicit) ≤ v := by
    rcases h.full with rfl | hfull
    · exact hmin
    · exact hfull
  have hbits : (2 : ℚ) ^ (spec.mantissaBits : ℤ) = 2 * 2 ^ (spec.mantissaBitsWithoutImplicit : ℤ) := by
    rw [two_zpow_natCast, two_zpow_natCast, two_pow_mantissaBits, Nat.cast_mul, Nat.cast_ofNat]
  have hhalf : (2 : ℚ) ^ t / 2 ≤ v / 2 ^ (spec.mantissaBits : ℤ) := by
    rw [hbits, ← div_div, div_right_comm]
    refine div_le_div_of_nonneg_right ?_ zero_le_two
    rw [le_div_iff₀ (two_zpow_pos _), ← two_zpow_add]
    exact hfull
  have hv : v = v / 2 ^ t * 2 ^ t := (div_mul_cancel₀ _ (two_zpow_pos t).ne').symm
  have hle : v ≤ (n + 1 / 2) * 2 ^ t := hv ▸ mul_le_mul_of_nonneg_right hn.le (two_zpow_pos t).le
  have hge : (n : ℚ) * 2 ^ t ≤ v + 2 ^ t / 2 := by
    have := mul_le_mul_of_nonneg_right hn.ge (two_zpow_pos t).le
    rw [add_mul, ← hv] at this
    linarith
  rw [abs_le]
  constructor <;> linarith

end IsGrid

/-- A multiple of the grid is written as it is, or with half the mantissa if it has a bit too many. -/
theorem isNumber_of_multiple (sign : Sign) {n : ℕ} (hle : n ≤ 2 ^ spec.mantissaBits) (hge : spec.minExponent ≤ t)
    (hfull : t = spec.minExponent ∨ 2 ^ spec.mantissaBitsWithoutImplicit ≤ n) :
    IsNumber spec sign (n * 2 ^ t)
      (if h : (shiftToTargetExponent spec n t .exact).1.mantissa = 0 then .zero sign
        else .finite sign _ (shiftToTargetExponent spec n t .exact).2 (Nat.pos_of_ne_zero h)) := by
  have htarget : spec.targetExponent (totalExponent n t) =
      max ((n.log2 : ℤ) + 1 + t - spec.mantissaBits) spec.minExponent := rfl
  rcases Nat.lt_or_eq_of_le hle with hlt | heq
  · have hlog := log2_lt hlt (by simp [mantissaBits_eq])
    have hstay : (spec.targetExponent (totalExponent n t) - t).toNat = 0 := by omega
    have hshift : shiftToTargetExponent spec n t .exact = (.ofMantissaAndAccuracy n .exact, t) := by
      unfold shiftToTargetExponent shiftToExponent
      dsimp only
      rw [hstay]
      exact Prod.ext rfl (add_zero t)
    rw [hshift]
    by_cases hn : n = 0
    · subst hn
      exact .zero (by simp)
    · exact dif_neg hn ▸ .finite (Nat.pos_of_ne_zero hn) ⟨hlt, hge, hfull⟩ rfl
  · have hstep : (spec.targetExponent (totalExponent n t) - t).toNat = 1 := by
      rw [htarget, heq, Nat.log2_two_pow]
      omega
    have hhalf : n / 2 = 2 ^ spec.mantissaBitsWithoutImplicit := by
      rw [heq, two_pow_mantissaBits]
      omega
    have hshift : (shiftToTargetExponent spec n t .exact).1.mantissa = 2 ^ spec.mantissaBitsWithoutImplicit ∧
        (shiftToTargetExponent spec n t .exact).2 = t + 1 := by
      unfold shiftToTargetExponent shiftToExponent
      dsimp only
      rw [hstep]
      exact ⟨hhalf, rfl⟩
    rw [dif_neg (by rw [hshift.1]; exact (Nat.two_pow_pos _).ne')]
    refine .finite _ ?_ ?_
    · rw [hshift.1, hshift.2]
      refine ⟨?_, by omega, .inr le_rfl⟩
      rw [two_pow_mantissaBits]
      have := Nat.two_pow_pos spec.mantissaBitsWithoutImplicit
      omega
    · rw [hshift.1, hshift.2, heq, two_pow_mantissaBits, zpow_add_one₀ two_ne_zero]
      push_cast
      ring

/-- What rounding makes of the size `v`: the nearest multiple of the grid around it. -/
def Rounds (spec : Format) (sign : Sign) (v : ℚ) (u : UnpackedFloat) : Prop :=
  ∃ t n, IsGrid spec v t ∧ IsNearest n (v / 2 ^ t) ∧ IsNumber spec sign (n * 2 ^ t) u

theorem rounds_roundWithAccuracy (sign : Sign) {accuracy : Accuracy} (hm : 0 < m)
    (hv : Represents (.ofMantissaAndAccuracy m accuracy) (v / 2 ^ e))
    (he : e ≤ spec.targetExponent (totalExponent m e)) :
    Rounds spec sign v (roundWithAccuracy spec sign m e accuracy) := by
  obtain ⟨hle, hlt⟩ := hv.bounds
  rw [mantissa_ofMantissaAndAccuracy] at hle hlt
  have hgrid : IsGrid spec v (spec.targetExponent (totalExponent m e)) := isGrid_targetExponent hm hle hlt
  have hexp : (shiftToTargetExponent spec m e accuracy).2 = spec.targetExponent (totalExponent m e) := by
    show e + ((spec.targetExponent (totalExponent m e) - e).toNat : ℤ) = _
    omega
  have hshifted : Represents (shiftToTargetExponent spec m e accuracy).1
      (v / 2 ^ spec.targetExponent (totalExponent m e)) := by
    have hsplit : (2 : ℚ) ^ spec.targetExponent (totalExponent m e) =
        2 ^ e * 2 ^ (spec.targetExponent (totalExponent m e) - e).toNat := by
      rw [← zpow_natCast, ← two_zpow_add]
      congr 1
      omega
    rw [hsplit, ← div_div]
    exact hv.shiftRight _
  refine ⟨_, _, hgrid, hshifted.isNearest, ?_⟩
  have hnumber := isNumber_of_multiple sign (hgrid.nearest_le hshifted.isNearest) hgrid.ge
    (hgrid.le_nearest hshifted.isNearest)
  rw [← hexp] at hnumber ⊢
  exact hnumber

theorem log2_shiftLeft (hm : 0 < m) (k : ℕ) : (m <<< k).log2 = m.log2 + k := by
  rw [Nat.shiftLeft_eq, Nat.log2_eq_iff (Nat.mul_pos hm (Nat.two_pow_pos k)).ne', Nat.pow_add,
    Nat.add_right_comm, Nat.pow_add]
  exact ⟨Nat.mul_le_mul_right _ (Nat.log2_self_le hm.ne'),
    Nat.mul_lt_mul_of_pos_right Nat.lt_log2_self (Nat.two_pow_pos k)⟩

theorem rounds_round (sign : Sign) (hm : 0 < m) (e : ℤ) :
    Rounds spec sign (m * 2 ^ e) (UnpackedFloat.round spec sign m e) := by
  -- First the mantissa is filled up, which changes neither the value nor the grid around it.
  obtain ⟨k, hk⟩ : ∃ k, k = (e - spec.targetExponent (totalExponent m e)).toNat := ⟨_, rfl⟩
  have htotal : totalExponent (m <<< k) (e - k) = totalExponent m e := by
    unfold totalExponent
    rw [log2_shiftLeft hm]
    push_cast
    ring
  have hvalue : (m * 2 ^ e : ℚ) / 2 ^ (e - k) = (m <<< k : ℕ) := by
    rw [div_eq_iff (two_zpow_pos _).ne', Nat.shiftLeft_eq, Nat.cast_mul, ← two_zpow_natCast, mul_assoc,
      ← two_zpow_add]
    congr 2
    ring
  have hround : UnpackedFloat.round spec sign m e = roundWithAccuracy spec sign (m <<< k) (e - k) .exact := by
    rw [hk]
    rfl
  rw [hround]
  refine rounds_roundWithAccuracy sign (Nat.shiftLeft_pos_iff.2 hm) ?_ (by rw [htotal]; omega)
  rw [hvalue]
  exact represents_exact _

/-! ## What a size is rounded to -/

/-- The size `v` is rounded to the size `c`. -/
def RoundsTo (spec : Format) (v c : ℚ) : Prop :=
  ∃ (t : ℤ) (n : ℕ), IsGrid spec v t ∧ IsNearest n (v / 2 ^ t) ∧ c = n * 2 ^ t

theorem Rounds.exists_roundsTo {sign : Sign} {u : UnpackedFloat} (h : Rounds spec sign v u) :
    ∃ c, RoundsTo spec v c ∧ IsNumber spec sign c u := by
  obtain ⟨t, n, hgrid, hn, hu⟩ := h
  exact ⟨_, ⟨t, n, hgrid, hn, rfl⟩, hu⟩

theorem roundsTo_zero (spec : Format) : RoundsTo spec 0 0 := by
  refine ⟨spec.minExponent, 0, ⟨le_rfl, two_zpow_pos _, .inl rfl⟩, ?_, by simp⟩
  simpa using isNearest_self 0

namespace RoundsTo

variable {w c d : ℚ}

/-- Rounding keeps the order. -/
theorem mono (h : RoundsTo spec v c) (h' : RoundsTo spec w d) (hvw : v ≤ w) : c ≤ d := by
  obtain ⟨t, n, hgrid, hn, rfl⟩ := h
  obtain ⟨t', n', hgrid', hn', rfl⟩ := h'
  exact hgrid.mono hgrid' hn hn' hvw

/-- What has no more bits than the format is not changed. -/
theorem eq_self (h : RoundsTo spec v c) (hv : v = m * 2 ^ e) (hm : m < 2 ^ spec.mantissaBits)
    (he : spec.minExponent ≤ e) : c = v := by
  obtain ⟨t, n, hgrid, hn, rfl⟩ := h
  exact hgrid.nearest_eq hn hv hm he

/-- So no size is rounded past a number of the format. -/
theorem le_of_le (h : RoundsTo spec v c) (hpos : 0 < m) (hm : m < 2 ^ spec.mantissaBits) (he : spec.minExponent ≤ e)
    (hle : v ≤ m * 2 ^ e) : c ≤ m * 2 ^ e := by
  have hround : Rounds spec .positive (m * 2 ^ e) (UnpackedFloat.round spec .positive m e) := rounds_round .positive hpos e
  obtain ⟨d, hd, -⟩ := hround.exists_roundsTo
  exact hd.eq_self rfl hm he ▸ h.mono hd hle

/-- A size of more than half of the least number is not rounded to zero. -/
theorem pos (h : RoundsTo spec v c) (hv : 2 ^ (spec.minExponent - 1) < v) : 0 < c := by
  obtain ⟨t, n, hgrid, hn, rfl⟩ := h
  refine mul_pos ?_ (two_zpow_pos t)
  by_contra hzero
  obtain rfl : n = 0 := by simpa using hzero
  rcases hgrid.le_nearest hn with rfl | hfull
  · have hle := hn.le
    have hhalf : (2 : ℚ) ^ spec.minExponent = 2 ^ (spec.minExponent - 1) * 2 := by
      rw [← zpow_add_one₀ two_ne_zero, sub_add_cancel]
    rw [div_le_iff₀ (two_zpow_pos _), hhalf] at hle
    push_cast at hle
    linarith
  · exact absurd hfull (Nat.not_le_of_gt (Nat.two_pow_pos _))

end RoundsTo

/-- `c` is `v` after rounding: off by half a unit of the last place at most, and not off at all if `v` has
no more bits than the format. -/
structure IsRounded (spec : Format) (v c : ℚ) : Prop where
  close : |c - v| ≤ v / 2 ^ (spec.mantissaBits : ℤ)
  exact : ∀ (m : ℕ) (e : ℤ), v = m * 2 ^ e → m < 2 ^ spec.mantissaBits → spec.minExponent ≤ e → c = v

theorem Rounds.isRounded {sign : Sign} {u : UnpackedFloat} (h : Rounds spec sign v u)
    (hmin : 2 ^ (spec.minExponent + spec.mantissaBitsWithoutImplicit) ≤ v) :
    ∃ c, IsRounded spec v c ∧ IsNumber spec sign c u := by
  obtain ⟨t, n, hgrid, hn, hu⟩ := h
  exact ⟨n * 2 ^ t, ⟨hgrid.nearest_close hn hmin, fun m e hv hm he => hgrid.nearest_eq hn hv hm he⟩, hu⟩

end GroundedQA.Number
