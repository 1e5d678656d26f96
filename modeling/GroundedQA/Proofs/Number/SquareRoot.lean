import GroundedQA.Proofs.Number.Single
/-!
# Square roots

The square root of a positive binary32 number is the number `n * 2 ^ t` with `n` of 24 bits whose square is closest
to it (`isNumber_sqrt`). It is never infinite and never zero, and neither is the product of two of them
(`IsSingle.mul_roots`).
-/

namespace GroundedQA.Number

open Float.Model Float.Model.UnpackedFloat

variable {spec : Format} {m n : ℕ} {e t : ℤ}

/-- A mantissa that has all its bits is rounded where it stands. -/
theorem isNumber_roundWithAccuracy_of_full (sign : Sign) (accuracy : Accuracy)
    (hfull : 2 ^ spec.mantissaBitsWithoutImplicit ≤ m) (hlt : m < 2 ^ spec.mantissaBits) (he : spec.minExponent ≤ e) :
    IsNumber spec sign ((accuracy.roundToNearestEven m : ℕ) * 2 ^ e) (roundWithAccuracy spec sign m e accuracy) := by
  have hpos : m ≠ 0 := Nat.ne_of_gt (Nat.lt_of_lt_of_le (Nat.two_pow_pos _) hfull)
  have hlog : m.log2 = spec.mantissaBitsWithoutImplicit := by
    rw [Nat.log2_eq_iff hpos, Nat.add_comm, ← mantissaBits_eq]
    exact ⟨hfull, hlt⟩
  have htarget : spec.targetExponent (totalExponent m e) = e := by
    show max ((m.log2 : ℤ) + 1 + e - spec.mantissaBits) spec.minExponent = e
    rw [hlog, mantissaBits_eq]
    push_cast
    omega
  have hshift : shiftToTargetExponent spec m e accuracy = (.ofMantissaAndAccuracy m accuracy, e) := by
    unfold shiftToTargetExponent shiftToExponent
    dsimp only
    rw [htarget, Int.sub_self]
    exact Prod.ext rfl (add_zero e)
  have hrounded : (ExtendedMantissa.ofMantissaAndAccuracy m accuracy).roundedMantissa = accuracy.roundToNearestEven m := by
    rcases accuracy with _ | ⟨_ | _ | _⟩ <;> rfl
  have hle : m ≤ accuracy.roundToNearestEven m ∧ accuracy.roundToNearestEven m ≤ m + 1 := by
    unfold Accuracy.roundToNearestEven
    split <;> omega
  have hnumber := isNumber_of_multiple sign (Nat.le_trans hle.2 hlt) he (.inr (Nat.le_trans hfull hle.1))
  unfold roundWithAccuracy
  rw [hshift]
  dsimp only
  rw [hrounded]
  exact hnumber

/-- Which whole number is closest to a square root, told without it. -/
structure IsNearestRoot (n radicand : ℕ) : Prop where
  lt : n * n < radicand + n
  ge : radicand ≤ n * n + n

/-- The accuracy that goes with a whole root leads to the nearest one. -/
theorem isNearestRoot_sqrt {radicand root : ℕ} (hroot : root = radicand.sqrt) (hpos : 0 < root) {accuracy : Accuracy}
    (haccuracy : accuracy = if radicand - root * root = 0 then .exact
      else .inexact (if radicand - root * root ≤ root then .lt else .gt)) :
    IsNearestRoot (accuracy.roundToNearestEven root) radicand := by
  have hle : root * root ≤ radicand := by
    rw [hroot]
    exact radicand.sqrt_le
  have hlt : radicand < (root + 1) * (root + 1) := by
    rw [hroot]
    exact radicand.lt_succ_sqrt
  have hsquare : (root + 1) * (root + 1) = root * root + 2 * root + 1 := by ring
  obtain ⟨rem, hrem⟩ := Nat.exists_eq_add_of_le hle
  have hsub : radicand - root * root = rem := by omega
  rw [hsub] at haccuracy
  rw [haccuracy]
  have hdown (h : rem ≤ root) : IsNearestRoot root radicand := ⟨by omega, by omega⟩
  have hup (h : root < rem) : IsNearestRoot (root + 1) radicand := ⟨by omega, by omega⟩
  split
  · next hzero => exact hdown (by omega)
  · split
    · next hsmall => exact hdown hsmall
    · next hlarge => exact hup (Nat.lt_of_not_le hlarge)

/-- Where the last place of a square root stands. -/
theorem sqrt_exponent (h : Canonical .binary32 m e) :
    min (e.ediv 2) (Format.binary32.targetExponent ((totalExponent m e + 1).ediv 2)) = (m.log2 + e + 2) / 2 - 24 := by
  have hmin : -149 ≤ e := h.ge
  have hlog : m.log2 < 24 := log2_lt h.lt (by decide)
  show min (e / 2) (max (((m.log2 : ℤ) + 1 + e + 1) / 2 - 24) (-149)) = (m.log2 + e + 2) / 2 - 24
  omega

/-- A mantissa moved up to 47 or 48 bits; its root has 24. -/
theorem radicand_bounds {k : ℕ} (hpos : 0 < m) (hlow : 46 ≤ m.log2 + k) (hhigh : m.log2 + k ≤ 47) :
    2 ^ 46 ≤ m * 2 ^ k ∧ m * 2 ^ k < 2 ^ 48 := by
  constructor
  · calc 2 ^ 46 ≤ 2 ^ (m.log2 + k) := Nat.pow_le_pow_right two_pos hlow
      _ = 2 ^ m.log2 * 2 ^ k := Nat.pow_add ..
      _ ≤ m * 2 ^ k := Nat.mul_le_mul_right _ (Nat.log2_self_le hpos.ne')
  · calc m * 2 ^ k < 2 ^ (m.log2 + 1) * 2 ^ k := Nat.mul_lt_mul_of_pos_right Nat.lt_log2_self (Nat.two_pow_pos k)
      _ = 2 ^ (m.log2 + 1 + k) := (Nat.pow_add ..).symm
      _ ≤ 2 ^ 48 := Nat.pow_le_pow_right two_pos (by omega)

/-- The square root of a positive number has 24 bits; its last place stands so that the number, measured in the square
of it, has 47 or 48. -/
theorem isNumber_sqrt (hpos : 0 < m) (h : Canonical .binary32 m e) :
    ∃ (n k : ℕ) (t : ℤ), e = 2 * t + k ∧ 23 ≤ k ∧ 2 ^ 23 ≤ n ∧ n ≤ 2 ^ 24 ∧ IsNearestRoot n (m * 2 ^ k) ∧
      IsNumber .binary32 .positive (n * 2 ^ t) (UnpackedFloat.sqrt .binary32 (.finite .positive m e hpos)) := by
  have hmin : -149 ≤ e := h.ge
  have hlog : m.log2 < 24 := log2_lt h.lt (by decide)
  obtain ⟨t, ht⟩ : ∃ t : ℤ, t = (m.log2 + e + 2) / 2 - 24 := ⟨_, rfl⟩
  obtain ⟨k, hk⟩ : ∃ k : ℕ, k = (e - 2 * t).toNat := ⟨_, rfl⟩
  obtain ⟨root, hroot⟩ : ∃ root : ℕ, root = (m * 2 ^ k).sqrt := ⟨_, rfl⟩
  have hsqrt : ∃ accuracy : Accuracy, (accuracy = if m * 2 ^ k - root * root = 0 then .exact
      else .inexact (if m * 2 ^ k - root * root ≤ root then .lt else .gt)) ∧
      UnpackedFloat.sqrt .binary32 (.finite .positive m e hpos) = roundWithAccuracy .binary32 .positive root t accuracy := by
    refine ⟨_, rfl, ?_⟩
    unfold UnpackedFloat.sqrt sqrtCore
    dsimp only
    rw [sqrt_exponent h, ← ht, ← hk, Nat.shiftLeft_eq, ← hroot]
  obtain ⟨accuracy, haccuracy, hsqrt⟩ := hsqrt
  obtain ⟨hlow, hhigh⟩ := radicand_bounds (k := k) hpos (by omega) (by omega)
  have hfull : 2 ^ 23 ≤ root := hroot ▸ Nat.le_sqrt.2 (by omega)
  have hlt : root < 2 ^ 24 := hroot ▸ Nat.sqrt_lt.2 (by omega)
  have hround : root ≤ accuracy.roundToNearestEven root ∧ accuracy.roundToNearestEven root ≤ root + 1 := by
    unfold Accuracy.roundToNearestEven
    split <;> omega
  refine ⟨accuracy.roundToNearestEven root, k, t, by omega, by omega, by omega, by omega,
    isNearestRoot_sqrt hroot (by omega) haccuracy, ?_⟩
  rw [hsqrt]
  exact isNumber_roundWithAccuracy_of_full .positive accuracy hfull hlt (by show -149 ≤ t; omega)

/-! ## How large and how small -/

/-- The root of the least positive number is more than the half of it that would round to zero. -/
theorem lt_square_root {k : ℕ} (hpos : 0 < m) (hmin : -149 ≤ e) (he : e = 2 * t + k) (hn : 2 ^ 23 ≤ n)
    (hroot : IsNearestRoot n (m * 2 ^ k)) : (2 : ℚ) ^ (-150 : ℤ) < n * 2 ^ t * (n * 2 ^ t) := by
  have hlarge : (n * n + n : ℕ) < 2 * (n * n) := by nlinarith
  have hvalue : (m : ℚ) * 2 ^ e = (m * 2 ^ k : ℕ) * (2 ^ t * 2 ^ t) := by
    rw [he, two_zpow_add, two_mul, two_zpow_add, two_zpow_natCast]
    push_cast
    ring
  have hunit : (0 : ℚ) < 2 ^ t * 2 ^ t := mul_pos (two_zpow_pos t) (two_zpow_pos t)
  have hdouble : (2 : ℚ) * 2 ^ (-150 : ℤ) < 2 * (n * 2 ^ t * (n * 2 ^ t)) :=
    calc (2 : ℚ) * 2 ^ (-150 : ℤ) = 1 * 2 ^ (-149 : ℤ) := by norm_num
      _ ≤ m * 2 ^ e := mul_le_mul (by exact_mod_cast hpos) (two_zpow_le hmin) (two_zpow_pos _).le (Nat.cast_nonneg m)
      _ = (m * 2 ^ k : ℕ) * (2 ^ t * 2 ^ t) := hvalue
      _ ≤ (n * n + n : ℕ) * (2 ^ t * 2 ^ t) := mul_le_mul_of_nonneg_right (by exact_mod_cast hroot.ge) hunit.le
      _ < (2 * (n * n) : ℕ) * (2 ^ t * 2 ^ t) := mul_lt_mul_of_pos_right (by exact_mod_cast hlarge) hunit
      _ = 2 * (n * 2 ^ t * (n * 2 ^ t)) := by
        push_cast
        ring
  linarith

/-- The root of the greatest number is rounded down. -/
theorem root_le {k : ℕ} (hm : m < 2 ^ 24) (hmax : e ≤ 104) (he : e = 2 * t + k) (hk : 23 ≤ k) (hn : n ≤ 2 ^ 24)
    (hroot : IsNearestRoot n (m * 2 ^ k)) : (n : ℚ) * 2 ^ t ≤ (2 ^ 24 - 1 : ℕ) * 2 ^ (40 : ℤ) := by
  rcases Int.lt_or_eq_of_le (show t ≤ 40 by omega) with hlt | rfl
  · calc (n : ℚ) * 2 ^ t ≤ (2 ^ 24 : ℕ) * 2 ^ (39 : ℤ) :=
          mul_le_mul (by exact_mod_cast hn) (two_zpow_le (by omega)) (two_zpow_pos t).le (Nat.cast_nonneg _)
      _ ≤ (2 ^ 24 - 1 : ℕ) * 2 ^ (40 : ℤ) := by norm_num
  · have hle : n ≤ 2 ^ 24 - 1 := by
      by_contra hgt
      obtain rfl : n = 2 ^ 24 := by omega
      have hradicand : m * 2 ^ k ≤ (2 ^ 24 - 1) * 2 ^ 24 :=
        Nat.mul_le_mul (by omega) (Nat.pow_le_pow_right two_pos (by omega))
      have := hroot.lt
      omega
    exact mul_le_mul_of_nonneg_right (by exact_mod_cast hle) (two_zpow_pos _).le

/-- A size that a square root may have: neither its square nor its product with another such size is too large for
binary32, or so small that it is rounded to zero. -/
structure IsRootSize (c : ℚ) : Prop where
  nonneg : 0 ≤ c
  gt : 2 ^ (-150 : ℤ) < c * c
  le : c ≤ (2 ^ 24 - 1 : ℕ) * 2 ^ (40 : ℤ)

theorem IsRootSize.pos {c : ℚ} (h : IsRootSize c) : 0 < c := by
  have hsquare : 0 < c * c := lt_trans (two_zpow_pos _) h.gt
  exact lt_of_le_of_ne h.nonneg fun hzero => by simp [← hzero] at hsquare

variable {x y : Float32} {a b : ℚ}

/-- The square root of a positive number. -/
theorem IsSingle.sqrt (hx : IsSingle x .positive a) (ha : 0 < a) : ∃ c, IsSingle x.sqrt .positive c ∧ IsRootSize c := by
  have hsqrt : x.sqrt = .ofModel (.pack (UnpackedFloat.sqrt .binary32 x.toModel.unpack)) := rfl
  have hrange : IsCanonicalBinary32 x.toModel.unpack := isCanonicalBinary32_unpack _
  rw [hsqrt]
  unfold IsSingle at hx
  generalize x.toModel.unpack = u at hx hrange
  cases hx with
  | zero hv => exact absurd hv ha.ne'
  | @finite m e hpos hcanonical hv =>
    obtain ⟨n, k, t, he, hk, hfull, hn, hroot, hnumber⟩ := isNumber_sqrt hpos hcanonical
    have hsize : IsRootSize (n * 2 ^ t) := by
      refine ⟨mul_nonneg (Nat.cast_nonneg n) (two_zpow_pos t).le, ?_, ?_⟩
      · exact lt_square_root hpos hcanonical.ge he hfull hroot
      · exact root_le hcanonical.lt hrange.2 he hk hn hroot
    refine ⟨n * 2 ^ t, (stores_of_isNumber hnumber).isSingle (lt_of_le_of_lt hsize.le ?_), hsize⟩
    norm_num

/-- The product of two square roots is finite and no zero. -/
theorem IsSingle.mul_roots (hx : IsSingle x .positive a) (hy : IsSingle y .positive b) (ha : IsRootSize a)
    (hb : IsRootSize b) : ∃ c, IsSingle (x * y) .positive c ∧ 0 < c := by
  obtain ⟨c, hc, hstores⟩ := hx.mul hy
  have hgt : (2 : ℚ) ^ (-150 : ℤ) < a * b := by
    have hsquare : (2 : ℚ) ^ (-150 : ℤ) * 2 ^ (-150 : ℤ) < a * b * (a * b) :=
      calc (2 : ℚ) ^ (-150 : ℤ) * 2 ^ (-150 : ℤ) < a * a * (b * b) :=
            mul_lt_mul'' ha.gt hb.gt (two_zpow_pos _).le (two_zpow_pos _).le
        _ = a * b * (a * b) := by ring
    exact lt_of_mul_self_lt_mul_self₀ (mul_nonneg ha.nonneg hb.nonneg) hsquare
  have hle : a * b ≤ (2 ^ 24 - 1 : ℕ) * 2 ^ (104 : ℤ) :=
    calc a * b ≤ ((2 ^ 24 - 1 : ℕ) * 2 ^ (40 : ℤ)) * ((2 ^ 24 - 1 : ℕ) * 2 ^ (40 : ℤ)) :=
          mul_le_mul ha.le hb.le hb.nonneg (by positivity)
      _ ≤ (2 ^ 24 - 1 : ℕ) * 2 ^ (104 : ℤ) := by norm_num
  have hmax : c ≤ (2 ^ 24 - 1 : ℕ) * 2 ^ (104 : ℤ) := hc.le_of_le (by decide) (by decide) (by decide) hle
  refine ⟨c, hstores.isSingle (lt_of_le_of_lt hmax (by norm_num)), hc.pos ?_⟩
  exact hgt

end GroundedQA.Number
