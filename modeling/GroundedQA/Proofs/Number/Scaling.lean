import GroundedQA.Number.Numeral
import GroundedQA.Proofs.Number.Arithmetic
/-!
# Short decimals as binary64 numbers

The digits of a short decimal are a whole number that binary64 has (`holds_toFloat`), and each power of
ten that it may be scaled by is there up to one rounding (`holds_powerOfTen`). So a short decimal is read
as a number that is two roundings away from it at most, and one only where the power is there exactly
(`scale?_spec`).
-/

namespace GroundedQA.Number

open Float.Model Float.Model.UnpackedFloat

/-- What lies between moderate sizes is moderate. -/
theorem moderate_of_le {a v b : ℚ} (ha : 1 / 10 ^ 70 ≤ a) (hav : a ≤ v) (hvb : v ≤ b) (hb : b ≤ 10 ^ 70) : Moderate v := by
  have hpow : (10 : ℚ) ^ 70 ≤ 2 ^ (240 : ℤ) := by norm_num
  constructor
  · calc (2 : ℚ) ^ (-900 : ℤ) ≤ 2 ^ (-240 : ℤ) := two_zpow_le (by decide)
      _ = 1 / 2 ^ (240 : ℤ) := by rw [zpow_neg, one_div]
      _ ≤ 1 / 10 ^ 70 := one_div_le_one_div_of_le (by positivity) hpow
      _ ≤ v := ha.trans hav
  · calc v ≤ 2 ^ (240 : ℤ) := (hvb.trans hb).trans hpow
      _ ≤ 2 ^ (900 : ℤ) := two_zpow_le (by decide)

theorem holds_toFloat {n : ℕ} (hpos : 0 < n) (hn : n < 2 ^ 53) : Holds n.toUInt64.toFloat .positive n := by
  have hvalue : (n.toUInt64.toNat : ℤ) = n := by
    rw [UInt64.toNat_ofNat']
    omega
  have hround : n.toUInt64.toFloat = .ofModel (.pack (UnpackedFloat.round .binary64 .positive n 0)) := by
    have hcmp : compare (n : ℤ) 0 = .gt := Int.compare_eq_gt.2 (by omega)
    show Float.ofModel (.pack (UnpackedFloat.normalize .binary64 (n.toUInt64.toNat : ℤ) 0 .positive)) = _
    rw [hvalue]
    unfold UnpackedFloat.normalize
    rw [hcmp]
    rfl
  have hmoderate : Moderate (n * 2 ^ (0 : ℤ)) := by
    rw [zpow_zero, mul_one]
    have hlow : (1 : ℚ) ≤ n := by exact_mod_cast hpos
    have hhigh : (n : ℚ) ≤ 2 ^ 53 := by exact_mod_cast hn.le
    exact moderate_of_le (by norm_num) hlow hhigh (by norm_num)
  obtain ⟨c, hc, hx⟩ := Holds.of_rounds (rounds_round .positive hpos 0) hmoderate
  have hexact : c = n := by
    rw [hc.exact n 0 rfl hn (by decide), zpow_zero, mul_one]
  rw [hround, ← hexact]
  exact hx

/-! ## Powers of ten -/

/-- A normal number that `10 ^ n` may be rounded to; for a power of few bits it is the power itself. -/
def IsPower (n : ℕ) : UnpackedFloat → Prop
  | .finite .positive m e _ =>
    2 ^ 52 ≤ m ∧ m < 2 ^ 53 ∧
      ((m * 2 ^ e.toNat : ℤ) - 10 ^ n * 2 ^ (-e).toNat).natAbs * 2 ^ 53 ≤ 10 ^ n * 2 ^ (-e).toNat ∧
      (n ≤ 22 → m * 2 ^ e.toNat = 10 ^ n * 2 ^ (-e).toNat)
  | .finite .negative _ _ _ | .zero _ | .infinity _ | .notANumber => False

instance (n : ℕ) : (u : UnpackedFloat) → Decidable (IsPower n u)
  | .finite .positive _ _ _ => inferInstanceAs (Decidable (_ ∧ _))
  | .finite .negative _ _ _ | .zero _ | .infinity _ | .notANumber => .isFalse id

theorem isPower_powerOfTen {n : ℕ} (hn : n ≤ 45) : IsPower n (Numeral.powerOfTen n).toModel.unpack := by
  have hall : ∀ n < 46, IsPower n (Numeral.powerOfTen n).toModel.unpack := by decide +kernel
  exact hall n (by omega)

theorem holds_powerOfTen {n : ℕ} (hn : n ≤ 45) :
    ∃ c, Holds (Numeral.powerOfTen n) .positive c ∧ |c - 10 ^ n| ≤ 10 ^ n / 2 ^ 53 ∧ (n ≤ 22 → c = 10 ^ n) := by
  have hpower := isPower_powerOfTen hn
  match hx : (Numeral.powerOfTen n).toModel.unpack with
  | .finite .negative _ _ _ | .zero _ | .infinity _ | .notANumber =>
    rw [hx] at hpower
    exact hpower.elim
  | .finite .positive m e hpos =>
    rw [hx] at hpower
    obtain ⟨hfull, hlt, hclose, hexact⟩ := hpower
    -- What is checked of whole numbers is the same after a division by the common power of two.
    have hunit : (0 : ℚ) < (2 ^ (-e).toNat : ℕ) := by exact_mod_cast Nat.two_pow_pos _
    have hvalue : (m * 2 ^ e.toNat : ℚ) = m * 2 ^ e * (2 ^ (-e).toNat : ℕ) := by
      have hsplit : ((e.toNat : ℕ) : ℤ) = e + ((-e).toNat : ℕ) := by omega
      rw [← zpow_natCast, hsplit, two_zpow_add, two_zpow_natCast, mul_assoc]
    refine ⟨m * 2 ^ e, ⟨m, e, hpos, hx, hfull, hlt, rfl⟩, ?_, fun hsmall => ?_⟩
    · have hcast : |(m * 2 ^ e.toNat : ℚ) - 10 ^ n * (2 ^ (-e).toNat : ℕ)| * 2 ^ 53 ≤ 10 ^ n * (2 ^ (-e).toNat : ℕ) := by
        have habs : |(m * 2 ^ e.toNat : ℤ) - 10 ^ n * (2 ^ (-e).toNat : ℕ)| * 2 ^ 53 ≤ 10 ^ n * (2 ^ (-e).toNat : ℕ) := by
          rw [← Int.natCast_natAbs]
          exact_mod_cast hclose
        exact_mod_cast habs
      rw [hvalue, ← sub_mul, abs_mul, abs_of_pos hunit, mul_right_comm] at hcast
      rw [le_div_iff₀ (by positivity)]
      exact le_of_mul_le_mul_right hcast hunit
    · have hcast : (m * 2 ^ e.toNat : ℚ) = 10 ^ n * (2 ^ (-e).toNat : ℕ) := by
        exact_mod_cast hexact hsmall
      exact mul_right_cancel₀ hunit.ne' (hvalue ▸ hcast)

/-! ## Readings -/

/-- `c` is two roundings away from `d * 10 ^ k` at most, and one where the power of ten is exact. -/
structure IsReading (d : ℕ) (k : ℤ) (c : ℚ) : Prop where
  close : |c - d * 10 ^ k| ≤ d * 10 ^ k * (9 / 2 ^ 55)
  rounded : k.natAbs ≤ 22 → IsRounded .binary64 (d * 10 ^ k) c

/-- A rounding of a number that is itself close to `v`. -/
theorem close_of_close {v a c : ℚ} (hv : 0 ≤ v) (ha : |a - v| ≤ v * (17 / 2 ^ 57)) (hc : |c - a| ≤ a / 2 ^ 53) :
    |c - v| ≤ v * (9 / 2 ^ 55) := by
  rw [abs_le] at *
  constructor <;> linarith

/-- A power of ten and its rounding are about the same. -/
theorem bounds_of_close {t p : ℚ} (ht : 0 < t) (h : |p - t| ≤ t / 2 ^ 53) : t * (16 / 17) ≤ p ∧ p ≤ t * 2 := by
  rw [abs_le] at h
  constructor <;> linarith

theorem mul_close {d t p : ℚ} (hd : 0 ≤ d) (ht : 0 < t) (h : |p - t| ≤ t / 2 ^ 53) :
    |d * p - d * t| ≤ d * t * (17 / 2 ^ 57) := by
  rw [← mul_sub, abs_mul, abs_of_nonneg hd, mul_assoc]
  exact mul_le_mul_of_nonneg_left (by linarith) hd

theorem div_close {d t p : ℚ} (hd : 0 ≤ d) (ht : 0 < t) (h : |p - t| ≤ t / 2 ^ 53) :
    |d / p - d / t| ≤ d / t * (17 / 2 ^ 57) := by
  obtain ⟨hlow, -⟩ := bounds_of_close ht h
  have hp : 0 < p := lt_of_lt_of_le (by positivity) hlow
  have hdiff : d / p - d / t = d / t * ((t - p) / p) := by
    field_simp
  rw [hdiff, abs_mul, abs_of_nonneg (by positivity), abs_div, abs_of_pos hp, abs_sub_comm]
  refine mul_le_mul_of_nonneg_left ?_ (by positivity)
  rw [div_le_iff₀ hp]
  linarith

open Numeral in
theorem scale?_spec {d : ℕ} {k : ℤ} (hpos : 0 < d) (hd : d < 2 ^ 53) (hmin : -45 ≤ k) (hmax : k ≤ 45) :
    ∃ y c, scale? d.toUInt64.toFloat k = some y ∧ Holds y .positive c ∧ IsReading d k c := by
  have hx := holds_toFloat hpos hd
  obtain ⟨p, hp, hclose, hexact⟩ := holds_powerOfTen (n := k.natAbs) (by omega)
  have hd1 : (1 : ℚ) ≤ d := by exact_mod_cast hpos
  have hd0 : (0 : ℚ) ≤ d := Nat.cast_nonneg d
  have hd53 : (d : ℚ) ≤ 2 ^ 53 := by exact_mod_cast hd.le
  have ht : (0 : ℚ) < 10 ^ k.natAbs := by positivity
  have ht1 : (1 : ℚ) ≤ 10 ^ k.natAbs := one_le_pow₀ (by norm_num)
  have ht45 : (10 : ℚ) ^ k.natAbs ≤ 10 ^ 45 := pow_le_pow_right₀ (by norm_num) (by omega)
  obtain ⟨hlow, hhigh⟩ := bounds_of_close ht hclose
  have hp0 : 0 < p := lt_of_lt_of_le (by positivity) hlow
  unfold scale?
  rw [if_neg (by omega)]
  by_cases hk : 0 ≤ k
  · have hten : (10 : ℚ) ^ k = 10 ^ k.natAbs := by
      rw [← zpow_natCast, Int.natCast_natAbs, abs_of_nonneg hk]
    have hnat : k.toNat = k.natAbs := by omega
    have hmoderate : Moderate (d * p) := by
      refine moderate_of_le (a := 1 * (16 / 17)) (b := 2 ^ 53 * (10 ^ 45 * 2)) (by norm_num) ?_ ?_ (by norm_num)
      · exact mul_le_mul hd1 (by linarith) (by norm_num) hd0
      · exact mul_le_mul hd53 (by linarith) hp0.le (by norm_num)
    obtain ⟨c, hc, hy⟩ := hx.mul hp hmoderate
    rw [if_pos hk, hnat]
    dsimp only
    rw [hy.not_isInf]
    refine ⟨_, c, rfl, hy, ?_, fun hsmall => ?_⟩
    · rw [hten]
      exact close_of_close (by positivity) (mul_close hd0 ht hclose) hc.close
    · rw [hten, ← hexact hsmall]
      exact hc
  · have hten : (d * 10 ^ k : ℚ) = d / 10 ^ k.natAbs := by
      have hneg : k = -(k.natAbs : ℤ) := by omega
      rw [div_eq_mul_inv, ← zpow_natCast, ← zpow_neg, ← hneg]
    have hnat : (-k).toNat = k.natAbs := by omega
    have htimes : (k.natAbs - 1) / 308 = 0 := by omega
    have hmoderate : Moderate (d / p) := by
      refine moderate_of_le (a := 1 / (10 ^ 45 * 2)) (b := 2 ^ 53 / (16 / 17)) (by norm_num) ?_ ?_ (by norm_num)
      · exact div_le_div₀ hd0 hd1 hp0 (by linarith)
      · exact div_le_div₀ (by norm_num) hd53 (by norm_num) (by linarith)
    obtain ⟨c, hc, hy⟩ := hx.div hp hmoderate
    rw [if_neg hk, hnat]
    dsimp only
    rw [htimes]
    refine ⟨_, c, rfl, hy, ?_, fun hsmall => ?_⟩
    · rw [hten]
      exact close_of_close (by positivity) (div_close hd0 ht hclose) hc.close
    · rw [hten, ← hexact hsmall]
      exact hc

end GroundedQA.Number
