import GroundedQA.Proofs.Number.Gaps
import GroundedQA.Proofs.Number.Interval
import GroundedQA.Proofs.Number.Scaling
/-!
# Readings stay in the interval

A decimal that stands for a binary32 number is read as a binary64 number that stands for it as well
(`stands_of_reading`), although that is not always the nearest one: reading never crosses an end of the
interval (`sameSide`). Where the decimal is coarser than the end, the gap between the two is wider than
what reading adds; a finer decimal is picked next to the number, far from the end. The two exceptions to
the gap are read to their own side of it.
-/

namespace GroundedQA.Number

open Float.Model Float.Model.UnpackedFloat

/-- `c` is on the side of `b` that `v` is on. -/
def SameSide (v c b : ℚ) : Prop :=
  (v < b ∧ c < b) ∨ (v = b ∧ c = b) ∨ (b < v ∧ b < c)

theorem stands_of_sameSide {x : Dyadic} {v c : ℚ} (h : x.Stands v) (hlow : SameSide v c x.low)
    (hhigh : SameSide v c x.high) : x.Stands c := by
  unfold SameSide at hlow hhigh
  by_cases heven : x.mantissa % 2 = 0
  · rw [Dyadic.Stands, if_pos heven] at h ⊢
    constructor
    · rcases hlow with ⟨hv, -⟩ | ⟨-, hc⟩ | ⟨-, hc⟩ <;> linarith [h.1]
    · rcases hhigh with ⟨-, hc⟩ | ⟨-, hc⟩ | ⟨hv, -⟩ <;> linarith [h.2]
  · rw [Dyadic.Stands, if_neg heven] at h ⊢
    constructor
    · rcases hlow with ⟨hv, -⟩ | ⟨hv, -⟩ | ⟨-, hc⟩ <;> linarith [h.1]
    · rcases hhigh with ⟨-, hc⟩ | ⟨hv, -⟩ | ⟨hv, -⟩ <;> linarith [h.2]

/-! ## The ends of the interval -/

/-- An end of the interval: an odd number of 25 bits, as far away from `x` as its last place counts. -/
structure IsEnd (x : Dyadic) (M : ℕ) (j : ℤ) : Prop where
  odd : M % 2 = 1
  lt : M < 2 ^ 25
  ge : -151 ≤ j
  le : j ≤ x.exponent - 1
  distance : |x.value - M * 2 ^ j| = 2 ^ j

variable {x : Dyadic} {n : ℕ} {j : ℤ}

theorem isEnd_above (hv : x.value = n * 2 ^ j) (heven : n % 2 = 0) (hn : n < 2 ^ 25) (hj : -151 ≤ j)
    (hle : j ≤ x.exponent - 1) :
    IsEnd x (n + 1) j ∧ ((n + 1 : ℕ) * 2 ^ j : ℚ) = x.value + 2 ^ j := by
  have hend : ((n + 1 : ℕ) * 2 ^ j : ℚ) = x.value + 2 ^ j := by
    rw [hv, Nat.cast_succ, add_one_mul]
  refine ⟨⟨by omega, by omega, hj, hle, ?_⟩, hend⟩
  rw [hend, sub_add_cancel_left, abs_neg, abs_of_pos (two_zpow_pos j)]

theorem isEnd_below (hv : x.value = (n + 1 : ℕ) * 2 ^ j) (heven : (n + 1) % 2 = 0) (hn : n < 2 ^ 25) (hj : -151 ≤ j)
    (hle : j ≤ x.exponent - 1) :
    IsEnd x n j ∧ (n * 2 ^ j : ℚ) = x.value - 2 ^ j := by
  have hend : (n * 2 ^ j : ℚ) = x.value - 2 ^ j := by
    rw [hv, Nat.cast_succ, add_one_mul, add_sub_cancel_right]
  refine ⟨⟨by omega, by omega, hj, hle, ?_⟩, hend⟩
  rw [hend, sub_sub_cancel, abs_of_pos (two_zpow_pos j)]

theorem Dyadic.value_eq_half (x : Dyadic) : x.value = (2 * x.mantissa : ℕ) * 2 ^ (x.exponent - 1) := by
  have hsplit : (2 : ℚ) ^ x.exponent = 2 ^ (x.exponent - 1) * 2 := by
    rw [← zpow_add_one₀ two_ne_zero, sub_add_cancel]
  rw [value, hsplit]
  push_cast
  ring

theorem half_eq (e : ℤ) : (2 : ℚ) * 2 ^ (e - 2) = 2 ^ (e - 1) := by
  rw [mul_comm, ← zpow_add_one₀ two_ne_zero]
  congr 1
  ring

theorem exists_high (h : x.IsCanonical32) : ∃ M j, IsEnd x M j ∧ x.high = (M * 2 ^ j : ℚ) := by
  have hm : x.mantissa < 2 ^ 24 := h.canonical.lt
  have he : -149 ≤ x.exponent := h.canonical.ge
  obtain ⟨hend, hvalue⟩ := isEnd_above x.value_eq_half (by omega) (by omega) (by omega) le_rfl
  refine ⟨_, _, hend, ?_⟩
  rw [hvalue, Dyadic.high, half_eq]

theorem exists_low (h : x.IsCanonical32) : ∃ M j, IsEnd x M j ∧ x.low = (M * 2 ^ j : ℚ) := by
  have hpos := h.pos
  have hm : x.mantissa < 2 ^ 24 := h.canonical.lt
  have he : -149 ≤ x.exponent := h.canonical.ge
  unfold Dyadic.low
  split
  next hclose =>
    -- Below a power of two the end is a quarter away.
    obtain ⟨hpower, -⟩ : x.mantissa = 2 ^ 23 ∧ -149 < x.exponent := by
      rw [h.closeBelow] at hclose
      simpa using hclose
    have hv : x.value = (4 * x.mantissa - 1 + 1 : ℕ) * 2 ^ (x.exponent - 2) := by
      rw [x.value_eq, Nat.sub_add_cancel (by omega)]
      push_cast
      ring
    obtain ⟨hend, hvalue⟩ := isEnd_below hv (by omega) (by omega) (by omega) (by omega)
    refine ⟨_, _, hend, ?_⟩
    rw [hvalue, one_mul]
  next =>
    have hv : x.value = (2 * x.mantissa - 1 + 1 : ℕ) * 2 ^ (x.exponent - 1) := by
      rw [x.value_eq_half, Nat.sub_add_cancel (by omega)]
    obtain ⟨hend, hvalue⟩ := isEnd_below hv (by omega) (by omega) (by omega) (by omega)
    refine ⟨_, _, hend, ?_⟩
    rw [hvalue, half_eq]

/-! ## One end -/

variable {d M : ℕ} {k : ℤ} {c : ℚ}

/-- Two roundings move a number by less than a gap is wide. -/
theorem sameSide_of_gap (hread : IsReading d k c) (hM : 0 < (M * 2 ^ j : ℚ))
    (hgap : M * 2 ^ j * (5 / 2 ^ 54) ≤ |(d * 10 ^ k - M * 2 ^ j : ℚ)|) : SameSide (d * 10 ^ k) c (M * 2 ^ j) := by
  have hclose := hread.close
  generalize (d * 10 ^ k : ℚ) = v at *
  generalize (M * 2 ^ j : ℚ) = b at *
  rw [abs_le] at hclose
  rcases le_or_gt v b with hle | hlt
  · left
    rw [abs_of_nonpos (by linarith)] at hgap
    constructor <;> linarith
  · right
    right
    rw [abs_of_pos (by linarith)] at hgap
    refine ⟨hlt, ?_⟩
    nlinarith

/-- A fine decimal is closer to the number than half the way to the end. -/
theorem sameSide_of_fine (hread : IsReading d k c) (hend : IsEnd x M j) (hfine : 2 * |(d * 10 ^ k - x.value : ℚ)| ≤ 2 ^ j) :
    SameSide (d * 10 ^ k) c (M * 2 ^ j) := by
  have hclose := hread.close
  have hdistance := hend.distance
  have hunit := two_zpow_pos j
  have hM : (M * 2 ^ j : ℚ) ≤ 2 ^ 25 * 2 ^ j := by
    refine mul_le_mul_of_nonneg_right ?_ hunit.le
    exact_mod_cast hend.lt.le
  generalize (d * 10 ^ k : ℚ) = v at *
  generalize (M * 2 ^ j : ℚ) = b at *
  have hv := abs_le.1 (show |v - x.value| ≤ 2 ^ j / 2 by linarith)
  rw [abs_le] at hclose
  rcases abs_eq hunit.le |>.1 hdistance with h | h
  · right
    right
    constructor <;> linarith
  · left
    constructor <;> linarith

/-! ## Exceptions -/

/-- A positive number below `M * 2 ^ j`. -/
def IsBelow (M : ℕ) (j : ℤ) : UnpackedFloat → Prop
  | .finite .positive m e _ => e ≤ j ∧ m < M * 2 ^ (j - e).toNat
  | .finite .negative _ _ _ | .zero _ | .infinity _ | .notANumber => False

/-- A positive number above `M * 2 ^ j`. -/
def IsAbove (M : ℕ) (j : ℤ) : UnpackedFloat → Prop
  | .finite .positive m e _ => e ≤ j ∧ M * 2 ^ (j - e).toNat < m
  | .finite .negative _ _ _ | .zero _ | .infinity _ | .notANumber => False

instance (M : ℕ) (j : ℤ) : (u : UnpackedFloat) → Decidable (IsBelow M j u)
  | .finite .positive _ _ _ => inferInstanceAs (Decidable (_ ∧ _))
  | .finite .negative _ _ _ | .zero _ | .infinity _ | .notANumber => .isFalse id

instance (M : ℕ) (j : ℤ) : (u : UnpackedFloat) → Decidable (IsAbove M j u)
  | .finite .positive _ _ _ => inferInstanceAs (Decidable (_ ∧ _))
  | .finite .negative _ _ _ | .zero _ | .infinity _ | .notANumber => .isFalse id

theorem end_eq {e : ℤ} (he : e ≤ j) : (M * 2 ^ j : ℚ) = (M * 2 ^ (j - e).toNat : ℕ) * 2 ^ e := by
  have hsplit : j = (j - e).toNat + e := by omega
  conv_lhs => rw [hsplit, two_zpow_add, two_zpow_natCast]
  push_cast
  ring

variable {y : Float}

theorem Holds.lt_of_isBelow (hy : Holds y .positive c) (h : IsBelow M j y.toModel.unpack) : c < (M * 2 ^ j : ℚ) := by
  obtain ⟨m, e, hpos, hu, -, -, rfl⟩ := hy
  rw [hu] at h
  rw [end_eq h.1]
  exact mul_lt_mul_of_pos_right (by exact_mod_cast h.2) (two_zpow_pos e)

theorem Holds.gt_of_isAbove (hy : Holds y .positive c) (h : IsAbove M j y.toModel.unpack) : (M * 2 ^ j : ℚ) < c := by
  obtain ⟨m, e, hpos, hu, -, -, rfl⟩ := hy
  rw [hu] at h
  rw [end_eq h.1]
  exact mul_lt_mul_of_pos_right (by exact_mod_cast h.2) (two_zpow_pos e)

/-- The decimals that come too close to an end are read to the side they are on. -/
theorem sameSide_of_exception (hle : j ≤ binade k) (h : IsException k M (d * 2 ^ (binade k - j).toNat))
    (hscale : Numeral.scale? d.toUInt64.toFloat k = some y) (hy : Holds y .positive c) :
    SameSide (d * 10 ^ k) c (M * 2 ^ j) := by
  rcases h with ⟨rfl, rfl, hd⟩ | ⟨rfl, rfl, hd⟩
  · have hbinade : binade (-32) = -107 := by decide
    rw [hbinade] at hle hd
    -- The digits are even once, so the end is one place lower at most.
    have hcases : (j = -107 ∧ d = 14077062) ∨ (j = -108 ∧ d = 7038531) := by
      obtain ⟨s, hs⟩ : ∃ s, s = (-107 - j).toNat := ⟨_, rfl⟩
      rw [← hs] at hd
      match s with
      | 0 => exact .inl ⟨by omega, by omega⟩
      | 1 => exact .inr ⟨by omega, by omega⟩
      | s + 2 =>
        rw [Nat.pow_add, ← Nat.mul_assoc] at hd
        omega
    left
    rcases hcases with ⟨rfl, rfl⟩ | ⟨rfl, rfl⟩
    · have hbelow : ∀ y ∈ Numeral.scale? (14077062 : ℕ).toUInt64.toFloat (-32), IsBelow 22841339 (-107) y.toModel.unpack := by
        decide +kernel
      exact ⟨by norm_num, hy.lt_of_isBelow (hbelow y hscale)⟩
    · have hbelow : ∀ y ∈ Numeral.scale? (7038531 : ℕ).toUInt64.toFloat (-32), IsBelow 22841339 (-108) y.toModel.unpack := by
        decide +kernel
      exact ⟨by norm_num, hy.lt_of_isBelow (hbelow y hscale)⟩
  · have hbinade : binade (-15) = -50 := by decide
    rw [hbinade] at hle hd
    obtain ⟨rfl, rfl⟩ : j = -50 ∧ d = 25645849 := by
      obtain ⟨s, hs⟩ : ∃ s, s = (-50 - j).toNat := ⟨_, rfl⟩
      rw [← hs] at hd
      match s with
      | 0 => exact ⟨by omega, by omega⟩
      | s + 1 =>
        rw [Nat.pow_succ, ← Nat.mul_assoc] at hd
        omega
    have habove : ∀ y ∈ Numeral.scale? (25645849 : ℕ).toUInt64.toFloat (-15), IsAbove 28874659 (-50) y.toModel.unpack := by
      decide +kernel
    exact .inr (.inr ⟨by norm_num, hy.gt_of_isAbove (habove y hscale)⟩)

/-- Reading a decimal does not cross an end of the interval that it is in. -/
theorem sameSide (hmin : -45 ≤ k) (hmax : k ≤ 45) (hend : IsEnd x M j)
    (hclose : (10 : ℚ) ^ k < 2 * 2 ^ (x.exponent - 2) → 2 * |(d * 10 ^ k - x.value : ℚ)| ≤ 10 ^ k)
    (hscale : Numeral.scale? d.toUInt64.toFloat k = some y) (hy : Holds y .positive c) (hread : IsReading d k c) :
    SameSide (d * 10 ^ k) c (M * 2 ^ j) := by
  have hM : 0 < (M * 2 ^ j : ℚ) := by
    have hodd := hend.odd
    exact mul_pos (by exact_mod_cast (show 0 < M by omega)) (two_zpow_pos j)
  by_cases hcoarse : (2 : ℚ) ^ j ≤ 10 ^ k
  · rcases gap hmin hmax hend.odd hend.lt hcoarse with ⟨heq, hk⟩ | hgap | hexception
    · have hc : c = d * 10 ^ k := by
        have hge := hend.ge
        refine (hread.rounded hk).exact M j heq (Nat.lt_trans hend.lt (by decide)) ?_
        show -1074 ≤ j
        omega
      exact .inr (.inl ⟨heq, hc.trans heq⟩)
    · exact sameSide_of_gap hread hM hgap
    · exact sameSide_of_exception (le_binade hmin hmax hcoarse) hexception hscale hy
  · have hfine : (10 : ℚ) ^ k < 2 ^ j := not_le.1 hcoarse
    refine sameSide_of_fine hread hend (le_trans (hclose ?_) hfine.le)
    rw [half_eq]
    exact lt_of_lt_of_le hfine (two_zpow_le hend.le)

/-- The shortest decimal of a number is read as one that stands for it. -/
theorem stands_of_reading (h : x.IsCanonical32)
    (hscale : Numeral.scale? x.shortest.digits.toUInt64.toFloat x.shortest.exponent = some y)
    (hy : Holds y .positive c) (hread : IsReading x.shortest.digits x.shortest.exponent c) : x.Stands c := by
  obtain ⟨hshort, -, hmin, hmax⟩ := shortest_spec h
  obtain ⟨M, j, hlow, hlow'⟩ := exists_low h
  obtain ⟨M', j', hhigh, hhigh'⟩ := exists_high h
  refine stands_of_sameSide hshort.stands ?_ ?_
  · rw [hlow']
    exact sameSide hmin hmax hlow hshort.close hscale hy hread
  · rw [hhigh']
    exact sameSide hmin hmax hhigh hshort.close hscale hy hread

end GroundedQA.Number
