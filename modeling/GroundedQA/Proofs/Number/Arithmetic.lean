import GroundedQA.Proofs.Number.Packing
import GroundedQA.Proofs.Number.Rounding
import Mathlib.Tactic.FieldSimp
/-!
# Binary64 arithmetic

A product and a quotient of normal binary64 numbers are the exact ones after one rounding (`Holds.mul`,
`Holds.div`), as long as they are neither tiny nor huge.
-/

namespace GroundedQA.Number

open Float.Model Float.Model.UnpackedFloat

/-- `x` is the normal binary64 number of the given sign and size. -/
def Holds (x : Float) (sign : Sign) (v : ℚ) : Prop :=
  ∃ (m : ℕ) (e : ℤ) (hpos : 0 < m), x.toModel.unpack = .finite sign m e hpos ∧ 2 ^ 52 ≤ m ∧ m < 2 ^ 53 ∧ v = m * 2 ^ e

/-- A number whose exponent is one of binary64, if it has one. -/
def InRange : UnpackedFloat → Prop
  | .finite _ _ exponent _ => -1074 ≤ exponent ∧ exponent ≤ 971
  | .zero _ | .infinity _ | .notANumber => True

theorem inRange_unpack (b : BitVec Format.binary64.numBits) : InRange (UnpackedFloat.unpack .binary64 b) := by
  have hlt : (unpackExponent b).toNat < 2 ^ 11 := BitVec.isLt _
  unfold UnpackedFloat.unpack
  refine dite_holds (fun _ => dite_holds (fun _ => trivial) fun _ => trivial) fun hfinite =>
    dite_holds (fun hzero => dite_holds (fun _ => trivial) fun _ => ?_) fun hnormal => ?_
  · rw [hzero]
    show -1074 ≤ ((0 : ℕ) : ℤ) - 1075 + 1 ∧ ((0 : ℕ) : ℤ) - 1075 + 1 ≤ 971
    decide
  · have hne : (unpackExponent b).toNat ≠ 2047 := fun heq => hfinite (BitVec.eq_of_toNat_eq heq)
    have hpos : (unpackExponent b).toNat ≠ 0 := fun heq => hnormal (BitVec.eq_of_toNat_eq heq)
    show -1074 ≤ ((unpackExponent b).toNat : ℤ) - 1075 ∧ ((unpackExponent b).toNat : ℤ) - 1075 ≤ 971
    omega

/-- A size far from the ends of the range of binary64. -/
def Moderate (v : ℚ) : Prop :=
  2 ^ (-900 : ℤ) ≤ v ∧ v ≤ 2 ^ (900 : ℤ)

theorem Moderate.pos {v : ℚ} (h : Moderate v) : 0 < v :=
  lt_of_lt_of_le (two_zpow_pos _) h.1

theorem Holds.pos {x : Float} {sign : Sign} {v : ℚ} (h : Holds x sign v) : 0 < v := by
  obtain ⟨m, e, hpos, -, -, -, rfl⟩ := h
  exact mul_pos (by exact_mod_cast hpos) (two_zpow_pos e)

theorem Holds.not_isInf {x : Float} {sign : Sign} {v : ℚ} (h : Holds x sign v) : x.isInf = false := by
  obtain ⟨m, e, hpos, hx, -⟩ := h
  show UnpackedFloat.isInf x.toModel.unpack = false
  rw [hx]
  rfl

/-- A number that is rounded comes out of its bits again. -/
theorem Holds.of_rounds {u : UnpackedFloat} {sign : Sign} {v : ℚ} (h : Rounds .binary64 sign v u) (hv : Moderate v) :
    ∃ c, IsRounded .binary64 v c ∧ Holds (.ofModel (.pack u)) sign c := by
  have hmin : (2 : ℚ) ^ (Format.binary64.minExponent + Format.binary64.mantissaBitsWithoutImplicit) ≤ v :=
    le_trans (two_zpow_le (by decide)) hv.1
  obtain ⟨c, hc, hu⟩ := h.isRounded hmin
  refine ⟨c, hc, ?_⟩
  -- What rounding changes is less than the half.
  have hclose := abs_le.1 hc.close
  have hhalf : v / 2 ^ (Format.binary64.mantissaBits : ℤ) ≤ v / 2 := by
    refine div_le_div_of_nonneg_left hv.pos.le two_pos ?_
    show (2 : ℚ) ≤ 2 ^ (53 : ℤ)
    norm_num
  have hlow : (2 : ℚ) ^ (-901 : ℤ) ≤ c := by
    have hsplit : (2 : ℚ) ^ (-901 + 1 : ℤ) = 2 ^ (-901 : ℤ) * 2 := zpow_add_one₀ two_ne_zero _
    have hle : (2 : ℚ) ^ (-901 + 1 : ℤ) ≤ v := hv.1
    linarith
  have hhigh : c ≤ (2 : ℚ) ^ (901 : ℤ) :=
    calc c ≤ v * 2 := by
          have hpos := hv.pos
          linarith
      _ ≤ 2 ^ (900 : ℤ) * 2 := mul_le_mul_of_nonneg_right hv.2 zero_le_two
      _ = 2 ^ (900 + 1 : ℤ) := (zpow_add_one₀ two_ne_zero _).symm
  cases hu with
  | zero hzero =>
    have := two_zpow_pos (-901)
    linarith
  | @finite m e hpos hcanonical hvalue =>
    have hlt : m < 2 ^ 53 := hcanonical.lt
    have hfull : 2 ^ 52 ≤ m := by
      refine hcanonical.full.resolve_left fun he => ?_
      have he' : e = -1074 := he
      have htiny : c < (2 : ℚ) ^ (-901 : ℤ) :=
        calc c = m * 2 ^ e := hvalue
          _ < 2 ^ (53 : ℤ) * 2 ^ e := by
            refine mul_lt_mul_of_pos_right ?_ (two_zpow_pos e)
            exact_mod_cast hlt
          _ = 2 ^ (53 + e) := (two_zpow_add 53 e).symm
          _ ≤ 2 ^ (-901 : ℤ) := two_zpow_le (by omega)
      linarith
    have hmax : e ≤ 971 := by
      have hpow : (2 : ℚ) ^ (52 + e) ≤ 2 ^ (901 : ℤ) :=
        calc (2 : ℚ) ^ (52 + e) = 2 ^ (52 : ℤ) * 2 ^ e := two_zpow_add 52 e
          _ ≤ m * 2 ^ e := by
            refine mul_le_mul_of_nonneg_right ?_ (two_zpow_pos e).le
            exact_mod_cast hfull
          _ = c := hvalue.symm
          _ ≤ 2 ^ (901 : ℤ) := hhigh
      have := (zpow_le_zpow_iff_right₀ one_lt_two).1 hpow
      omega
    exact ⟨m, e, hpos, unpack_pack_normal sign hpos hfull hlt hcanonical.ge hmax, hfull, hlt, hvalue⟩

/-! ## Operations -/

variable {x y : Float} {s s' : Sign} {a b : ℚ}

theorem Holds.neg (hx : Holds x s a) : Holds (-x) (-s) a := by
  obtain ⟨m, e, hpos, hux, hfull, hlt, rfl⟩ := hx
  refine ⟨m, e, hpos, ?_, hfull, hlt, rfl⟩
  obtain ⟨hmin, hmax⟩ : -1074 ≤ e ∧ e ≤ 971 := by
    have hrange : InRange x.toModel.unpack := inRange_unpack _
    rwa [hux] at hrange
  show (Float.Model.pack x.toModel.unpack.neg).unpack = _
  rw [hux]
  exact unpack_pack_normal (-s) hpos hfull hlt hmin hmax

theorem Holds.mul (hx : Holds x s a) (hy : Holds y s' b) (hab : Moderate (a * b)) :
    ∃ c, IsRounded .binary64 (a * b) c ∧ Holds (x * y) (s * s') c := by
  obtain ⟨m, e, hpos, hux, hfull, -, rfl⟩ := hx
  obtain ⟨m', e', hpos', huy, hfull', -, rfl⟩ := hy
  have hmul : x * y = .ofModel (.pack (roundWithAccuracy .binary64 (s * s') (m * m') (e + e') .exact)) := by
    show Float.ofModel (.pack (UnpackedFloat.mul .binary64 x.toModel.unpack y.toModel.unpack)) = _
    rw [hux, huy]
    rfl
  have hvalue : (m * 2 ^ e * (m' * 2 ^ e') : ℚ) / 2 ^ (e + e') = (m * m' : ℕ) := by
    rw [div_eq_iff (two_zpow_pos _).ne', two_zpow_add]
    push_cast
    ring
  rw [hmul]
  refine Holds.of_rounds (rounds_roundWithAccuracy (s * s') (Nat.mul_pos hpos hpos') ?_ ?_) hab
  · rw [hvalue]
    exact represents_exact _
  · have hlog : 52 ≤ (m * m').log2 :=
      (Nat.le_log2 (Nat.mul_pos hpos hpos').ne').2 (Nat.le_trans hfull (Nat.le_mul_of_pos_right m hpos'))
    have htarget : Format.binary64.targetExponent (totalExponent (m * m') (e + e')) =
        max (((m * m').log2 : ℤ) + 1 + (e + e') - 53) (-1074) := rfl
    omega

/-! ## Quotients -/

section

variable {m m' n : ℕ} {e e' : ℤ}

/-- A quotient that is not tiny has an exponent that is not small. -/
theorem le_exponent_of_quotient (hpos' : 0 < m') (hlt : m < 2 ^ 53) (hfull' : 2 ^ 52 ≤ m')
    (hab : (2 : ℚ) ^ (-900 : ℤ) ≤ m * 2 ^ e / (m' * 2 ^ e')) : -1000 ≤ e - e' := by
  have hb : (0 : ℚ) < m' := by exact_mod_cast hpos'
  have hpow : (2 : ℚ) ^ (-900 : ℤ) ≤ 2 ^ (1 + (e - e')) :=
    calc (2 : ℚ) ^ (-900 : ℤ) ≤ m * 2 ^ e / (m' * 2 ^ e') := hab
      _ = m / m' * 2 ^ (e - e') := by
        rw [zpow_sub₀ two_ne_zero]
        exact mul_div_mul_comm ..
      _ ≤ 2 ^ (1 : ℤ) * 2 ^ (e - e') := by
        refine mul_le_mul_of_nonneg_right ?_ (two_zpow_pos _).le
        rw [div_le_iff₀ hb]
        exact_mod_cast (show m ≤ 2 ^ 1 * m' by omega)
      _ = 2 ^ (1 + (e - e')) := (two_zpow_add ..).symm
  have := (zpow_le_zpow_iff_right₀ one_lt_two).1 hpow
  omega

/-- Full mantissas are divided after the first has been shifted by as many bits as the format has. -/
theorem divCore_eq (hfull : 2 ^ 52 ≤ m) (hlt : m < 2 ^ 53) (hfull' : 2 ^ 52 ≤ m') (hlt' : m' < 2 ^ 53)
    (he : -1000 ≤ e - e') (hn : n = m <<< 53) :
    divCore .binary64 m e m' e' = (n / m', e - e' - 53, accuracyOfFraction (n % m') m') := by
  have hlog : m.log2 = 52 := (Nat.log2_eq_iff (by omega)).2 ⟨hfull, hlt⟩
  have hlog' : m'.log2 = 52 := (Nat.log2_eq_iff (by omega)).2 ⟨hfull', hlt'⟩
  have htarget : min (e - e') (Format.binary64.targetExponent (totalExponent m e - totalExponent m' e')) =
      e - e' - 53 := by
    show min (e - e') (max ((m.log2 : ℤ) + 1 + e - (m'.log2 + 1 + e') - 53) (-1074)) = e - e' - 53
    rw [hlog, hlog']
    omega
  have hshift : (e - e' - (e - e' - 53)).toNat = 53 := by omega
  unfold divCore
  dsimp only
  rw [htarget, hshift, ← hn]

/-- The quotient and the remainder spell the exact quotient. -/
theorem quotient_eq (hpos' : 0 < m') (hn : n = m <<< 53) : (m * 2 ^ e / (m' * 2 ^ e') : ℚ) / (2 : ℚ) ^ (e - e' - 53) =
    ((n / m' : ℕ) : ℚ) + ((n % m' : ℕ) : ℚ) / m' := by
  have hb : (m' : ℚ) ≠ 0 := by exact_mod_cast hpos'.ne'
  have hdm : (m : ℚ) * 2 ^ (53 : ℤ) = m' * (n / m' : ℕ) + (n % m' : ℕ) := by
    have hcast : (n : ℚ) = m * 2 ^ (53 : ℤ) := by
      rw [hn, Nat.shiftLeft_eq, Nat.cast_mul]
      rfl
    rw [← hcast]
    exact_mod_cast (Nat.div_add_mod n m').symm
  have hsplit : (2 : ℚ) ^ e = 2 ^ (e - e' - 53) * 2 ^ e' * 2 ^ (53 : ℤ) := by
    rw [← two_zpow_add, ← two_zpow_add]
    congr 1
    omega
  have hunit := (two_zpow_pos (e - e' - 53)).ne'
  have hunit' := (two_zpow_pos e').ne'
  calc (m * 2 ^ e / (m' * 2 ^ e') : ℚ) / (2 : ℚ) ^ (e - e' - 53) = m * 2 ^ (53 : ℤ) / m' := by
        rw [hsplit]
        field_simp
    _ = _ := by rw [hdm, add_div, mul_div_cancel_left₀ _ hb]

end

/-- A quotient of full mantissas has as many bits as the format, at least. -/
theorem Holds.div (hx : Holds x s a) (hy : Holds y s' b) (hab : Moderate (a / b)) :
    ∃ c, IsRounded .binary64 (a / b) c ∧ Holds (x / y) (s / s') c := by
  obtain ⟨m, e, hpos, hux, hfull, hlt, rfl⟩ := hx
  obtain ⟨m', e', hpos', huy, hfull', hlt', rfl⟩ := hy
  have he := le_exponent_of_quotient hpos' hlt hfull' hab.1
  obtain ⟨n, hn⟩ : ∃ n, n = m <<< 53 := ⟨_, rfl⟩
  have hdiv : x / y = .ofModel (.pack (roundWithAccuracy .binary64 (s / s') (n / m') (e - e' - 53)
      (accuracyOfFraction (n % m') m'))) := by
    have hcases : UnpackedFloat.div .binary64 (.finite s m e hpos) (.finite s' m' e' hpos') =
        roundWithAccuracy .binary64 (s / s') (divCore .binary64 m e m' e').1 (divCore .binary64 m e m' e').2.1
          (divCore .binary64 m e m' e').2.2 := rfl
    show Float.ofModel (.pack (UnpackedFloat.div .binary64 x.toModel.unpack y.toModel.unpack)) = _
    rw [hux, huy, hcases, divCore_eq hfull hlt hfull' hlt' he hn]
  have hquot : 2 ^ 52 ≤ n / m' := by
    rw [Nat.le_div_iff_mul_le hpos', hn, Nat.shiftLeft_eq]
    exact Nat.mul_le_mul hfull hlt'.le
  rw [hdiv]
  refine Holds.of_rounds (rounds_roundWithAccuracy (s / s') (by omega) ?_ ?_) hab
  · rw [quotient_eq hpos' hn]
    exact represents_fraction _ (Nat.mod_lt _ hpos')
  · have hlog : 52 ≤ (n / m').log2 := (Nat.le_log2 (by omega)).2 hquot
    have htarget : Format.binary64.targetExponent (totalExponent (n / m') (e - e' - 53)) =
        max (((n / m').log2 : ℤ) + 1 + (e - e' - 53) - 53) (-1074) := rfl
    omega

end GroundedQA.Number
