import GroundedQA.Proofs.Number.Narrowing
/-!
# Binary32 numbers and their sizes

A finite binary32 number is told by its sign and its size, a rational number (`IsSingle`). What is rounded to a
number of the format is that number in its bits, or infinite when its exponent is beyond the format (`Stores`); so a
product is the exact one after one rounding, or infinite (`IsSingle.mul`).
-/

namespace GroundedQA.Number

open Float.Model Float.Model.UnpackedFloat

/-! ## Bits -/

/-- The sign of a number, a zero or an infinite one included. -/
def sign? : UnpackedFloat → Option Sign
  | .infinity sign | .zero sign | .finite sign _ _ _ => some sign
  | .notANumber => none

/-- What the parts of a packed number are read as. -/
theorem unpack_packComponents {spec : Format} (sign : Sign) (exponent : BitVec spec.exponentBits)
    (mantissa : BitVec spec.mantissaBitsWithoutImplicit) :
    UnpackedFloat.unpack spec (packComponents spec sign exponent mantissa) =
      if exponent = -1#_ then if mantissa = 0#_ then .infinity sign else .notANumber
      else if exponent = 0#_ then
        if h : mantissa = 0#_ then .zero sign
        else .finite sign mantissa.toNat ((exponent.toNat : ℤ) - (spec.exponentBias + spec.mantissaBitsWithoutImplicit) + 1)
          (by simpa [BitVec.toNat_pos, BitVec.pos_iff_ne_zero])
      else .finite sign (1#1 ++ mantissa).toNat ((exponent.toNat : ℤ) - (spec.exponentBias + spec.mantissaBitsWithoutImplicit))
        (by simp) := by
  unfold UnpackedFloat.unpack
  simp only [unpackExponent_packComponents, unpackMantissa_packComponents, unpackSign_packComponents,
    Sign.ofBitVec_toBitVec]

theorem sign?_unpack_packComponents {spec : Format} (sign : Sign) {exponent : BitVec spec.exponentBits}
    {mantissa : BitVec spec.mantissaBitsWithoutImplicit} (h : exponent = -1#_ → mantissa = 0#_) :
    sign? (UnpackedFloat.unpack spec (packComponents spec sign exponent mantissa)) = some sign := by
  rw [unpack_packComponents]
  split
  · next hexp => rw [if_pos (h hexp)]; rfl
  · split
    · split <;> rfl
    · rfl

theorem toNat_ofNat_of_lt {w n : ℕ} (h : n < 2 ^ w) : (BitVec.ofNat w n).toNat = n := by
  rw [BitVec.toNat_ofNat, Nat.mod_eq_of_lt h]

/-- An exponent below the greatest is none of those of an infinite number. -/
theorem ofNat_ne_allOnes {n : ℕ} (h : n < 2 ^ 8 - 1) : BitVec.ofNat 8 n ≠ -1#8 := by
  intro heq
  have hstored := congrArg BitVec.toNat heq
  rw [toNat_ofNat_of_lt (by omega)] at hstored
  exact absurd hstored (Nat.ne_of_lt h)

/-- Packing keeps the sign, and whether a number is NaN. -/
theorem sign?_unpack_pack (u : UnpackedFloat) : sign? (Float32.Model.pack u).unpack = sign? u := by
  show sign? (UnpackedFloat.unpack .binary32 (UnpackedFloat.pack .binary32 u)) = _
  cases u with
  | notANumber =>
    show sign? (UnpackedFloat.unpack .binary32 (packedNaN .binary32)) = none
    rw [packedNaN, unpack_packComponents, if_pos rfl, if_neg (by decide)]
    rfl
  | infinity sign => exact sign?_unpack_packComponents sign fun _ => rfl
  | zero sign => exact sign?_unpack_packComponents sign fun _ => rfl
  | finite sign m e hpos =>
    unfold UnpackedFloat.pack
    dsimp only
    split
    · exact sign?_unpack_packComponents sign fun _ => rfl
    · next hbiased =>
      split
      · exact sign?_unpack_packComponents sign fun hexp => absurd hexp (ofNat_ne_allOnes (by omega))
      · exact sign?_unpack_packComponents sign fun hexp => absurd hexp (by decide)

theorem ofNat_ne_zero {w n : ℕ} (hpos : 0 < n) (h : n < 2 ^ w) : BitVec.ofNat w n ≠ 0#w := by
  intro heq
  have hstored := congrArg BitVec.toNat heq
  rw [toNat_ofNat_of_lt h, BitVec.toNat_zero] at hstored
  exact hpos.ne' hstored

/-- The exponent of a number as binary32 stores it. -/
theorem biased_eq (e : ℤ) :
    (e + Format.binary32.exponentBias + Format.binary32.mantissaBitsWithoutImplicit).toNat = (e + 150).toNat := by
  show (e + (127 : ℕ) + (23 : ℕ)).toNat = (e + 150).toNat
  omega

section

variable (sign : Sign) {m : ℕ} {e : ℤ} (hpos : 0 < m)

/-- A number whose mantissa has all its bits comes out of its own bits again. -/
theorem unpack_pack_of_full (hfull : 2 ^ 23 ≤ m) (hlt : m < 2 ^ 24) (hmin : -149 ≤ e) (hmax : e ≤ 104) :
    (Float32.Model.pack (.finite sign m e hpos)).unpack = .finite sign m e hpos := by
  have hlog : m.log2 + 1 = Format.binary32.mantissaBits := by
    show m.log2 + 1 = 24
    rw [(Nat.log2_eq_iff hpos.ne').2 ⟨hfull, hlt⟩]
  have hmantissa : (1#1 ++ BitVec.ofNat 23 m).toNat = m := by
    rw [toNat_implicit, BitVec.toNat_ofNat]
    omega
  have hexponent : ((e + 150).toNat : ℤ) -
      (Format.binary32.exponentBias + Format.binary32.mantissaBitsWithoutImplicit) = e := by
    show ((e + 150).toNat : ℤ) - ((127 : ℕ) + (23 : ℕ)) = e
    omega
  show UnpackedFloat.unpack .binary32 (UnpackedFloat.pack .binary32 _) = _
  unfold UnpackedFloat.pack
  dsimp only
  rw [biased_eq, if_neg (by show ¬2 ^ 8 ≤ (e + 150).toNat + 1; omega), if_pos hlog, unpack_packComponents,
    if_neg (ofNat_ne_allOnes (by omega)), if_neg (ofNat_ne_zero (by omega) (by omega))]
  simp only [hmantissa, toNat_ofNat_of_lt (show (e + 150).toNat < 2 ^ 8 by omega), hexponent]

/-- So does one of the least exponent whose mantissa has not. -/
theorem unpack_pack_of_least (hlt : m < 2 ^ 23) :
    (Float32.Model.pack (.finite sign m (-149) hpos)).unpack = .finite sign m (-149) hpos := by
  have hlog : m.log2 + 1 ≠ Format.binary32.mantissaBits := by
    show m.log2 + 1 ≠ 24
    have := log2_lt hlt (by omega)
    omega
  show UnpackedFloat.unpack .binary32 (UnpackedFloat.pack .binary32 _) = _
  unfold UnpackedFloat.pack
  dsimp only
  rw [biased_eq, if_neg (by decide), if_neg hlog, unpack_packComponents, if_neg (by decide), if_pos rfl,
    dif_neg (ofNat_ne_zero hpos hlt)]
  simp only [toNat_ofNat_of_lt hlt]
  rfl

/-- A number as binary32 has it comes out of its bits again. -/
theorem unpack_pack_of_canonical (h : Canonical .binary32 m e) (hmax : e ≤ 104) :
    (Float32.Model.pack (.finite sign m e hpos)).unpack = .finite sign m e hpos := by
  by_cases hfull : 2 ^ 23 ≤ m
  · exact unpack_pack_of_full sign hpos hfull h.lt h.ge hmax
  · obtain rfl : e = -149 := h.full.resolve_right hfull
    exact unpack_pack_of_least sign hpos (Nat.lt_of_not_le hfull)

/-- A number with an exponent beyond the format is infinite in its bits. -/
theorem unpack_pack_of_large (hmin : 104 < e) : (Float32.Model.pack (.finite sign m e hpos)).unpack = .infinity sign := by
  show UnpackedFloat.unpack .binary32 (UnpackedFloat.pack .binary32 _) = _
  unfold UnpackedFloat.pack
  dsimp only
  rw [biased_eq, if_pos (by show 2 ^ 8 ≤ (e + 150).toNat + 1; omega), packedInfinity, unpack_packComponents, if_pos rfl]
  exact if_pos rfl

end

theorem unpack_pack_zero (sign : Sign) : (Float32.Model.pack (.zero sign)).unpack = .zero sign := by
  cases sign <;> rfl

theorem unpack_pack_infinity (sign : Sign) : (Float32.Model.pack (.infinity sign)).unpack = .infinity sign := by
  cases sign <;> rfl

/-! ## Sizes -/

/-- `x` is the finite number of the given sign and size. -/
def IsSingle (x : Float32) (sign : Sign) (v : ℚ) : Prop :=
  IsNumber .binary32 sign v x.toModel.unpack

/-- `x` is the number of the given sign and size, or infinite when that is beyond binary32. -/
def Stores (x : Float32) (sign : Sign) (v : ℚ) : Prop :=
  if v < 2 ^ (128 : ℤ) then IsSingle x sign v else x.toModel.unpack = .infinity sign

variable {x y : Float32} {s s' : Sign} {a b : ℚ}

theorem isFinite_eq (x : Float32) : x.isFinite = x.toModel.unpack.isFinite := rfl

theorem isNaN_eq (x : Float32) : x.isNaN = x.toModel.unpack.isNaN := rfl

theorem isInf_eq (x : Float32) : x.isInf = x.toModel.unpack.isInf := rfl

theorem IsSingle.nonneg (h : IsSingle x s a) : 0 ≤ a := by
  unfold IsSingle at h
  generalize x.toModel.unpack = u at h
  cases h with
  | zero hv => exact hv.ge
  | finite hpos _ hv => exact hv ▸ mul_nonneg (Nat.cast_nonneg _) (two_zpow_pos _).le

theorem IsSingle.isFinite (h : IsSingle x s a) : x.isFinite := by
  rw [isFinite_eq]
  unfold IsSingle at h
  generalize x.toModel.unpack = u at h
  cases h <;> rfl

theorem IsSingle.not_isInf (h : IsSingle x s a) : ¬x.isInf := by
  rw [isInf_eq]
  unfold IsSingle at h
  generalize x.toModel.unpack = u at h
  cases h <;> exact Bool.false_ne_true

theorem IsSingle.exists_finite (h : IsSingle x s a) (ha : 0 < a) : ∃ m e hpos, x.toModel.unpack = .finite s m e hpos := by
  unfold IsSingle at h
  generalize x.toModel.unpack = u at h
  cases h with
  | zero hv => exact absurd hv ha.ne'
  | finite hpos _ _ => exact ⟨_, _, hpos, rfl⟩

/-- The exponent of a number is one of the format exactly when its size is. -/
theorem exponent_le_iff {m : ℕ} {e : ℤ} (h : Canonical .binary32 m e) : e ≤ 104 ↔ (m : ℚ) * 2 ^ e < 2 ^ (128 : ℤ) := by
  constructor
  · intro hle
    have hlt : (m : ℚ) < (2 ^ 24 : ℕ) := by exact_mod_cast h.lt
    calc (m : ℚ) * 2 ^ e < (2 ^ 24 : ℕ) * 2 ^ e := mul_lt_mul_of_pos_right hlt (two_zpow_pos e)
      _ = 2 ^ ((24 : ℕ) + e) := by rw [← two_zpow_natCast, two_zpow_add]
      _ ≤ 2 ^ (128 : ℤ) := two_zpow_le (by omega)
  · intro hlt
    by_contra hgt
    have hfull : 2 ^ 23 ≤ m := h.full.resolve_left fun heq => by
      have : e = -149 := heq
      omega
    have hge : (2 : ℚ) ^ (128 : ℤ) ≤ m * 2 ^ e :=
      calc (2 : ℚ) ^ (128 : ℤ) ≤ 2 ^ ((23 : ℕ) + e) := two_zpow_le (by omega)
        _ = (2 ^ 23 : ℕ) * 2 ^ e := by rw [← two_zpow_natCast, two_zpow_add]
        _ ≤ m * 2 ^ e := mul_le_mul_of_nonneg_right (by exact_mod_cast hfull) (two_zpow_pos e).le
    exact absurd hlt (not_lt_of_ge hge)

/-- A number of the format is stored as it is, or as an infinite one. -/
theorem stores_of_isNumber {u : UnpackedFloat} (h : IsNumber .binary32 s a u) : Stores (.ofModel (.pack u)) s a := by
  show if a < 2 ^ (128 : ℤ) then IsNumber .binary32 s a (Float32.Model.pack u).unpack
    else (Float32.Model.pack u).unpack = .infinity s
  cases h with
  | zero hv =>
    rw [unpack_pack_zero, if_pos (hv ▸ two_zpow_pos _)]
    exact .zero hv
  | finite hpos hcanonical hv =>
    split
    · next hlt =>
      rw [unpack_pack_of_canonical s hpos hcanonical ((exponent_le_iff hcanonical).2 (hv ▸ hlt))]
      exact .finite hpos hcanonical hv
    · next hge =>
      refine unpack_pack_of_large s hpos (Int.lt_of_not_ge fun hle => hge ?_)
      exact hv ▸ (exponent_le_iff hcanonical).1 hle

theorem Stores.isFinite_iff (h : Stores x s a) : x.isFinite ↔ a < 2 ^ (128 : ℤ) := by
  unfold Stores at h
  split at h
  · next hlt => exact iff_of_true h.isFinite hlt
  · next hge =>
    rw [isFinite_eq, h]
    exact iff_of_false Bool.false_ne_true hge

theorem Stores.isSingle (h : Stores x s a) (hlt : a < 2 ^ (128 : ℤ)) : IsSingle x s a := by
  unfold Stores at h
  rwa [if_pos hlt] at h

/-- Every finite number has a sign and a size. -/
theorem exists_isSingle (h : x.isFinite) : ∃ s a, IsSingle x s a := by
  have hcanonical : IsCanonicalBinary32 x.toModel.unpack := isCanonicalBinary32_unpack _
  rw [isFinite_eq] at h
  unfold IsSingle
  cases hx : x.toModel.unpack with
  | zero s => exact ⟨s, 0, .zero rfl⟩
  | finite s m e hpos =>
    rw [hx] at hcanonical
    exact ⟨s, m * 2 ^ e, .finite hpos hcanonical.1 rfl⟩
  | infinity s | notANumber =>
    rw [hx] at h
    cases h

/-! ## Products -/

/-- The product of two mantissas has no fewer bits than rounding needs. -/
theorem exponent_mul_le {m m' : ℕ} {e e' : ℤ} (hpos : 0 < m) (hpos' : 0 < m') (h : Canonical .binary32 m e)
    (h' : Canonical .binary32 m' e') :
    e + e' ≤ Format.binary32.targetExponent (totalExponent (m * m') (e + e')) := by
  have htarget : Format.binary32.targetExponent (totalExponent (m * m') (e + e')) =
      max (((m * m').log2 : ℤ) + 1 + (e + e') - 24) (-149) := rfl
  rw [htarget]
  -- Either both exponents are the least, or one of the mantissas is full.
  by_cases hlarge : 2 ^ 23 ≤ m * m'
  · have hlog : 23 ≤ (m * m').log2 := (Nat.le_log2 (Nat.mul_pos hpos hpos').ne').2 hlarge
    omega
  · have he : e = -149 := h.full.resolve_right fun hfull => hlarge (Nat.le_trans hfull (Nat.le_mul_of_pos_right m hpos'))
    have he' : e' = -149 := h'.full.resolve_right fun hfull => hlarge (Nat.le_trans hfull (Nat.le_mul_of_pos_left m' hpos))
    omega

/-- A product is the exact one after one rounding, or infinite. -/
theorem IsSingle.mul (hx : IsSingle x s a) (hy : IsSingle y s' b) :
    ∃ c, RoundsTo .binary32 (a * b) c ∧ Stores (x * y) (s * s') c := by
  have hmul : x * y = .ofModel (.pack (UnpackedFloat.mul .binary32 x.toModel.unpack y.toModel.unpack)) := rfl
  rw [hmul]
  suffices hnumber : ∃ c, RoundsTo .binary32 (a * b) c ∧
      IsNumber .binary32 (s * s') c (UnpackedFloat.mul .binary32 x.toModel.unpack y.toModel.unpack) by
    obtain ⟨c, hc, hu⟩ := hnumber
    exact ⟨c, hc, stores_of_isNumber hu⟩
  unfold IsSingle at hx hy
  generalize x.toModel.unpack = u at hx
  generalize y.toModel.unpack = u' at hy
  cases hx with
  | zero hv =>
    rw [hv, zero_mul]
    cases hy with
    | zero _ | finite _ _ _ => exact ⟨0, roundsTo_zero _, .zero rfl⟩
  | @finite m e hpos hcanonical hv =>
    cases hy with
    | zero hv' =>
      rw [hv', mul_zero]
      exact ⟨0, roundsTo_zero _, .zero rfl⟩
    | @finite m' e' hpos' hcanonical' hv' =>
      have hvalue : (a * b) / 2 ^ (e + e') = (m * m' : ℕ) := by
        rw [hv, hv', div_eq_iff (two_zpow_pos _).ne', two_zpow_add]
        push_cast
        ring
      refine (rounds_roundWithAccuracy (s * s') (Nat.mul_pos hpos hpos') ?_
        (exponent_mul_le hpos hpos' hcanonical hcanonical')).exists_roundsTo
      rw [hvalue]
      exact represents_exact _

/-- When both squares are finite, so is the product. -/
theorem isFinite_mul (hx : x.isFinite) (hy : y.isFinite) (hxx : (x * x).isFinite) (hyy : (y * y).isFinite) :
    (x * y).isFinite := by
  obtain ⟨s, a, hx⟩ := exists_isSingle hx
  obtain ⟨s', b, hy⟩ := exists_isSingle hy
  obtain ⟨c, hc, hxy⟩ := hx.mul hy
  obtain ⟨c₁, hc₁, hsquare⟩ := hx.mul hx
  obtain ⟨c₂, hc₂, hsquare'⟩ := hy.mul hy
  rw [hxy.isFinite_iff]
  rw [hsquare.isFinite_iff] at hxx
  rw [hsquare'.isFinite_iff] at hyy
  -- The product is no larger than one of the squares.
  rcases le_total a b with hle | hle
  · exact lt_of_le_of_lt (hc.mono hc₂ (mul_le_mul_of_nonneg_right hle hy.nonneg)) hyy
  · exact lt_of_le_of_lt (hc.mono hc₁ (mul_le_mul_of_nonneg_left hle hx.nonneg)) hxx

end GroundedQA.Number
