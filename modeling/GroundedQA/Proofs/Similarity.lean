import GroundedQA.Proofs.Number.Nonnegative
import GroundedQA.Proofs.Number.SquareRoot
import GroundedQA.Similarity
/-!
# When a similarity is a number

The cosine similarity of two vectors of finite components is a number, unless a length is too large for binary32 and
the dot product is no finite number either (`isNaN_cosineSimilarity`): no sum of squares is negative, a finite sum has
only finite terms, and the product of two finite lengths is neither infinite nor zero.
-/

namespace GroundedQA

open Float.Model Float.Model.UnpackedFloat Number

/-- The lengths of two vectors are too large for binary32: neither is zero, one is infinite, and the dot product is
infinite or no number. -/
structure Overflows (a b : Embedding) : Prop where
  left_ne_zero : ¬magnitude a == 0
  right_ne_zero : ¬magnitude b == 0
  isInf : (magnitude a).isInf ∨ (magnitude b).isInf
  not_isFinite : ¬(dotProduct a b).isFinite

instance (a b : Embedding) : Decidable (Overflows a b) :=
  decidable_of_iff (¬magnitude a == 0 ∧ ¬magnitude b == 0 ∧ ((magnitude a).isInf ∨ (magnitude b).isInf) ∧
    ¬(dotProduct a b).isFinite)
    ⟨fun ⟨ha, hb, hinf, hdot⟩ => ⟨ha, hb, hinf, hdot⟩, fun ⟨ha, hb, hinf, hdot⟩ => ⟨ha, hb, hinf, hdot⟩⟩

/-- What a length may be: zero, the square root of a finite number, or infinite. -/
inductive IsLength (x : Float32) : Prop
  | zero {sign : Sign} (h : x.toModel.unpack = .zero sign) : IsLength x
  | root {c : ℚ} (h : IsSingle x .positive c) (hsize : IsRootSize c) : IsLength x
  | infinite (h : x.toModel.unpack = .infinity .positive) : IsLength x

variable {x y : Float32}

/-! ## Operations on lengths -/

theorem beq_zero_iff : x == 0 ↔ ∃ sign, x.toModel.unpack = .zero sign := by
  have hbeq : (x == 0) = UnpackedFloat.beq x.toModel.unpack (.zero .positive) := rfl
  rw [hbeq]
  cases x.toModel.unpack with
  | notANumber => simp [UnpackedFloat.beq, UnpackedFloat.compare]
  | zero s => simp [UnpackedFloat.beq, UnpackedFloat.compare]
  | infinity s | finite s m e hpos => cases s <;> simp [UnpackedFloat.beq, UnpackedFloat.compare]

theorem isLength_sqrt (h : IsNonneg x.toModel.unpack) : IsLength x.sqrt := by
  have hsqrt : x.sqrt.toModel.unpack =
      (Float32.Model.pack (UnpackedFloat.sqrt .binary32 x.toModel.unpack)).unpack := rfl
  have hcanonical : IsCanonicalBinary32 x.toModel.unpack := isCanonicalBinary32_unpack _
  cases hx : x.toModel.unpack with
  | notANumber =>
    rw [hx] at h
    cases h
  | zero s =>
    rw [hx] at hsqrt
    exact .zero (hsqrt.trans (unpack_pack_zero s))
  | infinity s =>
    rw [hx] at h hsqrt
    cases h
    exact .infinite (hsqrt.trans (unpack_pack_infinity .positive))
  | finite s m e hpos =>
    rw [hx] at h hcanonical
    cases h
    have hsingle : IsSingle x .positive (m * 2 ^ e) := by
      unfold IsSingle
      rw [hx]
      exact .finite hpos hcanonical.1 rfl
    obtain ⟨c, hc, hsize⟩ := hsingle.sqrt (mul_pos (by exact_mod_cast hpos) (two_zpow_pos e))
    exact .root hc hsize

theorem isFinite_of_sqrt (h : IsNonneg x.toModel.unpack) (hfinite : x.sqrt.isFinite) : x.isFinite := by
  have hsqrt : (UnpackedFloat.sqrt .binary32 x.toModel.unpack).isFinite := isFinite_of_pack hfinite
  rw [isFinite_eq]
  generalize x.toModel.unpack = u at h hsqrt
  cases h with
  | zero _ | finite _ => rfl
  | infinity => cases hsqrt

/-- A length that is neither zero nor infinite. -/
theorem IsLength.exists_root (h : IsLength x) (h0 : ¬x == 0) (hinf : ¬x.isInf) :
    ∃ c, IsSingle x .positive c ∧ IsRootSize c := by
  cases h with
  | zero h => exact absurd (beq_zero_iff.2 ⟨_, h⟩) h0
  | root h hsize => exact ⟨_, h, hsize⟩
  | infinite h =>
    rw [isInf_eq, h] at hinf
    exact absurd rfl hinf

/-- An infinite length times one that is not zero is infinite. -/
theorem unpack_mul_infinite (hx : IsLength x) (hy : IsLength y) (hx0 : ¬x == 0) (hy0 : ¬y == 0)
    (hinf : x.isInf ∨ y.isInf) : (x * y).toModel.unpack = .infinity .positive := by
  have hmul : (x * y).toModel.unpack =
      (Float32.Model.pack (UnpackedFloat.mul .binary32 x.toModel.unpack y.toModel.unpack)).unpack := rfl
  rw [hmul]
  cases hx with
  | zero h => exact absurd (beq_zero_iff.2 ⟨_, h⟩) hx0
  | root h hsize =>
    cases hy with
    | zero h' => exact absurd (beq_zero_iff.2 ⟨_, h'⟩) hy0
    | root h' hsize' => exact (hinf.elim h.not_isInf h'.not_isInf).elim
    | infinite h' =>
      obtain ⟨m, e, hpos, h⟩ := h.exists_finite hsize.pos
      rw [h, h']
      exact unpack_pack_infinity .positive
  | infinite h =>
    cases hy with
    | zero h' => exact absurd (beq_zero_iff.2 ⟨_, h'⟩) hy0
    | root h' hsize' =>
      obtain ⟨m, e, hpos, h'⟩ := h'.exists_finite hsize'.pos
      rw [h, h']
      exact unpack_pack_infinity .positive
    | infinite h' =>
      rw [h, h']
      exact unpack_pack_infinity .positive

/-! ## Quotients -/

theorem isNaN_div_finite (hx : x.isNaN = false) {s : Sign} {m : ℕ} {e : ℤ} {hpos : 0 < m}
    (hy : y.toModel.unpack = .finite s m e hpos) : (x / y).isNaN = false := by
  show (Float32.ofModel (.pack (UnpackedFloat.div .binary32 x.toModel.unpack y.toModel.unpack))).isNaN = false
  rw [isNaN_ofModel_pack, hy]
  rw [isNaN_eq] at hx
  cases hu : x.toModel.unpack with
  | notANumber =>
    rw [hu] at hx
    cases hx
  | infinity _ | zero _ => rfl
  | finite s' m' e' hpos' =>
    rw [isNaN_eq_isNone]
    exact congrArg Option.isNone (sign?_roundWithAccuracy ..)

theorem isNaN_div_infinity {s : Sign} (hy : y.toModel.unpack = .infinity s) : (x / y).isNaN = !x.isFinite := by
  show (Float32.ofModel (.pack (UnpackedFloat.div .binary32 x.toModel.unpack y.toModel.unpack))).isNaN = _
  rw [isNaN_ofModel_pack, hy, isFinite_eq]
  cases x.toModel.unpack <;> rfl

/-! ## Vectors of finite components -/

variable {a b : Embedding}

theorem isNaN_of_isFinite (h : x.isFinite) : x.isNaN = false := by
  rw [isFinite_eq] at h
  rw [isNaN_eq]
  cases hx : x.toModel.unpack with
  | zero _ | finite _ _ _ _ => rfl
  | notANumber | infinity _ =>
    rw [hx] at h
    cases h

theorem isNonneg_squares (h : ∀ x ∈ a, x.isFinite) : ∀ y ∈ a.map fun x => x * x, IsNonneg y.toModel.unpack := by
  intro y hy
  obtain ⟨x, hx, rfl⟩ := List.mem_map.1 hy
  exact isNonneg_mul_self (isNaN_of_isFinite (h x hx))

theorem isLength_magnitude (h : ∀ x ∈ a, x.isFinite) : IsLength (magnitude a) :=
  isLength_sqrt (isNonneg_sum (isNonneg_squares h))

/-- A finite length has only finite squares under it. -/
theorem isFinite_squares (h : ∀ x ∈ a, x.isFinite) (hlength : (magnitude a).isFinite) :
    ∀ x ∈ a, (x * x).isFinite := by
  have hsum := isFinite_of_sqrt (isNonneg_sum (isNonneg_squares h)) hlength
  intro x hx
  exact isFinite_of_sum hsum _ (List.mem_map.2 ⟨x, hx, rfl⟩)

/-- With finite lengths the dot product is a number. -/
theorem isNaN_dotProduct (ha : ∀ x ∈ a, x.isFinite) (hb : ∀ x ∈ b, x.isFinite) (hla : (magnitude a).isFinite)
    (hlb : (magnitude b).isFinite) : (dotProduct a b).isNaN = false := by
  refine isNaN_sum fun z hz => ?_
  rw [← List.map_uncurry_zip_eq_zipWith] at hz
  obtain ⟨⟨x, y⟩, hxy, rfl⟩ := List.mem_map.1 hz
  obtain ⟨hx, hy⟩ := List.of_mem_zip hxy
  exact isFinite_mul (ha x hx) (hb y hy) (isFinite_squares ha hla x hx) (isFinite_squares hb hlb y hy)

/-- The similarity of two vectors of finite components is a number unless they overflow. -/
theorem isNaN_cosineSimilarity (ha : ∀ x ∈ a, x.isFinite) (hb : ∀ x ∈ b, x.isFinite) :
    (cosineSimilarity a b).isNaN ↔ Overflows a b := by
  have hla := isLength_magnitude ha
  have hlb := isLength_magnitude hb
  unfold cosineSimilarity
  by_cases hzero : magnitude a == 0 || magnitude b == 0
  · rw [if_pos hzero]
    refine iff_of_false (by decide) fun h => ?_
    exact (Bool.or_eq_true_iff.1 hzero).elim h.left_ne_zero h.right_ne_zero
  rw [if_neg hzero]
  obtain ⟨ha0, hb0⟩ : ¬magnitude a == 0 ∧ ¬magnitude b == 0 := by
    rwa [Bool.or_eq_true, not_or] at hzero
  by_cases hinf : (magnitude a).isInf ∨ (magnitude b).isInf
  · have hlengths := unpack_mul_infinite hla hlb ha0 hb0 hinf
    rw [isNaN_div_infinity hlengths]
    constructor
    · intro h
      exact ⟨ha0, hb0, hinf, by simpa using h⟩
    · intro h
      simpa using h.not_isFinite
  · refine iff_of_false ?_ fun h => hinf h.isInf
    obtain ⟨c, hc, hsize⟩ := hla.exists_root ha0 fun h => hinf (.inl h)
    obtain ⟨c', hc', hsize'⟩ := hlb.exists_root hb0 fun h => hinf (.inr h)
    obtain ⟨d, hd, hpos⟩ := hc.mul_roots hc' hsize hsize'
    obtain ⟨m, e, hm, hlengths⟩ := hd.exists_finite hpos
    rw [isNaN_div_finite (isNaN_dotProduct ha hb hc.isFinite hc'.isFinite) hlengths]
    exact Bool.false_ne_true

end GroundedQA
