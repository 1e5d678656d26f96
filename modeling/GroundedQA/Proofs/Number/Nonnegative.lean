import GroundedQA.Proofs.Number.Single
/-!
# Sums without NaN

A sum of finite numbers may become infinite on the way, but never NaN (`isNaN_sum`). It is finite only if all of
its terms are (`isFinite_of_sum`), and not negative if none of them is (`isNonneg_sum`).
-/

namespace GroundedQA.Number

open Float.Model Float.Model.UnpackedFloat

/-- A zero, or a number of positive sign; it may be infinite. -/
inductive IsNonneg : UnpackedFloat → Prop
  | zero (sign : Sign) : IsNonneg (.zero sign)
  | finite {m : ℕ} {e : ℤ} (hpos : 0 < m) : IsNonneg (.finite .positive m e hpos)
  | infinity : IsNonneg (.infinity .positive)

variable {x y : Float32} {u : UnpackedFloat}

theorem isNonneg_of_sign? (h : sign? u = some .positive) : IsNonneg u := by
  cases u with
  | notANumber => cases h
  | zero s => exact .zero s
  | infinity s =>
    cases h
    exact .infinity
  | finite s m e hpos =>
    cases h
    exact .finite hpos

theorem sign?_roundWithAccuracy (spec : Format) (sign : Sign) (m : ℕ) (e : ℤ) (accuracy : Accuracy) :
    sign? (roundWithAccuracy spec sign m e accuracy) = some sign := by
  unfold roundWithAccuracy
  dsimp only
  split <;> rfl

theorem sign?_round (spec : Format) (sign : Sign) (m : ℕ) (e : ℤ) :
    sign? (UnpackedFloat.round spec sign m e) = some sign :=
  sign?_roundWithAccuracy ..

theorem isNaN_eq_isNone (u : UnpackedFloat) : u.isNaN = (sign? u).isNone := by
  cases u <;> rfl

/-- Packing makes no number NaN. -/
theorem isNaN_ofModel_pack (u : UnpackedFloat) : (Float32.ofModel (.pack u)).isNaN = u.isNaN := by
  rw [isNaN_eq, isNaN_eq_isNone, isNaN_eq_isNone]
  exact congrArg Option.isNone (sign?_unpack_pack u)

/-- Nor does it make one finite. -/
theorem isFinite_of_pack (h : (Float32.Model.pack u).unpack.isFinite) : u.isFinite := by
  cases u with
  | notANumber => exact absurd h (by decide)
  | infinity s =>
    rw [unpack_pack_infinity] at h
    cases h
  | zero _ | finite _ _ _ _ => rfl

/-- What is not negative is not negative in its bits. -/
theorem IsNonneg.pack (h : IsNonneg u) : IsNonneg (Float32.Model.pack u).unpack := by
  cases h with
  | zero s =>
    rw [unpack_pack_zero]
    exact .zero s
  | finite hpos => exact isNonneg_of_sign? (sign?_unpack_pack _)
  | infinity => exact isNonneg_of_sign? (sign?_unpack_pack _)

/-- A square is not negative. -/
theorem isNonneg_mul_self (h : x.isNaN = false) : IsNonneg (x * x).toModel.unpack := by
  have hsign (s : Sign) : s * s = .positive := by cases s <;> rfl
  suffices hsquare : sign? (UnpackedFloat.mul .binary32 x.toModel.unpack x.toModel.unpack) = some .positive from
    (isNonneg_of_sign? hsquare).pack
  rw [isNaN_eq] at h
  cases hx : x.toModel.unpack with
  | notANumber =>
    rw [hx] at h
    cases h
  | zero s | infinity s => exact congrArg some (hsign s)
  | finite s m e hpos => exact (sign?_roundWithAccuracy ..).trans (congrArg some (hsign s))

/-! ## One addition -/

theorem isNaN_normalize (spec : Format) (m e : ℤ) (zeroSign : Sign) :
    (UnpackedFloat.normalize spec m e zeroSign).isNaN = false := by
  unfold UnpackedFloat.normalize
  split
  · rw [isNaN_eq_isNone, sign?_round]
    rfl
  · rfl
  · rw [isNaN_eq_isNone, sign?_round]
    rfl

theorem isNonneg_normalize (spec : Format) {m : ℤ} (hm : 0 ≤ m) (e : ℤ) :
    IsNonneg (UnpackedFloat.normalize spec m e .positive) := by
  unfold UnpackedFloat.normalize
  split
  · next hlt => exact absurd (Int.compare_eq_lt.1 hlt) (Int.not_lt.2 hm)
  · exact .zero .positive
  · exact isNonneg_of_sign? (sign?_round ..)

/-- Adding a finite number does not lead to NaN. -/
theorem isNaN_add (hx : x.isNaN = false) (hy : y.isFinite) : (x + y).isNaN = false := by
  show (Float32.ofModel (.pack (UnpackedFloat.add .binary32 x.toModel.unpack y.toModel.unpack))).isNaN = false
  rw [isNaN_ofModel_pack]
  rw [isNaN_eq] at hx
  rw [isFinite_eq] at hy
  generalize x.toModel.unpack = u at hx
  generalize y.toModel.unpack = u' at hy
  cases u' with
  | notANumber | infinity s' => cases hy
  | zero s' =>
    cases u with
    | notANumber => cases hx
    | infinity s | finite s m e hpos => rfl
    | zero s => cases s <;> cases s' <;> rfl
  | finite s' m' e' hpos' =>
    cases u with
    | notANumber => cases hx
    | infinity s | zero s => rfl
    | finite s m e hpos => exact isNaN_normalize ..

theorem isNonneg_add (hx : IsNonneg x.toModel.unpack) (hy : IsNonneg y.toModel.unpack) :
    IsNonneg (x + y).toModel.unpack := by
  refine IsNonneg.pack (u := UnpackedFloat.add .binary32 x.toModel.unpack y.toModel.unpack) ?_
  generalize x.toModel.unpack = u at hx
  generalize y.toModel.unpack = u' at hy
  cases hx with
  | zero s =>
    cases hy with
    | zero s' => cases s <;> cases s' <;> exact .zero _
    | finite hpos => exact .finite hpos
    | infinity => exact .infinity
  | @finite m e hpos =>
    cases hy with
    | zero s' => exact .finite hpos
    | infinity => exact .infinity
    | @finite m' e' hpos' => exact isNonneg_normalize _ (Int.add_nonneg (Int.natCast_nonneg _) (Int.natCast_nonneg _)) _
  | infinity =>
    cases hy with
    | zero _ | finite _ | infinity => exact .infinity

/-- A sum is finite only if both numbers are. -/
theorem isFinite_of_add (h : (x + y).isFinite) : x.isFinite ∧ y.isFinite := by
  have hadd : (UnpackedFloat.add .binary32 x.toModel.unpack y.toModel.unpack).isFinite := isFinite_of_pack h
  rw [isFinite_eq, isFinite_eq]
  generalize x.toModel.unpack = u at hadd
  generalize y.toModel.unpack = u' at hadd
  cases u with
  | notANumber => cases hadd
  | infinity s =>
    cases u' with
    | infinity s' => cases s <;> cases s' <;> cases hadd
    | notANumber | zero _ | finite _ _ _ _ => cases hadd
  | zero s | finite s m e hpos =>
    cases u' with
    | notANumber | infinity s' => cases hadd
    | zero s' | finite s' m' e' hpos' => exact ⟨rfl, rfl⟩

/-! ## Sums -/

theorem unpack_neg_zero : (-0 : Float32).toModel.unpack = .zero .negative := by
  rfl

theorem isNaN_foldl {xs : List Float32} (h : ∀ y ∈ xs, y.isFinite) (hx : x.isNaN = false) :
    (xs.foldl (· + ·) x).isNaN = false := by
  induction xs generalizing x with
  | nil => exact hx
  | cons y xs ih =>
    obtain ⟨hy, hxs⟩ := List.forall_mem_cons.1 h
    exact ih hxs (isNaN_add hx hy)

/-- A sum of finite numbers is not NaN. -/
theorem isNaN_sum {xs : List Float32} (h : ∀ x ∈ xs, x.isFinite) : (sum xs).isNaN = false :=
  isNaN_foldl h rfl

theorem isNonneg_foldl {xs : List Float32} (h : ∀ y ∈ xs, IsNonneg y.toModel.unpack) (hx : IsNonneg x.toModel.unpack) :
    IsNonneg (xs.foldl (· + ·) x).toModel.unpack := by
  induction xs generalizing x with
  | nil => exact hx
  | cons y xs ih =>
    obtain ⟨hy, hxs⟩ := List.forall_mem_cons.1 h
    exact ih hxs (isNonneg_add hx hy)

theorem isNonneg_sum {xs : List Float32} (h : ∀ x ∈ xs, IsNonneg x.toModel.unpack) :
    IsNonneg (sum xs).toModel.unpack :=
  isNonneg_foldl h (unpack_neg_zero ▸ .zero .negative)

theorem isFinite_of_foldl {xs : List Float32} (h : (xs.foldl (· + ·) x).isFinite) :
    x.isFinite ∧ ∀ y ∈ xs, y.isFinite := by
  induction xs generalizing x with
  | nil => exact ⟨h, by simp⟩
  | cons y xs ih =>
    obtain ⟨hadd, hxs⟩ := ih h
    obtain ⟨hx, hy⟩ := isFinite_of_add hadd
    exact ⟨hx, List.forall_mem_cons.2 ⟨hy, hxs⟩⟩

/-- A sum is finite only if all of its terms are. -/
theorem isFinite_of_sum {xs : List Float32} (h : (sum xs).isFinite) : ∀ x ∈ xs, x.isFinite :=
  (isFinite_of_foldl h).2

end GroundedQA.Number
