import GroundedQA.Number.Power
import Mathlib.Data.Prod.Lex
import Mathlib.Order.Lattice
/-!
# The order of binary numbers

Numbers of either format that are not NaN are compared by a key, which has the sign and the kind of a number first, then
its exponent, then its mantissa (`lt_iff_sortKey`). So "not less" is a total preorder of them.
-/

namespace GroundedQA.Number

open Float.Model Float.Model.UnpackedFloat

/-- What a number is compared by: its class, and within a class the exponent and the mantissa. -/
def sortKey : UnpackedFloat → ℤ ×ₗ ℤ ×ₗ ℤ
  | .infinity .negative => toLex (-2, toLex (0, 0))
  | .finite .negative m e _ => toLex (-1, toLex (-e, -m))
  | .zero _ => toLex (0, toLex (0, 0))
  | .finite .positive m e _ => toLex (1, toLex (e, m))
  | .infinity .positive => toLex (2, toLex (0, 0))
  | .notANumber => toLex (0, toLex (0, 0))

theorem then_compare_eq_lt {e e' : ℤ} {m m' : ℕ} :
    (compare e e').then (compare m m') = .lt ↔ e < e' ∨ e = e' ∧ m < m' := by
  rw [Ordering.then_eq_lt, Int.compare_eq_lt, Int.compare_eq_eq, Nat.compare_eq_lt]

theorem then_compare_eq_gt {e e' : ℤ} {m m' : ℕ} :
    (compare e e').then (compare m m') = .gt ↔ e' < e ∨ e = e' ∧ m' < m := by
  rw [Ordering.then_eq_gt, Int.compare_eq_gt, Int.compare_eq_eq, Nat.compare_eq_gt]

theorem compare_sign_eq_lt {s s' : Sign} : compare s s' = .lt ↔ s = .negative ∧ s' = .positive := by
  cases s <;> cases s' <;> simp [compare]

theorem lt_iff_sortKey {a b : UnpackedFloat} (ha : a.isNaN = false) (hb : b.isNaN = false) :
    a.lt b ↔ sortKey a < sortKey b := by
  have hlt : a.lt b ↔ a.compare b = some .lt := by
    simp [UnpackedFloat.lt]
  rw [hlt]
  cases a with
  | notANumber => cases ha
  | infinity s | zero s | finite s m e hm =>
    cases b with
    | notANumber => cases hb
    | infinity s' | zero s' | finite s' m' e' hm' =>
      dsimp only [UnpackedFloat.compare]
      cases s <;> cases s' <;> dsimp only [sortKey] <;>
        simp [Prod.Lex.toLex_lt_toLex, compare_sign_eq_lt, then_compare_eq_lt, then_compare_eq_gt]

theorem swap_compare_sign (s s' : Sign) : (compare s s').swap = compare s' s := by
  cases s <;> cases s' <;> rfl

/-- A comparison is the same from both sides. -/
theorem swap_compare (a b : UnpackedFloat) : (a.compare b).map Ordering.swap = b.compare a := by
  cases a with
  | notANumber => cases b <;> rfl
  | infinity s | zero s | finite s m e hm =>
    cases b with
    | notANumber => rfl
    | infinity s' | zero s' | finite s' m' e' hm' =>
      dsimp only [UnpackedFloat.compare]
      cases s <;> cases s' <;>
        simp [swap_compare_sign, Ordering.swap_then, Int.compare_swap, Nat.compare_swap]

theorem isNaN_of_lt {a b : UnpackedFloat} (h : a.lt b) : a.isNaN = false ∧ b.isNaN = false := by
  cases a <;> cases b <;> first | exact ⟨rfl, rfl⟩ | cases h

theorem lt_asymm {a b : UnpackedFloat} (h : a.lt b) : ¬b.lt a := by
  obtain ⟨ha, hb⟩ := isNaN_of_lt h
  rw [lt_iff_sortKey ha hb] at h
  rw [lt_iff_sortKey hb ha]
  exact h.asymm

theorem exists_compare {a b : UnpackedFloat} (ha : a.isNaN = false) (hb : b.isNaN = false) :
    ∃ o, a.compare b = some o := by
  cases a with
  | notANumber => cases ha
  | infinity s | zero s | finite s m e hm =>
    cases b with
    | notANumber => cases hb
    | infinity s' | zero s' | finite s' m' e' hm' => cases s <;> cases s' <;> exact ⟨_, rfl⟩

theorem le_iff_not_lt {a b : UnpackedFloat} (ha : a.isNaN = false) (hb : b.isNaN = false) : a.le b ↔ ¬b.lt a := by
  obtain ⟨o, ho⟩ := exists_compare ha hb
  unfold UnpackedFloat.le UnpackedFloat.lt
  rw [← swap_compare a b, ho]
  cases o <;> decide

/-! ## Binary32 -/

variable {x y z : Float32}

theorem float32_lt_iff (hx : x.isNaN = false) (hy : y.isNaN = false) :
    x < y ↔ sortKey x.toModel.unpack < sortKey y.toModel.unpack :=
  decide_eq_true_iff.trans (lt_iff_sortKey hx hy)

theorem float32_lt_asymm (hx : x.isNaN = false) (hy : y.isNaN = false) (hxy : x < y) : ¬y < x := by
  rw [float32_lt_iff hx hy] at hxy
  rw [float32_lt_iff hy hx]
  exact hxy.asymm

theorem float32_not_lt_iff (hx : x.isNaN = false) (hy : y.isNaN = false) : ¬x < y ↔ y ≤ x := by
  have hle : y ≤ x ↔ y.toModel.unpack.le x.toModel.unpack := decide_eq_true_iff
  have hlt : x < y ↔ x.toModel.unpack.lt y.toModel.unpack := decide_eq_true_iff
  rw [hle, hlt, le_iff_not_lt hy hx]

theorem float32_not_lt_trans (hx : x.isNaN = false) (hy : y.isNaN = false) (hz : z.isNaN = false) (hxy : ¬x < y)
    (hyz : ¬y < z) : ¬x < z := by
  rw [float32_lt_iff hx hy, not_lt] at hxy
  rw [float32_lt_iff hy hz, not_lt] at hyz
  rw [float32_lt_iff hx hz, not_lt]
  exact hyz.trans hxy

theorem float32_not_lt_total (hx : x.isNaN = false) (hy : y.isNaN = false) : ¬x < y ∨ ¬y < x := by
  rw [float32_lt_iff hx hy, float32_lt_iff hy hx, not_lt, not_lt]
  exact le_total ..

/-! ## Binary64 -/

theorem float_isNaN_of_lt {x y : Float} (h : x < y) : x.isNaN = false ∧ y.isNaN = false :=
  isNaN_of_lt (decide_eq_true_iff.1 h)

theorem float_lt_asymm {x y : Float} (h : x < y) : ¬y < x :=
  fun h' => lt_asymm (decide_eq_true_iff.1 h) (decide_eq_true_iff.1 h')

end GroundedQA.Number
