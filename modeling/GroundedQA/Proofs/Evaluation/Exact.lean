import GroundedQA.Evaluation.Result
import Mathlib.Algebra.BigOperators.Group.List.Basic
import Mathlib.Algebra.Order.BigOperators.Group.List
import Mathlib.Algebra.Order.Field.Basic
import Mathlib.Data.Rat.Cast.Order
/-!
# Exact numbers

Scores read as numbers without rounding: rational numbers, and the values that are no finite number, which
behave as in binary arithmetic. The definitions of the program run over these as they do over binary numbers.
What counts of an outcome is then a rational number within `0` and `1` (`countedScore_eq`), a sum of such
numbers is their sum (`sum_finite`), and so a mean is within `0` and `1` too (`mean_mem_unit`).
-/

namespace GroundedQA

/-- A rational number, or what stands for a value that is no finite number. There is one zero. -/
inductive Exact where
  | finite (value : ℚ)
  | infinite (negative : Bool)
  | nan
deriving DecidableEq

namespace Exact

def neg : Exact → Exact
  | finite x => finite (-x)
  | infinite negative => infinite !negative
  | nan => nan

def add : Exact → Exact → Exact
  | finite x, finite y => finite (x + y)
  | infinite a, infinite b => if a = b then infinite a else nan
  | infinite a, finite _ => infinite a
  | finite _, infinite b => infinite b
  | nan, _ => nan
  | _, nan => nan

/-- The quotient; over zero it is infinite, and no number for zero over zero. -/
def div : Exact → Exact → Exact
  | finite x, finite y => if y ≠ 0 then finite (x / y) else if x = 0 then nan else infinite (x < 0)
  | infinite a, finite y => infinite (a ^^ y < 0)
  | finite _, infinite _ => finite 0
  | _, _ => nan

/-- Whether a number is less than another; none is less or greater than what is no number. -/
def less : Exact → Exact → Bool
  | finite x, finite y => x < y
  | infinite a, finite _ => a
  | finite _, infinite b => !b
  | infinite a, infinite b => a && !b
  | nan, _ => false
  | _, nan => false

/-- The value of a binary number. -/
def ofBinary : Float.Model.UnpackedFloat → Exact
  | .finite sign mantissa exponent _ =>
    let size : ℚ := mantissa * 2 ^ exponent
    finite (if sign == .negative then -size else size)
  | .zero _ => finite 0
  | .infinity sign => infinite (sign == .negative)
  | .notANumber => nan

instance : Scalar Exact where
  add := add
  div := div
  neg := neg
  lt x y := less x y
  ofNat n := finite n
  undefined := nan
  isFinite
    | finite _ => true
    | _ => false
  ofSimilarity x := ofBinary x.toModel.unpack
  decidableLt _ _ := inferInstanceAs (Decidable (_ = true))

/-! ## Finite numbers -/

@[simp] theorem finite_add (x y : ℚ) : finite x + finite y = finite (x + y) := rfl

@[simp] theorem finite_lt {x y : ℚ} : finite x < finite y ↔ x < y :=
  decide_eq_true_iff

@[simp] theorem zero_eq : (0 : Exact) = finite 0 := rfl

@[simp] theorem one_eq : (1 : Exact) = finite 1 := rfl

theorem finite_div (x : ℚ) {y : ℚ} (hy : y ≠ 0) : finite x / finite y = finite (x / y) :=
  if_pos hy

theorem clamp_finite (x : ℚ) : Scalar.clamp (finite x) = finite (max 0 (min x 1)) := by
  simp only [Scalar.clamp, zero_eq, one_eq, finite_lt]
  split
  · next hneg => rw [max_eq_left (min_le_of_left_le hneg.le)]
  · next hneg =>
    split
    · next hlarge => rw [min_eq_right hlarge.le, max_eq_right zero_le_one]
    · next hlarge => rw [min_eq_left (not_lt.1 hlarge), max_eq_right (not_lt.1 hneg)]

theorem foldl_add_finite (x : ℚ) (xs : List ℚ) : (xs.map finite).foldl (· + ·) (finite x) = finite (x + xs.sum) := by
  induction xs generalizing x with
  | nil => simp
  | cons y ys ih => simp [ih, add_assoc]

/-- Without rounding the order of summation does not matter. -/
theorem sum_finite (xs : List ℚ) : Number.sum (xs.map finite) = finite xs.sum := by
  have h := foldl_add_finite (-0) xs
  rwa [neg_zero, zero_add] at h

/-! ## Scores -/

/-- The number that an outcome of a metric counts as: `0` for a failure or a value that is no finite number,
otherwise the nearest number within `0` and `1`. -/
def counted : Except EvaluationError Exact → ℚ
  | .ok (finite x) => max 0 (min x 1)
  | _ => 0

theorem countedScore_eq (outcome : Except EvaluationError Exact) : countedScore outcome = finite (counted outcome) := by
  cases outcome with
  | error _ => rfl
  | ok score =>
    cases score with
    | finite x => exact clamp_finite x
    | infinite _ => rfl
    | nan => rfl

theorem counted_nonneg (outcome : Except EvaluationError Exact) : 0 ≤ counted outcome := by
  unfold counted
  split
  · exact le_max_left ..
  · exact le_rfl

theorem counted_le_one (outcome : Except EvaluationError Exact) : counted outcome ≤ 1 := by
  unfold counted
  split
  · exact max_le zero_le_one (min_le_right ..)
  · exact zero_le_one

/-- The mean of numbers within `0` and `1` is within them. -/
theorem mean_mem_unit {xs : List ℚ} (h : ∀ x ∈ xs, 0 ≤ x ∧ x ≤ 1) :
    0 ≤ xs.sum / xs.length ∧ xs.sum / xs.length ≤ 1 := by
  have hsum : xs.sum ≤ xs.length := by
    simpa using List.sum_le_card_nsmul xs 1 fun x hx => (h x hx).2
  exact ⟨div_nonneg (List.sum_nonneg fun x hx => (h x hx).1) xs.length.cast_nonneg,
    div_le_one_of_le₀ hsum xs.length.cast_nonneg⟩

end Exact

end GroundedQA
