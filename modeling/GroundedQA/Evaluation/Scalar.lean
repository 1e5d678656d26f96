import GroundedQA.Number.Binary
/-!
# Scores

What the metrics and their means compute needs of its numbers is a `Scalar`: sums, quotients, an
order, and values that are no finite numbers. The scores of the program are binary64 numbers; the
same definitions read over exact numbers say what is computed but for rounding.
-/

namespace GroundedQA

/-- The numbers that scores are made of. -/
class Scalar (α : Type) extends Add α, Div α, Neg α, LT α where
  ofNat : Nat → α
  /-- What stands for a score that does not exist. -/
  undefined : α
  isFinite : α → Bool
  /-- A similarity as a score, with its exact value. -/
  ofSimilarity : Float32 → α
  decidableLt : DecidableLT α

namespace Scalar

variable {α : Type} [Scalar α]

instance (priority := low) (n : Nat) : OfNat α n := ⟨Scalar.ofNat n⟩

instance (priority := low) : DecidableLT α := Scalar.decidableLt

/-- Within the bounds `0` and `1`: a smaller number becomes `0`, a larger one `1`. -/
def clamp (x : α) : α :=
  if x < 0 then 0 else if 1 < x then 1 else x

/-- The larger of a number and `0`, which also stands for a number that is not greater. -/
def atLeastZero (x : α) : α :=
  if 0 < x then x else 0

/-- The arithmetic mean, summed up from left to right. -/
def mean (xs : List α) : α :=
  Number.sum xs / ofNat xs.length

def fraction (count total : Nat) : α :=
  ofNat count / ofNat total

end Scalar

instance : Scalar Float where
  ofNat := Float.ofNat
  undefined := 0 / 0
  isFinite := Float.isFinite
  ofSimilarity := Number.widen
  decidableLt := inferInstance

end GroundedQA
