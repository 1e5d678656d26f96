import GroundedQA.Number.Binary
import GroundedQA.Number.Digits
/-!
# Four decimal places

A score is shown with four places after the point: the exact binary value rounded to the nearest
ten-thousandth, a tie going to the even one. The sign is kept even when nothing but zeros is shown.
-/

namespace GroundedQA.Number

/-- The whole number nearest to `num / den`, a tie going to the even one. -/
def roundDiv (num den : Nat) : Nat :=
  let down := num / den
  let twice := 2 * (num % den)
  if den < twice ∨ (den = twice ∧ down % 2 = 1) then down + 1 else down

/-- The number of ten-thousandths nearest to the size of `x`. -/
def Dyadic.tenThousandths (x : Dyadic) : Nat :=
  roundDiv (x.mantissa * 10000 * 2 ^ x.exponent.toNat) (2 ^ (-x.exponent).toNat)

/-- `n` ten-thousandths with four places. -/
def renderTenThousandths (n : Nat) : String :=
  let tail := decimal (n % 10000)
  decimal (n / 10000) ++ "." ++ .ofList (List.replicate (4 - tail.length) '0') ++ tail

def fourPlaces (x : Float) : String :=
  match dyadic64? x with
  | some d => (if d.negative then "-" else "") ++ renderTenThousandths d.tenThousandths
  | none => if x.isNaN then "NaN" else if x < 0 then "-inf" else "inf"

end GroundedQA.Number
