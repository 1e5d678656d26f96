import GroundedQA.Number.Power
/-!
# Binary floating point

Scores are IEEE binary64 and vector components binary32, `Float` and `Float32` here, whose
operations round once and to nearest even. This module adds what arithmetic between the two formats
needs: widening, which is exact, and narrowing, which rounds once; and the sum that adds from left
to right, beginning with minus zero, the one number that changes nothing it is added to.
-/

namespace GroundedQA.Number

open Float.Model

/-- The same value in another format, rounded to nearest even where it does not fit. -/
def reround (target : Format) : UnpackedFloat → UnpackedFloat
  | .finite sign mantissa exponent _ => UnpackedFloat.round target sign mantissa exponent
  | x => x

/-- The binary64 number of the same value. -/
def widen (x : Float32) : Float :=
  .ofModel (.pack (reround .binary64 x.toModel.unpack))

/-- The binary32 number nearest to `x`; infinite when `x` is beyond their range. -/
def narrow (x : Float) : Float32 :=
  .ofModel (.pack (reround .binary32 x.toModel.unpack))

/-- The sum from left to right; the empty sum is minus zero. -/
def sum {α : Type} [Neg α] [OfNat α 0] [Add α] (xs : List α) : α :=
  xs.foldl (· + ·) (-0)

/-- A binary number as its sign, and `mantissa * 2 ^ exponent`, for a finite one. -/
structure Dyadic where
  negative : Bool
  mantissa : Nat
  exponent : Int
  /-- The next smaller number is only half as far away as the next larger one. -/
  closeBelow : Bool
deriving DecidableEq, Repr

/-- The parts of a finite number that is no zero; `smallest` is the least exponent of the format. -/
def dyadic? (smallest : Int) (bits : Nat) : UnpackedFloat → Option Dyadic
  | .finite sign mantissa exponent _ =>
    some ⟨sign == .negative, mantissa, exponent, mantissa = 2 ^ bits && smallest < exponent⟩
  | .zero sign => some ⟨sign == .negative, 0, 0, false⟩
  | _ => none

/-- A finite binary64 number as a dyadic one. -/
def dyadic64? (x : Float) : Option Dyadic :=
  dyadic? (-1074) 52 x.toModel.unpack

/-- A finite binary32 number as a dyadic one. -/
def dyadic32? (x : Float32) : Option Dyadic :=
  dyadic? (-149) 23 x.toModel.unpack

example : widen (Float32.ofBits 0x3dcccccd) = Float.ofBits 0x3fb99999a0000000 := by decide +kernel
example : narrow (Float.ofBits 0x7fefffffffffffff) = Float32.ofBits 0x7f800000 := by decide +kernel

end GroundedQA.Number
