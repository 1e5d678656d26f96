import GroundedQA.Number.Digits
import GroundedQA.Number.Binary
/-!
# Numerals

A numeral is a decimal number as it is written: an optional minus sign, a whole part without
leading zeros, and perhaps a fraction and an exponent. `Numeral.render` writes one, `Numeral.lex?`
takes one off the start of a text.

Reading a numeral as a binary number goes in fixed steps, each of which rounds once. The digits form
a significand, of which as many are taken as stay below `2 ^ 64`; the rest only count as powers of
ten. The significand is rounded to binary64, then multiplied or divided by the power of ten, itself
rounded to binary64; powers below `10 ^ -308` are divided off `10 ^ 308` at a time. A number beyond
the range of binary64 has no value.
-/

namespace GroundedQA.Number

/-- A decimal number as it is written. -/
structure Numeral where
  negative : Bool
  whole : Nat
  /-- The digits after the point; with none there is no point. -/
  fraction : List Digit
  exponent : Option Int
deriving DecidableEq, Repr

namespace Numeral

/-! ## Text -/

def renderExponent : Option Int → List Char
  | none => []
  | some (.ofNat n) => 'e' :: (digits n).map Digit.toChar
  | some (.negSucc n) => 'e' :: '-' :: (digits (n + 1)).map Digit.toChar

def render (n : Numeral) : List Char :=
  (if n.negative then ['-'] else []) ++ (digits n.whole).map Digit.toChar ++
    (if n.fraction.isEmpty then [] else '.' :: n.fraction.map Digit.toChar) ++ renderExponent n.exponent

/-- An exponent at the start of a text, after its letter: a sign or none, then digits. -/
def lexExponent? (cs : List Char) : Option (Int × List Char) :=
  let (negative, cs) := match cs with
    | '-' :: cs => (true, cs)
    | '+' :: cs => (false, cs)
    | cs => (false, cs)
  match takeDigits cs with
  | ([], _) => none
  | (ds, rest) => some (if negative then -(ofDigits ds : Int) else ofDigits ds, rest)

/-- The sign at the start of a text. -/
def lexSign : List Char → Bool × List Char
  | '-' :: cs => (true, cs)
  | cs => (false, cs)

/-- The whole part at the start of a text: digits, and a leading zero only when it is all. -/
def lexWhole? (cs : List Char) : Option (List Digit × List Char) :=
  match takeDigits cs with
  | ([], _) => none
  | (d :: ds, rest) => if d = 0 ∧ ds ≠ [] then none else some (d :: ds, rest)

/-- The fraction at the start of a text: nothing, or a point and digits. -/
def lexFraction? : List Char → Option (List Digit × List Char)
  | '.' :: cs =>
    match takeDigits cs with
    | ([], _) => none
    | (ds, rest) => some (ds, rest)
  | cs => some ([], cs)

/-- The exponent at the start of a text: nothing, or the letter in either case and a number. -/
def lexPower? : List Char → Option (Option Int × List Char)
  | 'e' :: cs => (lexExponent? cs).map fun (e, rest) => (some e, rest)
  | 'E' :: cs => (lexExponent? cs).map fun (e, rest) => (some e, rest)
  | cs => some (none, cs)

/-- The numeral that a text begins with, and what follows it. -/
def lex? (cs : List Char) : Option (Numeral × List Char) := do
  let (negative, cs) := lexSign cs
  let (whole, cs) ← lexWhole? cs
  let (fraction, cs) ← lexFraction? cs
  let (exponent, cs) ← lexPower? cs
  return (⟨negative, ofDigits whole, fraction, exponent⟩, cs)

/-! ## Whole numbers -/

/-- Written without a point and without an exponent. -/
def isInteger (n : Numeral) : Bool :=
  n.fraction.isEmpty && n.exponent.isNone

/-- The number of a plain numeral without a sign, if it is below `bound`. -/
def toNat? (bound : Nat) (n : Numeral) : Option Nat :=
  if !n.negative && n.isInteger && n.whole < bound then some n.whole else none

/-! ## Binary numbers -/

/-- A significand and the power of ten that it counts. -/
structure Significand where
  value : Nat
  exponent : Int
deriving DecidableEq, Repr

/-- Leaves out the last digits of `n`, as few as bring it below `2 ^ 64`, and counts them onto
`exponent`. A stride is so short that `10 ^ stride` times `2 ^ 64` is at most `n`, or one digit. -/
def Significand.ofWhole (n exponent : Nat) : Significand :=
  if n < 2 ^ 64 then ⟨n, exponent⟩
  else
    let stride := max 1 ((n.log2 - 64) / 4)
    ofWhole (n / 10 ^ stride) (exponent + stride)
termination_by n
decreasing_by
  apply Nat.div_lt_self (by omega)
  exact Nat.one_lt_pow (by omega) (by omega)

/-- Takes the digits of the fraction up to the first that does not fit; that and the rest are left
out. -/
def Significand.takeFraction (s : Significand) : List Digit → Significand
  | [] => s
  | d :: ds =>
    if s.value * 10 + d.val < 2 ^ 64 then takeFraction ⟨s.value * 10 + d.val, s.exponent - 1⟩ ds
    else s

/-- The significand of a numeral, with the exponent that its digits and its own exponent make. -/
def significand (n : Numeral) : Significand :=
  let s := (Significand.ofWhole n.whole 0).takeFraction n.fraction
  ⟨s.value, s.exponent + n.exponent.getD 0⟩

/-- The binary64 number nearest to `10 ^ n`. -/
def powerOfTen (n : Nat) : Float :=
  OfScientific.ofScientific 1 false n

/-- Divides by `10 ^ 308` the given number of times, or until nothing is left. -/
def divideOff : Nat → Float → Float
  | 0, x => x
  | times + 1, x => if x == 0 then x else divideOff times (x / powerOfTen 308)

/-- `x * 10 ^ exponent`, unless that is beyond the range of binary64. -/
def scale? (x : Float) (exponent : Int) : Option Float :=
  if 308 < exponent then if x == 0 then some x else none
  else if 0 ≤ exponent then
    let y := x * powerOfTen exponent.toNat
    if y.isInf then none else some y
  else
    let n := (-exponent).toNat
    let times := (n - 1) / 308
    some (divideOff times x / powerOfTen (n - 308 * times))

/-- The binary64 number that a numeral is read as. -/
def toFloat? (n : Numeral) : Option Float :=
  let s := n.significand
  (scale? s.value.toUInt64.toFloat s.exponent).map fun x => if n.negative then -x else x

/-- The binary32 number that a numeral is read as: a plain integer of 64 bits is rounded once, any
other numeral is read as binary64 and then narrowed. -/
def toFloat32? (n : Numeral) : Option Float32 :=
  if n.isInteger && n.whole < (if n.negative then 2 ^ 63 + 1 else 2 ^ 64) then
    let x := n.whole.toUInt64.toFloat32
    some (if n.negative then -x else x)
  else n.toFloat?.map narrow

end Numeral

end GroundedQA.Number
