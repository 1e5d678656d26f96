import GroundedQA.Number.Binary
import GroundedQA.Number.Numeral
/-!
# The shortest decimal of a binary number

A finite binary number is written with the fewest digits that no other number of its format is
nearer to, and among decimals of that length the nearest. The reals that round to `m * 2 ^ e` are
an interval around it, which holds its ends when `m` is even. Powers of ten are tried from large to
small: the first grid with a point in the interval gives the fewest digits, and one of the value's
two neighbours on that grid is then such a point.

How a decimal is laid out (positional or with an exponent) is a `Layout`.
-/

namespace GroundedQA.Number

/-- The decimal `digits * 10 ^ exponent`. -/
structure Decimal where
  digits : Nat
  exponent : Int
deriving DecidableEq, Repr

/-- `2 ^ (exponent - 2)` and `10 ^ grid` as whole multiples of one common unit. -/
def commonUnit (exponent grid : Int) : Nat × Nat :=
  (2 ^ (exponent - 2).toNat * 10 ^ (-grid).toNat, 2 ^ (2 - exponent).toNat * 10 ^ grid.toNat)

/-- The point of the grid of multiples of `10 ^ grid` that stands for `x`: the nearer of its two
neighbours, if that rounds to `x`, else the other one. -/
def Dyadic.onGrid? (x : Dyadic) (grid : Int) : Option Decimal :=
  let (quarter, point) := commonUnit x.exponent grid
  let value := 4 * x.mantissa * quarter
  let low := value - (if x.closeBelow then 1 else 2) * quarter
  let high := value + 2 * quarter
  let stands (d : Nat) : Bool :=
    if x.mantissa % 2 = 0 then low ≤ d * point && d * point ≤ high
    else low < d * point && d * point < high
  let below := value / point
  let remainder := value % point
  let nearAbove := point < 2 * remainder || (point = 2 * remainder && below % 2 = 1)
  let (first, second) := if nearAbove then (below + 1, below) else (below, below + 1)
  if first ≠ 0 && stands first then some ⟨first, grid⟩
  else if second ≠ 0 && stands second then some ⟨second, grid⟩
  else none

/-- Tries ever finer grids; the first argument bounds how many. -/
def Dyadic.onFirstGrid (x : Dyadic) : Nat → Int → Decimal
  | 0, grid => ⟨0, grid⟩
  | tries + 1, grid => (x.onGrid? grid).getD (x.onFirstGrid tries (grid - 1))

/-- The decimal with the fewest digits that stands for `x` alone. -/
def Dyadic.shortest (x : Dyadic) : Decimal :=
  if x.mantissa = 0 then ⟨0, 0⟩
  else
    let bits : Int := x.mantissa.log2 + 1 + x.exponent
    x.onFirstGrid 24 (bits * 30103 / 100000 + 1)

/-- How a decimal of `k` digits before the point is laid out: positional when `k` is above
`smallest` and at most `largest`, else with one digit before the point and an exponent. -/
structure Layout where
  largest : Int
  smallest : Int

/-- Binary32 numbers are positional from `1e-6` up to thirteen digits before the point. -/
def Layout.binary32 : Layout := ⟨13, -6⟩

/-- Binary64 numbers are positional from `1e-5` up to sixteen digits before the point. -/
def Layout.binary64 : Layout := ⟨16, -5⟩

/-- The decimal with a sign, as it is written: always with a point or an exponent. -/
def Layout.numeral (layout : Layout) (negative : Bool) (x : Decimal) : Numeral :=
  let ds := Number.digits x.digits
  let before : Int := ds.length + x.exponent
  if 0 ≤ x.exponent ∧ before ≤ layout.largest then
    ⟨negative, x.digits * 10 ^ x.exponent.toNat, [0], none⟩
  else if 0 < before ∧ before ≤ layout.largest then
    ⟨negative, ofDigits (ds.take before.toNat), ds.drop before.toNat, none⟩
  else if layout.smallest < before ∧ before ≤ 0 then
    ⟨negative, 0, List.replicate (-before).toNat 0 ++ ds, none⟩
  else
    ⟨negative, ofDigits (ds.take 1), ds.drop 1, some (before - 1)⟩

/-- The numeral of a binary32 number, if it is finite. -/
def numeral32? (x : Float32) : Option Numeral :=
  (dyadic32? x).map fun d => Layout.binary32.numeral d.negative d.shortest

/-- The numeral of a binary64 number, if it is finite. -/
def numeral64? (x : Float) : Option Numeral :=
  (dyadic64? x).map fun d => Layout.binary64.numeral d.negative d.shortest

end GroundedQA.Number
