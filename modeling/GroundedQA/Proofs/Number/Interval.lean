import GroundedQA.Number.Shortest
import GroundedQA.Proofs.Number.Rounding
import Mathlib.Tactic.FieldSimp
/-!
# The interval of a binary number

The numbers that round to `m * 2 ^ e` lie between two ends, half way to its neighbours, and the ends count
when `m` is even (`Dyadic.Stands`). The point that is picked on a grid stands for the number
(`onGrid?_spec`), a grid with no such point is coarse (`onGrid?_isSome`), so the shortest decimal of a
binary32 number stands for it and has few digits (`shortest_spec`).
-/

namespace GroundedQA.Number

/-- The size of a dyadic number. -/
def Dyadic.value (x : Dyadic) : ℚ :=
  x.mantissa * 2 ^ x.exponent

/-- The size of a decimal. -/
def Decimal.value (d : Decimal) : ℚ :=
  d.digits * 10 ^ d.exponent

/-- Half way to the next smaller number. -/
def Dyadic.low (x : Dyadic) : ℚ :=
  x.value - (if x.closeBelow then 1 else 2) * 2 ^ (x.exponent - 2)

/-- Half way to the next larger number. -/
def Dyadic.high (x : Dyadic) : ℚ :=
  x.value + 2 * 2 ^ (x.exponent - 2)

/-- `v` is in the interval of `x`. -/
def Dyadic.Stands (x : Dyadic) (v : ℚ) : Prop :=
  if x.mantissa % 2 = 0 then x.low ≤ v ∧ v ≤ x.high else x.low < v ∧ v < x.high

theorem Dyadic.Stands.bounds {x : Dyadic} {v : ℚ} (h : x.Stands v) : x.low ≤ v ∧ v ≤ x.high := by
  unfold Stands at h
  split at h
  · exact h
  · exact ⟨h.1.le, h.2.le⟩

theorem Dyadic.stands_of_lt {x : Dyadic} {v : ℚ} (hlow : x.low < v) (hhigh : v < x.high) : x.Stands v := by
  unfold Stands
  split
  · exact ⟨hlow.le, hhigh.le⟩
  · exact ⟨hlow, hhigh⟩

theorem Dyadic.value_eq (x : Dyadic) : x.value = 4 * x.mantissa * 2 ^ (x.exponent - 2) := by
  have hsplit : (2 : ℚ) ^ x.exponent = 2 ^ (x.exponent - 2) * 2 ^ (2 : ℤ) := by
    rw [← two_zpow_add, Int.sub_add_cancel]
  rw [value, hsplit]
  ring

/-- A quarter of the last place and a step of the grid are whole multiples of one unit. -/
theorem commonUnit_spec (exponent grid : ℤ) :
    ∃ u : ℚ, 0 < u ∧ (2 : ℚ) ^ (exponent - 2) = (commonUnit exponent grid).1 * u ∧
      (10 : ℚ) ^ grid = (commonUnit exponent grid).2 * u := by
  have hneg : -(exponent - 2) = 2 - exponent := neg_sub ..
  refine ⟨1 / (2 ^ (2 - exponent).toNat * 10 ^ (-grid).toNat), by positivity, ?_, ?_⟩
  · rw [zpow_eq_div two_ne_zero, hneg, commonUnit]
    push_cast
    field_simp
  · rw [zpow_eq_div (by norm_num), commonUnit]
    push_cast
    field_simp

/-! ## One grid -/

/-- Whether the `d`-th point of the grid stands for `x`. -/
def Dyadic.standsOn (x : Dyadic) (grid : ℤ) (d : ℕ) : Bool :=
  let (quarter, point) := commonUnit x.exponent grid
  let value := 4 * x.mantissa * quarter
  let low := value - (if x.closeBelow then 1 else 2) * quarter
  let high := value + 2 * quarter
  if x.mantissa % 2 = 0 then low ≤ d * point && d * point ≤ high else low < d * point && d * point < high

/-- The point of the grid that is not above `x`, and the next one. -/
def Dyadic.below (x : Dyadic) (grid : ℤ) : ℕ :=
  4 * x.mantissa * (commonUnit x.exponent grid).1 / (commonUnit x.exponent grid).2

/-- The nearer of the two neighbours is the upper one. -/
def Dyadic.nearAbove (x : Dyadic) (grid : ℤ) : Bool :=
  let (quarter, point) := commonUnit x.exponent grid
  let remainder := 4 * x.mantissa * quarter % point
  point < 2 * remainder || (point = 2 * remainder && x.below grid % 2 = 1)

def Dyadic.nearest (x : Dyadic) (grid : ℤ) : ℕ :=
  if x.nearAbove grid then x.below grid + 1 else x.below grid

def Dyadic.further (x : Dyadic) (grid : ℤ) : ℕ :=
  if x.nearAbove grid then x.below grid else x.below grid + 1

theorem onGrid?_eq (x : Dyadic) (grid : ℤ) :
    x.onGrid? grid =
      if x.nearest grid ≠ 0 && x.standsOn grid (x.nearest grid) then some ⟨x.nearest grid, grid⟩
      else if x.further grid ≠ 0 && x.standsOn grid (x.further grid) then some ⟨x.further grid, grid⟩
      else none := by
  have hpair : (if x.nearAbove grid then (x.below grid + 1, x.below grid) else (x.below grid, x.below grid + 1)) =
      (x.nearest grid, x.further grid) := by
    unfold Dyadic.nearest Dyadic.further
    split <;> rfl
  show (let (first, second) :=
      if x.nearAbove grid then (x.below grid + 1, x.below grid) else (x.below grid, x.below grid + 1)
    if first ≠ 0 && x.standsOn grid first then some (⟨first, grid⟩ : Decimal)
    else if second ≠ 0 && x.standsOn grid second then some ⟨second, grid⟩
    else none) = _
  rw [hpair]

variable {x : Dyadic} {grid : ℤ}

theorem standsOn_iff (hm : 0 < x.mantissa) (d : ℕ) : x.standsOn grid d ↔ x.Stands (d * 10 ^ grid) := by
  obtain ⟨u, hu, hquarter, hpoint⟩ := commonUnit_spec x.exponent grid
  have hle (a b : ℕ) : (a * u : ℚ) ≤ b * u ↔ a ≤ b := by rw [mul_le_mul_iff_left₀ hu, Nat.cast_le]
  have hlt (a b : ℕ) : (a * u : ℚ) < b * u ↔ a < b := by rw [mul_lt_mul_iff_left₀ hu, Nat.cast_lt]
  have hpoint' : (d * 10 ^ grid : ℚ) = (d * (commonUnit x.exponent grid).2 : ℕ) * u := by
    rw [hpoint, Nat.cast_mul, mul_assoc]
  have hhigh : x.high = (4 * x.mantissa * (commonUnit x.exponent grid).1 + 2 * (commonUnit x.exponent grid).1 : ℕ) * u := by
    rw [Dyadic.high, x.value_eq, hquarter]
    push_cast
    ring
  have hlow : x.low = (4 * x.mantissa * (commonUnit x.exponent grid).1 -
      (if x.closeBelow then 1 else 2) * (commonUnit x.exponent grid).1 : ℕ) * u := by
    have hfits : (if x.closeBelow then 1 else 2) ≤ 4 * x.mantissa := by split <;> omega
    rw [Dyadic.low, x.value_eq, hquarter, ← Nat.sub_mul, Nat.cast_mul, Nat.cast_sub hfits]
    push_cast
    ring
  unfold Dyadic.standsOn Dyadic.Stands
  rw [hpoint', hhigh, hlow]
  simp only [hle, hlt]
  split <;> simp

/-- The number is its lower neighbour, and what remains. -/
theorem value_eq_below (x : Dyadic) (grid : ℤ) :
    ∃ u : ℚ, 0 < u ∧ (10 : ℚ) ^ grid = (commonUnit x.exponent grid).2 * u ∧
      x.value = x.below grid * 10 ^ grid +
        (4 * x.mantissa * (commonUnit x.exponent grid).1 % (commonUnit x.exponent grid).2 : ℕ) * u := by
  obtain ⟨u, hu, hquarter, hpoint⟩ := commonUnit_spec x.exponent grid
  have hdiv : (4 * x.mantissa * (commonUnit x.exponent grid).1 : ℚ) = (commonUnit x.exponent grid).2 * x.below grid +
      (4 * x.mantissa * (commonUnit x.exponent grid).1 % (commonUnit x.exponent grid).2 : ℕ) := by
    exact_mod_cast (Nat.div_add_mod (4 * x.mantissa * (commonUnit x.exponent grid).1) (commonUnit x.exponent grid).2).symm
  refine ⟨u, hu, hpoint, ?_⟩
  rw [x.value_eq, hquarter, ← mul_assoc, hdiv, hpoint]
  ring

theorem below_le (x : Dyadic) (grid : ℤ) : x.below grid * 10 ^ grid ≤ x.value := by
  obtain ⟨u, hu, -, hvalue⟩ := value_eq_below x grid
  rw [hvalue]
  exact le_add_of_nonneg_right (by positivity)

theorem lt_below_succ (x : Dyadic) (grid : ℤ) : x.value < (x.below grid + 1 : ℕ) * 10 ^ grid := by
  obtain ⟨u, hu, hpoint, hvalue⟩ := value_eq_below x grid
  have hpos : 0 < (commonUnit x.exponent grid).2 := Nat.mul_pos (Nat.two_pow_pos _) (Nat.pow_pos (by decide))
  rw [hvalue, Nat.cast_succ, add_one_mul]
  refine add_lt_add_right ?_ _
  rw [hpoint]
  exact mul_lt_mul_of_pos_right (by exact_mod_cast Nat.mod_lt _ hpos) hu

theorem nearest_close (x : Dyadic) (grid : ℤ) : 2 * |x.nearest grid * 10 ^ grid - x.value| ≤ (10 : ℚ) ^ grid := by
  obtain ⟨u, hu, hpoint, hvalue⟩ := value_eq_below x grid
  have hhalf {a b : ℕ} (h : a ≤ b) : (a * u : ℚ) ≤ b * u := mul_le_mul_of_nonneg_right (by exact_mod_cast h) hu.le
  have hle := below_le x grid
  have hlt := (lt_below_succ x grid).le
  unfold Dyadic.nearest
  split
  next habove =>
    have hrest : (commonUnit x.exponent grid).2 ≤
        2 * (4 * x.mantissa * (commonUnit x.exponent grid).1 % (commonUnit x.exponent grid).2) := by
      simp [Dyadic.nearAbove] at habove
      omega
    have hhalf' := hhalf hrest
    rw [abs_of_nonneg (sub_nonneg.2 hlt), hvalue, hpoint]
    push_cast at hhalf' ⊢
    linarith
  next hbelow =>
    have hrest : 2 * (4 * x.mantissa * (commonUnit x.exponent grid).1 % (commonUnit x.exponent grid).2) ≤
        (commonUnit x.exponent grid).2 := by
      simp [Dyadic.nearAbove] at hbelow
      omega
    have hhalf' := hhalf hrest
    rw [abs_of_nonpos (sub_nonpos.2 hle), hvalue, hpoint]
    push_cast at hhalf' ⊢
    linarith

/-- A decimal that stands for `x`, and is next to it where the grid is fine. -/
structure IsShort (x : Dyadic) (d : Decimal) : Prop where
  pos : 0 < d.digits
  stands : x.Stands d.value
  close : (10 : ℚ) ^ d.exponent < 2 * 2 ^ (x.exponent - 2) → 2 * |d.value - x.value| ≤ 10 ^ d.exponent

theorem four_le_value (hm : 0 < x.mantissa) : (4 : ℚ) * 2 ^ (x.exponent - 2) ≤ x.value := by
  rw [x.value_eq]
  refine mul_le_mul_of_nonneg_right ?_ (two_zpow_pos _).le
  have : (1 : ℚ) ≤ x.mantissa := by exact_mod_cast hm
  linarith

/-- On a grid that is finer than the interval both neighbours are no zero. -/
theorem below_pos (hm : 0 < x.mantissa) (hfine : (10 : ℚ) ^ grid < 3 * 2 ^ (x.exponent - 2)) : 0 < x.below grid := by
  refine Nat.pos_of_ne_zero fun hzero => ?_
  have hlt := lt_below_succ x grid
  have hvalue := four_le_value hm
  have hunit := two_zpow_pos (x.exponent - 2)
  rw [hzero, zero_add, Nat.cast_one, one_mul] at hlt
  linarith

theorem low_le (x : Dyadic) : x.low ≤ x.value - 2 ^ (x.exponent - 2) := by
  have hunit := two_zpow_pos (x.exponent - 2)
  unfold Dyadic.low
  split <;> linarith

theorem onGrid?_spec (hm : 0 < x.mantissa) {d : Decimal} (h : x.onGrid? grid = some d) :
    d.exponent = grid ∧ IsShort x d := by
  rw [onGrid?_eq] at h
  obtain ⟨hfirst, h⟩ | ⟨hfirst, h⟩ := ite_eq_iff.1 h
  · cases h
    simp only [ne_eq, Bool.and_eq_true, decide_eq_true_eq] at hfirst
    exact ⟨rfl, Nat.pos_of_ne_zero hfirst.1, (standsOn_iff hm _).1 hfirst.2, fun _ => nearest_close x grid⟩
  obtain ⟨hsecond, h⟩ | ⟨-, h⟩ := ite_eq_iff.1 h
  · cases h
    simp only [ne_eq, Bool.and_eq_true, decide_eq_true_eq] at hfirst hsecond
    refine ⟨rfl, Nat.pos_of_ne_zero hsecond.1, (standsOn_iff hm _).1 hsecond.2, fun hfine => ?_⟩
    -- On a fine grid the nearer neighbour stands for the number, so it is not the other one.
    have hunit := two_zpow_pos (x.exponent - 2)
    dsimp only at hfine
    have hpos : 0 < x.below grid := below_pos hm (by linarith)
    have hclose := nearest_close x grid
    have hlow := low_le x
    have hstands : x.Stands (x.nearest grid * 10 ^ grid) := by
      refine Dyadic.stands_of_lt ?_ ?_
      · have := neg_abs_le (x.nearest grid * 10 ^ grid - x.value)
        linarith
      · have := le_abs_self (x.nearest grid * 10 ^ grid - x.value)
        unfold Dyadic.high
        linarith
    refine (hfirst ⟨?_, (standsOn_iff hm _).2 hstands⟩).elim
    unfold Dyadic.nearest
    split <;> omega
  · cases h

theorem onGrid?_isSome (hm : 0 < x.mantissa) (hfine : (10 : ℚ) ^ grid < 3 * 2 ^ (x.exponent - 2)) :
    (x.onGrid? grid).isSome := by
  have hpos := below_pos hm hfine
  have hunit := two_zpow_pos (x.exponent - 2)
  -- Were neither neighbour in the interval, they would be further apart than the grid has them.
  have hsome : x.Stands (x.below grid * 10 ^ grid) ∨ x.Stands ((x.below grid + 1 : ℕ) * 10 ^ grid) := by
    by_contra hnone
    obtain ⟨hbelow, habove⟩ := not_or.1 hnone
    have hle := below_le x grid
    have hlt := lt_below_succ x grid
    have hlow : x.below grid * 10 ^ grid ≤ x.low := by
      by_contra hin
      refine hbelow (Dyadic.stands_of_lt (not_le.1 hin) ?_)
      unfold Dyadic.high
      linarith
    have hhigh : x.high ≤ (x.below grid + 1 : ℕ) * 10 ^ grid := by
      by_contra hin
      have := low_le x
      exact habove (Dyadic.stands_of_lt (by linarith) (not_le.1 hin))
    have hwidth := low_le x
    unfold Dyadic.high at hhigh
    push_cast at hhigh
    linarith
  rw [← standsOn_iff hm, ← standsOn_iff hm] at hsome
  rw [onGrid?_eq]
  unfold Dyadic.nearest Dyadic.further
  have hne : x.below grid ≠ 0 := hpos.ne'
  split <;> rcases hsome with h | h <;> simp [h, hne] <;> split <;> simp

/-! ## The first grid -/

theorem onFirstGrid_spec {tries n : ℕ} (hm : 0 < x.mantissa) (hn : n < tries)
    (hfine : (10 : ℚ) ^ (grid - n) < 3 * 2 ^ (x.exponent - 2)) :
    IsShort x (x.onFirstGrid tries grid) ∧
      ((x.onFirstGrid tries grid).exponent = grid ∨
        3 * 2 ^ (x.exponent - 2) ≤ (10 : ℚ) ^ ((x.onFirstGrid tries grid).exponent + 1)) := by
  induction tries generalizing grid n with
  | zero => omega
  | succ tries ih =>
    unfold Dyadic.onFirstGrid
    cases h : x.onGrid? grid with
    | some d =>
      obtain ⟨hexp, hd⟩ := onGrid?_spec hm h
      exact ⟨hd, .inl hexp⟩
    | none =>
      -- This grid is too coarse, so it is not yet the fine one.
      have hcoarse : 3 * 2 ^ (x.exponent - 2) ≤ (10 : ℚ) ^ grid := by
        by_contra hlt
        have := onGrid?_isSome hm (not_le.1 hlt)
        rw [h] at this
        cases this
      cases n with
      | zero =>
        rw [Nat.cast_zero, sub_zero] at hfine
        exact absurd hfine (not_lt.2 hcoarse)
      | succ n =>
        have hnext : grid - 1 - (n : ℤ) = grid - (n + 1 : ℕ) := by
          push_cast
          ring
        obtain ⟨hd, hexp⟩ := ih (by omega) (hnext ▸ hfine)
        refine ⟨hd, .inr ?_⟩
        rcases hexp with hexp | hexp
        · show 3 * 2 ^ (x.exponent - 2) ≤ (10 : ℚ) ^ ((x.onFirstGrid tries (grid - 1)).exponent + 1)
          rw [hexp, sub_add_cancel]
          exact hcoarse
        · exact hexp

/-- The first grid that is tried for a number of the given bits. -/
def firstGrid (bits : ℤ) : ℤ :=
  bits * 30103 / 100000 + 1

/-- It is about as coarse as the number is large. -/
theorem firstGrid_spec {bits : ℤ} (hmin : -148 ≤ bits) (hmax : bits ≤ 128) :
    (2 : ℚ) ^ bits ≤ 10 ^ firstGrid bits ∧ (10 : ℚ) ^ firstGrid bits ≤ 20 * 2 ^ bits := by
  have hall : ∀ n < (277 : ℕ),
      2 ^ (n - 148 : ℤ).toNat * 10 ^ (-firstGrid (n - 148)).toNat ≤
          10 ^ (firstGrid (n - 148)).toNat * 2 ^ (-(n - 148) : ℤ).toNat ∧
        10 ^ (firstGrid (n - 148)).toNat * 2 ^ (-(n - 148) : ℤ).toNat ≤
          20 * 2 ^ (n - 148 : ℤ).toNat * 10 ^ (-firstGrid (n - 148)).toNat := by
    decide +kernel
  have hbits : ((bits + 148).toNat : ℤ) - 148 = bits := by omega
  have hcase := hall (bits + 148).toNat (by omega)
  rw [hbits] at hcase
  rw [zpow_eq_div two_ne_zero, zpow_eq_div (by norm_num), ← mul_div_assoc,
    div_le_div_iff₀ (by positivity) (by positivity), div_le_div_iff₀ (by positivity) (by positivity)]
  exact_mod_cast hcase

/-! ## Binary32 -/

/-- A canonical binary32 number. -/
structure Dyadic.IsCanonical32 (x : Dyadic) : Prop where
  pos : 0 < x.mantissa
  canonical : Canonical .binary32 x.mantissa x.exponent
  exponent_le : x.exponent ≤ 104
  closeBelow : x.closeBelow = (x.mantissa = 2 ^ 23 && -149 < x.exponent)

theorem high_le (hm : 0 < x.mantissa) : x.high ≤ x.value * (3 / 2) := by
  have hvalue := four_le_value hm
  unfold Dyadic.high
  linarith

theorem value_lt_bits (x : Dyadic) : x.value < 2 ^ ((x.mantissa.log2 : ℤ) + 1 + x.exponent) := by
  rw [two_zpow_add, ← Int.natCast_succ, two_zpow_natCast]
  exact mul_lt_mul_of_pos_right (by exact_mod_cast Nat.lt_log2_self) (two_zpow_pos _)

/-- The shortest decimal of a binary32 number stands for it, and has no more digits than binary64 has. -/
theorem shortest_spec (h : x.IsCanonical32) :
    IsShort x x.shortest ∧ x.shortest.digits < 2 ^ 53 ∧ -45 ≤ x.shortest.exponent ∧ x.shortest.exponent ≤ 45 := by
  obtain ⟨bits, hbits⟩ : ∃ bits : ℤ, bits = x.mantissa.log2 + 1 + x.exponent := ⟨_, rfl⟩
  have hmin : -149 ≤ x.exponent := h.canonical.ge
  have hmax := h.exponent_le
  have hlog : x.mantissa.log2 < 24 := log2_lt h.canonical.lt (by decide)
  have hvalue : x.value < 2 ^ bits := hbits ▸ value_lt_bits x
  have hunit := two_zpow_pos (x.exponent - 2)
  have hbits_le : (2 : ℚ) ^ bits ≤ 2 ^ 26 * 2 ^ (x.exponent - 2) := two_zpow_le_mul (by omega)
  obtain ⟨hcoarse, hfine⟩ := @firstGrid_spec bits (by omega) (by omega)
  -- Twelve grids further down there is room for a point.
  have hroom : (10 : ℚ) ^ (firstGrid bits - (12 : ℕ)) < 3 * 2 ^ (x.exponent - 2) := by
    rw [zpow_sub₀ (by norm_num), div_lt_iff₀ (by positivity), zpow_natCast]
    linarith
  have hshortest : x.shortest = x.onFirstGrid 24 (firstGrid bits) := by
    unfold Dyadic.shortest
    rw [if_neg h.pos.ne', hbits]
    rfl
  obtain ⟨hshort, hexp⟩ := onFirstGrid_spec h.pos (show 12 < 24 by decide) hroom
  rw [← hshortest] at hshort hexp
  have hten : (0 : ℚ) < 10 ^ x.shortest.exponent := by positivity
  have hone : (1 : ℚ) ≤ x.shortest.digits := by exact_mod_cast hshort.pos
  have hupper : x.shortest.digits * 10 ^ x.shortest.exponent ≤ x.value * (3 / 2) :=
    hshort.stands.bounds.2.trans (high_le h.pos)
  have hsucc : (10 : ℚ) ^ (x.shortest.exponent + 1) = 10 ^ x.shortest.exponent * 10 := zpow_add_one₀ (by norm_num) _
  refine ⟨hshort, ?_, ?_, ?_⟩
  · have hdigits : x.shortest.digits * (10 : ℚ) ^ x.shortest.exponent < 2 ^ 53 * 10 ^ x.shortest.exponent := by
      rcases hexp with hexp | hexp
      · rw [hexp] at hupper hten ⊢
        linarith
      · rw [hsucc] at hexp
        linarith
    exact_mod_cast lt_of_mul_lt_mul_right hdigits hten.le
  · have hpow : (10 : ℚ) ^ (-46 : ℤ) < 10 ^ x.shortest.exponent := by
      rcases hexp with hexp | hexp
      · rw [hexp]
        refine lt_of_lt_of_le ?_ hcoarse
        exact lt_of_lt_of_le (by norm_num) (two_zpow_le (show -148 ≤ bits by omega))
      · rw [hsucc] at hexp
        have hleast : (2 : ℚ) ^ (-151 : ℤ) ≤ 2 ^ (x.exponent - 2) := two_zpow_le (by omega)
        have hsmall : (10 : ℚ) ^ (-46 : ℤ) * 10 < 3 * 2 ^ (-151 : ℤ) := by norm_num
        linarith
    have := (zpow_lt_zpow_iff_right₀ (by norm_num)).1 hpow
    omega
  · have hpow : (10 : ℚ) ^ x.shortest.exponent < 10 ^ (46 : ℤ) := by
      have hlarge : (2 : ℚ) ^ bits ≤ 2 ^ (128 : ℤ) := two_zpow_le (by omega)
      have hten' : (2 : ℚ) ^ (128 : ℤ) * (3 / 2) < 10 ^ (46 : ℤ) := by norm_num
      have hle : (10 : ℚ) ^ x.shortest.exponent ≤ x.shortest.digits * 10 ^ x.shortest.exponent :=
        le_mul_of_one_le_left hten.le hone
      linarith
    have := (zpow_lt_zpow_iff_right₀ (by norm_num)).1 hpow
    omega

end GroundedQA.Number
