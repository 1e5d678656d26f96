import GroundedQA.Proofs.Number.Arithmetic
import GroundedQA.Proofs.Number.Interval
import GroundedQA.Proofs.Number.Packing
/-!
# Narrowing into the interval

What stands for a binary32 number is rounded to it: around it the numbers of the format are the multiples
of its last place, or of half of it just below a power of two (`grid_cases`). So a binary64 number that
stands for a binary32 number is narrowed to it (`narrow_of_stands`).
-/

namespace GroundedQA.Number

open Float.Model Float.Model.UnpackedFloat

variable {x : Dyadic} {c : ℚ} {sign : Sign}

theorem Dyadic.two_zpow_exponent (x : Dyadic) : (2 : ℚ) ^ x.exponent = 4 * 2 ^ (x.exponent - 2) := by
  have hsplit := two_zpow_add (x.exponent - 2) 2
  rw [Int.sub_add_cancel] at hsplit
  rw [hsplit, mul_comm]
  rfl

theorem low_ge (x : Dyadic) : x.value - 2 * 2 ^ (x.exponent - 2) ≤ x.low := by
  have hunit := two_zpow_pos (x.exponent - 2)
  unfold Dyadic.low
  split <;> linarith

/-- Measured in its last place, what stands for a number is nearest to its mantissa. -/
theorem isNearest_mantissa (h : x.Stands c) : IsNearest x.mantissa (c / 2 ^ x.exponent) := by
  have hunit := two_zpow_pos (x.exponent - 2)
  have hlow := low_ge x
  have hvalue := x.value_eq
  obtain ⟨hge, hle⟩ := h.bounds
  unfold Dyadic.high at hle
  rw [x.two_zpow_exponent]
  refine ⟨?_, ?_, fun htie => ?_⟩
  · rw [div_le_iff₀ (by linarith)]
    linarith
  · rw [← sub_le_iff_le_add, le_div_iff₀ (by linarith)]
    linarith
  · -- The ends are ties, and they count when the mantissa is even.
    by_contra hodd
    unfold Dyadic.Stands Dyadic.high at h
    rw [if_neg hodd] at h
    rw [div_eq_iff (by linarith), ← sub_eq_iff_eq_add, eq_div_iff (by linarith)] at htie
    rcases htie with htie | htie <;> linarith [h.1, h.2]

/-- No number that rounds to `x` needs more bits than `x` has. -/
theorem le_exponent (h : x.IsCanonical32) (hc : x.Stands c) {t : ℤ} (hgrid : IsGrid .binary32 c t) : t ≤ x.exponent := by
  obtain ⟨-, hle⟩ := hc.bounds
  have hunit := two_zpow_pos (x.exponent - 2)
  have hvalue := x.value_eq
  have hmin : -149 ≤ x.exponent := h.canonical.ge
  by_contra hgt
  have hfull : (2 : ℚ) ^ (t + 23) ≤ c := hgrid.full.resolve_left (fun heq => by
    have : t = -149 := heq
    omega)
  have hpow : (2 : ℚ) ^ 26 * 2 ^ (x.exponent - 2) ≤ 2 ^ (t + 23) := by
    show (2 : ℚ) ^ (26 : ℤ) * _ ≤ _
    rw [← two_zpow_add]
    exact two_zpow_le (by omega)
  have hm : (x.mantissa + 1 : ℚ) ≤ 2 ^ 24 := by exact_mod_cast h.canonical.lt
  unfold Dyadic.high at hle
  nlinarith

/-- Only below a power of two the numbers lie closer than those around `x`. -/
theorem mantissa_eq_of_finer (h : x.IsCanonical32) (hc : x.Stands c) {t : ℤ} (hgrid : IsGrid .binary32 c t)
    (hfiner : t < x.exponent) : x.mantissa = 2 ^ 23 := by
  obtain ⟨hge, -⟩ := hc.bounds
  have hunit := two_zpow_pos (x.exponent - 2)
  have hvalue := x.value_eq
  have hmin : -149 ≤ t := hgrid.ge
  have hlt : c < 2 ^ (t + 24) := hgrid.lt
  have hfull : 2 ^ 23 ≤ x.mantissa := h.canonical.full.resolve_left (fun heq => by
    have : x.exponent = -149 := heq
    omega)
  have hpow : (2 : ℚ) ^ (t + 24) ≤ 2 ^ 25 * 2 ^ (x.exponent - 2) := two_zpow_le_mul (by omega)
  by_contra hne
  have hm : (2 ^ 23 + 1 : ℚ) ≤ x.mantissa := by exact_mod_cast Nat.lt_of_le_of_ne hfull (Ne.symm hne)
  have hlow : x.low = x.value - 2 * 2 ^ (x.exponent - 2) := by
    rw [Dyadic.low, h.closeBelow, if_neg (by simp [hne])]
  nlinarith

/-- The numbers around `c` lie as far apart as those around `x`, or half as far below a power of two. -/
theorem grid_cases (h : x.IsCanonical32) (hc : x.Stands c) {t : ℤ} (hgrid : IsGrid .binary32 c t) :
    t = x.exponent ∨ t = x.exponent - 1 ∧ IsNearest (2 * x.mantissa) (c / 2 ^ t) := by
  rcases Int.lt_or_eq_of_le (le_exponent h hc hgrid) with hfiner | heq
  swap
  · exact .inl heq
  right
  have hunit := two_zpow_pos (x.exponent - 2)
  have hvalue := x.value_eq
  obtain ⟨hge, hle⟩ := hc.bounds
  have hlt : c < 2 ^ (t + 24) := hgrid.lt
  have hmin : -149 ≤ t := hgrid.ge
  have hpower := mantissa_eq_of_finer h hc hgrid hfiner
  have hm : (x.mantissa : ℚ) = 2 ^ 23 := by exact_mod_cast hpower
  have hlow : x.low = x.value - 2 ^ (x.exponent - 2) := by
    have hnormal : -149 < x.exponent := by omega
    rw [Dyadic.low, h.closeBelow, if_pos (by simp [hpower, hnormal]), one_mul]
  rw [hlow, hvalue, hm] at hge
  have ht : t = x.exponent - 1 := by
    by_contra hne
    have hpow : (2 : ℚ) ^ (t + 24) ≤ 2 ^ 24 * 2 ^ (x.exponent - 2) := two_zpow_le_mul (by omega)
    linarith
  have hpow : (2 : ℚ) ^ (t + 24) ≤ 2 ^ 25 * 2 ^ (x.exponent - 2) := two_zpow_le_mul (by omega)
  have hstep : (2 : ℚ) ^ t = 2 * 2 ^ (x.exponent - 2) := by
    show _ = (2 : ℚ) ^ (1 : ℤ) * _
    rw [ht, ← two_zpow_add]
    congr 1
    ring
  refine ⟨ht, ?_, ?_, fun _ => Nat.mul_mod_right 2 _⟩
  · rw [hstep, div_le_iff₀ (by linarith)]
    push_cast
    rw [hm]
    linarith
  · rw [hstep, ← sub_le_iff_le_add, le_div_iff₀ (by linarith)]
    push_cast
    rw [hm]
    linarith

/-- What stands for a binary32 number is rounded to it. -/
theorem eq_of_rounds {u : UnpackedFloat} (h : x.IsCanonical32)
    (hc : x.Stands c) (hu : Rounds .binary32 sign c u) : u = .finite sign x.mantissa x.exponent h.pos := by
  obtain ⟨t, n, hgrid, hn, hu⟩ := hu
  have hvalue : (n * 2 ^ t : ℚ) = x.mantissa * 2 ^ x.exponent := by
    rcases grid_cases h hc hgrid with rfl | ⟨rfl, hdouble⟩
    · rw [hn.unique (isNearest_mantissa hc)]
    · have hsplit : (2 : ℚ) ^ x.exponent = 2 ^ (x.exponent - 1) * 2 := by
        rw [← zpow_add_one₀ two_ne_zero, sub_add_cancel]
      rw [hn.unique hdouble, hsplit]
      push_cast
      ring
  rw [hvalue] at hu
  generalize hv : (x.mantissa * 2 ^ x.exponent : ℚ) = v at hu
  cases hu with
  | zero hzero =>
    have : 0 < v := hv ▸ mul_pos (by exact_mod_cast h.pos) (two_zpow_pos _)
    linarith
  | finite hpos hcanonical hv' =>
    obtain ⟨rfl, rfl⟩ := hcanonical.unique h.canonical (by rw [← hv', hv])
    rfl

/-! ## Binary32 -/

/-- A finite number as binary32 has it. -/
def IsCanonicalBinary32 : UnpackedFloat → Prop
  | .finite _ mantissa exponent _ => Canonical .binary32 mantissa exponent ∧ exponent ≤ 104
  | .zero _ | .infinity _ | .notANumber => True

theorem isCanonicalBinary32_unpack (b : BitVec Format.binary32.numBits) :
    IsCanonicalBinary32 (UnpackedFloat.unpack .binary32 b) := by
  have hlt : (unpackExponent b).toNat < 2 ^ 8 := BitVec.isLt _
  have hmantissa : (unpackMantissa b).toNat < 2 ^ 23 := BitVec.isLt _
  unfold UnpackedFloat.unpack
  refine dite_holds (fun _ => dite_holds (fun _ => trivial) fun _ => trivial) fun hfinite =>
    dite_holds (fun hzero => dite_holds (fun _ => trivial) fun _ => ?_) fun hnormal => ?_
  · rw [hzero]
    exact ⟨⟨Nat.lt_trans hmantissa (by decide), by decide, .inl (by decide)⟩, by decide⟩
  · have hne : (unpackExponent b).toNat ≠ 255 := fun heq => hfinite (BitVec.eq_of_toNat_eq heq)
    have hpos : (unpackExponent b).toNat ≠ 0 := fun heq => hnormal (BitVec.eq_of_toNat_eq heq)
    have himplicit : 2 ^ 23 ≤ (1#1 ++ unpackMantissa b).toNat := by
      rw [toNat_implicit]
      exact Nat.le_add_right ..
    refine ⟨⟨BitVec.isLt _, ?_, .inr himplicit⟩, ?_⟩
    · show -149 ≤ ((unpackExponent b).toNat : ℤ) - 150
      omega
    · show ((unpackExponent b).toNat : ℤ) - 150 ≤ 104
      omega

/-- A binary64 number that stands for a binary32 number is narrowed to it. -/
theorem narrow_of_stands {y : Float} (h : x.IsCanonical32) (hc : x.Stands c) (hy : Holds y sign c) :
    narrow y = .ofModel (.pack (.finite sign x.mantissa x.exponent h.pos)) := by
  obtain ⟨m, e, hpos, hu, -, -, rfl⟩ := hy
  unfold narrow
  rw [hu]
  show Float32.ofModel (.pack (UnpackedFloat.round .binary32 sign m e)) = _
  rw [eq_of_rounds h hc (rounds_round sign hpos e)]

end GroundedQA.Number
