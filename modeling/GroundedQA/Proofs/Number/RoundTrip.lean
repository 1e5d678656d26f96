import GroundedQA.Proofs.Number.Digits
import GroundedQA.Proofs.Number.Narrowing
import GroundedQA.Proofs.Number.Sides
/-!
# Binary32 numbers are read as they are written

The numeral of a finite binary32 number has the digits of its shortest decimal, however it is laid out
(`significand_numeral`), so it is read to a binary64 number in the interval of the number, and narrowed to
the number itself: every finite number comes back bit for bit (`toFloat32?_numeral32?`).
-/

namespace GroundedQA.Number

open Float.Model Float.Model.UnpackedFloat

/-! ## The digits of a layout -/

theorem ofDigits_append (ds es : List Digit) : ofDigits (ds ++ es) = ofDigits ds * 10 ^ es.length + ofDigits es := by
  rw [ofDigits_eq_foldl, List.foldl_append, ← ofDigits_eq_foldl, ofDigits_cons_foldl]

theorem ofDigits_replicate_zero (n : ℕ) : ofDigits (List.replicate n 0) = 0 := by
  induction n with
  | zero => rfl
  | succ n ih => rw [List.replicate_succ, ofDigits_cons, ih, Fin.val_zero, Nat.zero_mul]

/-- A fraction is taken as a whole when all its digits fit. -/
theorem takeFraction_of_lt (s : Numeral.Significand) {ds : List Digit}
    (h : s.value * 10 ^ ds.length + ofDigits ds < 2 ^ 64) :
    s.takeFraction ds = ⟨s.value * 10 ^ ds.length + ofDigits ds, s.exponent - ds.length⟩ := by
  induction ds generalizing s with
  | nil =>
    unfold Numeral.Significand.takeFraction
    simp [ofDigits_eq_foldl]
  | cons d ds ih =>
    rw [List.length_cons, ofDigits_cons] at h ⊢
    have hvalue : s.value * 10 ^ (ds.length + 1) + (d.val * 10 ^ ds.length + ofDigits ds) =
        (s.value * 10 + d.val) * 10 ^ ds.length + ofDigits ds := by
      rw [Nat.pow_succ]
      ring
    rw [hvalue] at h ⊢
    have hfits : s.value * 10 + d.val < 2 ^ 64 :=
      Nat.lt_of_le_of_lt (Nat.le_trans (Nat.le_mul_of_pos_right _ (Nat.pow_pos (by decide))) (Nat.le_add_right ..)) h
    unfold Numeral.Significand.takeFraction
    rw [if_pos hfits, ih ⟨s.value * 10 + d.val, s.exponent - 1⟩ h]
    congr 1
    push_cast
    ring

theorem significand_eq {n : Numeral} (h : n.whole * 10 ^ n.fraction.length + ofDigits n.fraction < 2 ^ 64) :
    n.significand = ⟨n.whole * 10 ^ n.fraction.length + ofDigits n.fraction,
      n.exponent.getD 0 - n.fraction.length⟩ := by
  have hwhole : n.whole < 2 ^ 64 :=
    Nat.lt_of_le_of_lt (Nat.le_trans (Nat.le_mul_of_pos_right _ (Nat.pow_pos (by decide))) (Nat.le_add_right ..)) h
  have hstart : Numeral.Significand.ofWhole n.whole 0 = ⟨n.whole, 0⟩ := by
    rw [Numeral.Significand.ofWhole, if_pos hwhole]
    rfl
  unfold Numeral.significand
  rw [hstart, takeFraction_of_lt ⟨n.whole, 0⟩ h]
  dsimp only
  congr 1
  ring

/-- What is read again of a decimal: its digits, or they and the zeros up to the point and one after it. -/
theorem significand_numeral (negative : Bool) {d : Decimal} (hd : d.digits < 2 ^ 53) :
    (Layout.binary32.numeral negative d).isInteger = false ∧
      (Layout.binary32.numeral negative d).negative = negative ∧
      ((Layout.binary32.numeral negative d).significand = ⟨d.digits, d.exponent⟩ ∨
        0 ≤ d.exponent ∧ d.digits * 10 ^ (d.exponent.toNat + 1) < 10 ^ 14 ∧
          (Layout.binary32.numeral negative d).significand = ⟨d.digits * 10 ^ (d.exponent.toNat + 1), -1⟩) := by
  have hlargest : Layout.binary32.largest = 13 := rfl
  have hspelled := ofDigits_digits d.digits
  have hlength : 0 < (Number.digits d.digits).length := List.length_pos_of_ne_nil (digits_ne_nil _)
  have hbelow := lt_pow_length_digits d.digits
  generalize hds : Number.digits d.digits = ds at hspelled hlength hbelow
  unfold Layout.numeral
  dsimp only
  rw [hlargest, hds]
  -- However the digits are divided, the parts spell what they spell together.
  have hparts (i : ℕ) : ofDigits (ds.take i) * 10 ^ (ds.drop i).length + ofDigits (ds.drop i) = d.digits := by
    rw [← ofDigits_append, List.take_append_drop, hspelled]
  split
  next hwhole =>
    -- The fraction is a zero, which counts as one more digit.
    have hlt : d.digits * 10 ^ (d.exponent.toNat + 1) < 10 ^ 14 :=
      calc d.digits * 10 ^ (d.exponent.toNat + 1) < 10 ^ ds.length * 10 ^ (d.exponent.toNat + 1) :=
            Nat.mul_lt_mul_of_pos_right hbelow (Nat.pow_pos (by decide))
        _ = 10 ^ (ds.length + (d.exponent.toNat + 1)) := (Nat.pow_add ..).symm
        _ ≤ 10 ^ 14 := Nat.pow_le_pow_right (by decide) (by omega)
    have hvalue : d.digits * 10 ^ d.exponent.toNat * 10 ^ [(0 : Digit)].length + ofDigits [0] =
        d.digits * 10 ^ (d.exponent.toNat + 1) := by
      rw [Nat.pow_succ, ← Nat.mul_assoc]
      rfl
    refine ⟨rfl, rfl, .inr ⟨hwhole.1, hlt, ?_⟩⟩
    rw [significand_eq (by rw [hvalue]; omega), hvalue]
    rfl
  split
  next hwhole hpoint =>
    refine ⟨?_, rfl, .inl ?_⟩
    · have hne : ds.drop (ds.length + d.exponent).toNat ≠ [] := by
        rw [ne_eq, List.drop_eq_nil_iff]
        omega
      simp [Numeral.isInteger, hne]
    · rw [significand_eq (by rw [hparts]; omega), hparts]
      simp only [Option.getD_none, List.length_drop]
      congr 1
      omega
  split
  next hwhole hpoint hzeros =>
    have hvalue : 0 * 10 ^ (List.replicate (-((ds.length : ℤ) + d.exponent)).toNat 0 ++ ds).length +
        ofDigits (List.replicate (-((ds.length : ℤ) + d.exponent)).toNat 0 ++ ds) = d.digits := by
      rw [ofDigits_append, ofDigits_replicate_zero, hspelled]
      omega
    refine ⟨?_, rfl, .inl ?_⟩
    · simp [Numeral.isInteger, List.ne_nil_of_length_pos hlength]
    · rw [significand_eq (by rw [hvalue]; omega), hvalue]
      simp only [Option.getD_none, List.length_append, List.length_replicate]
      congr 1
      omega
  next hwhole hpoint hzeros =>
    refine ⟨by simp [Numeral.isInteger], rfl, .inl ?_⟩
    rw [significand_eq (by rw [hparts]; omega), hparts]
    simp only [Option.getD_some, List.length_drop]
    congr 1
    omega

/-! ## Reading -/

variable {x : Dyadic}

theorem toFloat32?_of_significand {n : Numeral} (h : n.isInteger = false) :
    n.toFloat32? = (Numeral.scale? n.significand.value.toUInt64.toFloat n.significand.exponent).map fun y =>
      narrow (if n.negative then -y else y) := by
  unfold Numeral.toFloat32? Numeral.toFloat?
  simp [h]
  rfl

/-- The numeral of a canonical number is read to a binary64 number that stands for it. -/
theorem exists_reading (negative : Bool) (h : x.IsCanonical32) :
    ∃ y c, Numeral.scale? (Layout.binary32.numeral negative x.shortest).significand.value.toUInt64.toFloat
      (Layout.binary32.numeral negative x.shortest).significand.exponent = some y ∧ Holds y .positive c ∧ x.Stands c := by
  obtain ⟨hshort, hdigits, hmin, hmax⟩ := shortest_spec h
  obtain ⟨-, -, hsig | ⟨hexp, hlt, hsig⟩⟩ := significand_numeral negative hdigits
  · obtain ⟨y, c, hscale, hy, hread⟩ := scale?_spec hshort.pos hdigits hmin hmax
    rw [hsig]
    exact ⟨y, c, hscale, hy, stands_of_reading h hscale hy hread⟩
  · -- A whole number of so few digits is read exactly.
    have hpos : 0 < x.shortest.digits * 10 ^ (x.shortest.exponent.toNat + 1) :=
      Nat.mul_pos hshort.pos (Nat.pow_pos (by decide))
    obtain ⟨y, c, hscale, hy, hread⟩ := scale?_spec hpos (by omega) (show -45 ≤ (-1 : ℤ) by decide) (by decide)
    have hwhole : ((x.shortest.digits * 10 ^ (x.shortest.exponent.toNat + 1) : ℕ) * 10 ^ (-1 : ℤ) : ℚ) =
        (x.shortest.digits * 10 ^ x.shortest.exponent.toNat : ℕ) * 2 ^ (0 : ℤ) := by
      push_cast
      rw [pow_succ, zpow_neg_one]
      ring
    have hvalue : x.shortest.value = (x.shortest.digits * 10 ^ x.shortest.exponent.toNat : ℕ) * 2 ^ (0 : ℤ) := by
      have hnat : x.shortest.exponent = (x.shortest.exponent.toNat : ℤ) := by omega
      rw [Decimal.value, zpow_zero, mul_one]
      conv_lhs => rw [hnat, zpow_natCast]
      push_cast
      rfl
    have hfits : x.shortest.digits * 10 ^ x.shortest.exponent.toNat < 2 ^ 53 := by
      rw [Nat.pow_succ, ← Nat.mul_assoc] at hlt
      omega
    have hc : c = x.shortest.value := by
      rw [(hread.rounded (by decide)).exact _ _ hwhole hfits (by decide), hwhole, hvalue]
    rw [hsig]
    exact ⟨y, c, hscale, hy, hc ▸ hshort.stands⟩

/-- The finite binary32 numbers are those that have a numeral. -/
theorem numeral32?_isSome_iff {x : Float32} : (numeral32? x).isSome ↔ x.isFinite := by
  have hfinite : (x.isFinite : Prop) ↔ UnpackedFloat.isFinite x.toModel.unpack := Iff.rfl
  unfold numeral32? dyadic32?
  rw [Option.isSome_map, hfinite]
  cases x.toModel.unpack with
  | zero | finite => exact iff_of_true rfl rfl
  | infinity | notANumber => exact iff_of_false Bool.noConfusion Bool.noConfusion

/-- A finite binary32 number is read as it is written, bit for bit. -/
theorem toFloat32?_numeral32? {x : Float32} (hx : x.isFinite) {n : Numeral} (h : numeral32? x = some n) :
    n.toFloat32? = some x := by
  have hbits := ofModel_pack_unpack x
  have hcanonical : IsCanonicalBinary32 x.toModel.unpack := isCanonicalBinary32_unpack _
  have hfinite : UnpackedFloat.isFinite x.toModel.unpack := hx
  unfold numeral32? dyadic32? at h
  match hu : x.toModel.unpack with
  | .infinity _ | .notANumber =>
    rw [hu] at hfinite
    cases hfinite
  | .zero sign =>
    rw [hu] at h hbits
    cases h
    rw [← hbits]
    cases sign with
    | positive => decide +kernel
    | negative => decide +kernel
  | .finite sign m e hpos =>
    rw [hu] at h hcanonical hbits
    cases h
    have hx32 : Dyadic.IsCanonical32 ⟨sign == .negative, m, e, m = 2 ^ 23 && -149 < e⟩ :=
      ⟨hpos, hcanonical.1, hcanonical.2, rfl⟩
    obtain ⟨-, hdigits, -, -⟩ := shortest_spec hx32
    obtain ⟨hint, hnegative, -⟩ := significand_numeral (sign == .negative) hdigits
    obtain ⟨y, c, hscale, hy, hc⟩ := exists_reading (sign == .negative) hx32
    show (Layout.binary32.numeral (sign == .negative) _).toFloat32? = _
    rw [toFloat32?_of_significand hint, hscale, hnegative, Option.map_some, ← hbits]
    cases sign with
    | positive => exact congrArg some (narrow_of_stands hx32 hc hy)
    | negative => exact congrArg some (narrow_of_stands hx32 hc hy.neg)

-- Reading is not rounding to the nearest binary64 number first: of one number that would lose the last bit.
example : (numeral32? (Float32.ofBits 0x15ae43fd)).bind Numeral.toFloat32? = some (Float32.ofBits 0x15ae43fd) ∧
    narrow (OfScientific.ofScientific 7038531 true 32) = Float32.ofBits 0x15ae43fe := by decide +kernel

end GroundedQA.Number
