import GroundedQA.Number.Binary
import GroundedQA.Proofs.Number.Rounding
import Mathlib
/-!
# Packed numbers

A normal binary64 number comes out of its bits as it went in (`unpack_pack_normal`), and a binary32 number
has the bits that it was taken from (`ofModel_pack_unpack`).
-/

namespace GroundedQA.Number

open Float.Model Float.Model.UnpackedFloat

/-- What is to be shown of a number that is picked by a condition is shown of both. -/
theorem dite_holds {P : UnpackedFloat → Prop} {c : Prop} [Decidable c] {u : c → UnpackedFloat} {v : ¬c → UnpackedFloat}
    (hu : ∀ h, P (u h)) (hv : ∀ h, P (v h)) : P (dite c u v) := by
  by_cases h : c
  · rw [dif_pos h]
    exact hu h
  · rw [dif_neg h]
    exact hv h

/-- The leading one of a normal mantissa is not stored. -/
theorem toNat_implicit {bits : Nat} (mantissa : BitVec bits) : (1#1 ++ mantissa).toNat = 2 ^ bits + mantissa.toNat := by
  rw [BitVec.toNat_append, ← Nat.shiftLeft_add_eq_or_of_lt mantissa.isLt, Nat.shiftLeft_eq]
  simp

theorem unpack_pack_normal (sign : Sign) {m : Nat} {e : Int} (hpos : 0 < m) (hge : 2 ^ 52 ≤ m) (hlt : m < 2 ^ 53)
    (hmin : -1074 ≤ e) (hmax : e ≤ 971) :
    (Float.Model.pack (.finite sign m e hpos)).unpack = .finite sign m e hpos := by
  have hlog : m.log2 + 1 = Format.binary64.mantissaBits := by
    show m.log2 + 1 = 53
    rw [(Nat.log2_eq_iff (by omega)).2 ⟨hge, hlt⟩]
  have hbiased : (e + Format.binary64.exponentBias + Format.binary64.mantissaBitsWithoutImplicit).toNat =
      (e + 1075).toNat := by
    show (e + (1023 : Nat) + (52 : Nat)).toNat = (e + 1075).toNat
    omega
  have hstored : (BitVec.ofNat 11 (e + 1075).toNat).toNat = (e + 1075).toNat := by
    rw [BitVec.toNat_ofNat]
    omega
  have hpack : UnpackedFloat.pack .binary64 (.finite sign m e hpos) =
      packComponents .binary64 sign (BitVec.ofNat 11 (e + 1075).toNat) (BitVec.ofNat 52 m) := by
    unfold UnpackedFloat.pack
    dsimp only
    rw [hbiased]
    rw [if_neg (by show ¬2 ^ 11 ≤ (e + 1075).toNat + 1; omega), if_pos hlog]
  have hinf : BitVec.ofNat 11 (e + 1075).toNat ≠ -1#11 := by
    intro heq
    have := congrArg BitVec.toNat heq
    rw [hstored] at this
    simp at this
    omega
  have hsub : BitVec.ofNat 11 (e + 1075).toNat ≠ 0#11 := by
    intro heq
    have := congrArg BitVec.toNat heq
    rw [hstored] at this
    simp at this
    omega
  have hmantissa : (1#1 ++ BitVec.ofNat 52 m).toNat = m := by
    rw [toNat_implicit, BitVec.toNat_ofNat]
    omega
  have hexponent : ((e + 1075).toNat : Int) -
      (Format.binary64.exponentBias + Format.binary64.mantissaBitsWithoutImplicit) = e := by
    show ((e + 1075).toNat : Int) - ((1023 : Nat) + (52 : Nat)) = e
    omega
  show UnpackedFloat.unpack .binary64 (UnpackedFloat.pack .binary64 (.finite sign m e hpos)) = _
  rw [hpack]
  unfold UnpackedFloat.unpack
  dsimp only
  simp only [unpackExponent_packComponents, unpackMantissa_packComponents, unpackSign_packComponents,
    Sign.ofBitVec_toBitVec, hinf, hsub, if_false, hstored, hmantissa, hexponent]

theorem ofModel_pack_unpack (x : Float32) : .ofModel (.pack x.toModel.unpack) = x := by
  have hbits := pack_unpack_of_valid x.toModel.valid
  obtain ⟨⟨bits, hvalid⟩⟩ := x
  unfold Float32.Model.pack Float32.Model.unpack
  simp only [hbits]

end GroundedQA.Number
