import Mathlib.Algebra.Ring.Nat
import Mathlib.Order.Monotone.Basic
import Recommendation.Score

/-!
Whole numbers as doubles. Up to fifty-three binary digits a whole number is told exactly
by a double: its digits fill the places of the double from the first one on, and how many
there are stands in front of them. So the places of such doubles among all doubles are in
the order of the numbers.
-/

namespace Recommendation

namespace WholeDouble

open Float.Model
open Float.Model.UnpackedFloat

/-- The digits of a whole number, shifted so that they fill all places of a double. -/
def filled (n : Nat) : Nat := n * 2 ^ (52 - n.log2)

theorem log2_le {n : Nat} (hn : n ≠ 0) (hfits : n < 2 ^ 53) : n.log2 ≤ 52 :=
  Nat.le_of_lt_succ ((Nat.log2_lt hn).2 hfits)

theorem filled_bounds {n : Nat} (hn : n ≠ 0) (hfits : n < 2 ^ 53) :
    2 ^ 52 ≤ filled n ∧ filled n < 2 ^ 53 := by
  have hle := log2_le hn hfits
  have hlow : 2 ^ n.log2 * 2 ^ (52 - n.log2) ≤ filled n :=
    Nat.mul_le_mul_right _ (Nat.log2_self_le hn)
  have hhigh : filled n < 2 ^ (n.log2 + 1) * 2 ^ (52 - n.log2) :=
    Nat.mul_lt_mul_of_pos_right Nat.lt_log2_self (Nat.two_pow_pos _)
  have hplaces : n.log2 + (52 - n.log2) = 52 := Nat.add_sub_of_le hle
  rw [← Nat.pow_add, Nat.add_right_comm, hplaces] at hhigh
  rw [← Nat.pow_add, hplaces] at hlow
  exact ⟨hlow, hhigh⟩

theorem log2_filled {n : Nat} (hn : n ≠ 0) (hfits : n < 2 ^ 53) : (filled n).log2 = 52 := by
  obtain ⟨hlow, hhigh⟩ := filled_bounds hn hfits
  exact (Nat.log2_eq_iff (by omega)).2 ⟨hlow, hhigh⟩

theorem filled_pos {n : Nat} (hn : n ≠ 0) : 0 < filled n :=
  Nat.mul_pos (Nat.pos_of_ne_zero hn) (Nat.two_pow_pos _)

theorem targetExponent_eq (m : Nat) (e : Int) :
    Format.binary64.targetExponent (totalExponent m e) =
      max ((m.log2 : Int) + 1 + e - 53) (-1074) :=
  rfl

theorem shiftToTargetExponent_full {m : Nat} {e : Int} (hm : m.log2 = 52) (he : -1074 ≤ e) :
    shiftToTargetExponent .binary64 m e .exact = (⟨m, false, false⟩, e) := by
  have htarget : Format.binary64.targetExponent (totalExponent m e) = e := by
    rw [targetExponent_eq, hm]
    omega
  simp [shiftToTargetExponent, shiftToExponent, htarget, HShiftRight.hShiftRight, Nat.repeat,
    ExtendedMantissa.ofMantissaAndAccuracy]

theorem roundWithAccuracy_full {m : Nat} {e : Int} (hpos : 0 < m) (hm : m.log2 = 52)
    (he : -1074 ≤ e) :
    roundWithAccuracy .binary64 .positive m e .exact = .finite .positive m e hpos := by
  have hfull := shiftToTargetExponent_full hm he
  have hrounded : (ExtendedMantissa.mk m false false).roundedMantissa = m := rfl
  rw [roundWithAccuracy, hfull]
  dsimp only
  rw [hrounded, hfull]
  exact dif_neg hpos.ne'

theorem ofNat_eq_round {n : Nat} (hn : n ≠ 0) :
    UnpackedFloat.ofNat .binary64 n = UnpackedFloat.round .binary64 .positive n 0 := by
  have hpositive : compare (n : Int) 0 = .gt := Int.compare_eq_gt.2 (by omega)
  simp [UnpackedFloat.ofNat, UnpackedFloat.ofInt, UnpackedFloat.normalize, hpositive]

theorem ofNat_eq_finite {n : Nat} (hn : n ≠ 0) (hfits : n < 2 ^ 53) :
    UnpackedFloat.ofNat .binary64 n =
      .finite .positive (filled n) ((n.log2 : Int) - 52) (filled_pos hn) := by
  have hle := log2_le hn hfits
  have htarget : Format.binary64.targetExponent (totalExponent n 0) = (n.log2 : Int) - 52 := by
    rw [targetExponent_eq]
    omega
  have hshift : ((0 : Int) - ((n.log2 : Int) - 52)).toNat = 52 - n.log2 := by omega
  have hexponent : (0 : Int) - ((52 - n.log2 : Nat) : Int) = (n.log2 : Int) - 52 := by omega
  have hdecreased : decreaseExponent n 0 ((n.log2 : Int) - 52) =
      (filled n, (n.log2 : Int) - 52) := by
    rw [decreaseExponent, hshift, Nat.shiftLeft_eq]
    exact congrArg (Prod.mk (filled n)) hexponent
  rw [ofNat_eq_round hn, UnpackedFloat.round, htarget, hdecreased]
  exact roundWithAccuracy_full (filled_pos hn) (log2_filled hn hfits) (by omega)

/-- A double of full width shows its exponent and the digits behind the first one. -/
theorem pack_full {m : Nat} {e : Int} {b : Nat} (hpos : 0 < m) (hm : m.log2 = 52)
    (hbias : (e + 1023 + 52).toNat = b) (hsmall : b + 1 < 2 ^ 11) :
    UnpackedFloat.pack .binary64 (.finite .positive m e hpos) =
      packComponents .binary64 .positive (BitVec.ofNat 11 b) (BitVec.ofNat 52 m) := by
  subst hbias
  have hwide : m.log2 + 1 = Format.mantissaBits .binary64 := hm ▸ rfl
  exact (if_neg hsmall.not_ge).trans (if_pos hwide)

theorem toNat_pack {n : Nat} (hn : n ≠ 0) (hfits : n < 2 ^ 53) :
    (UnpackedFloat.pack .binary64 (UnpackedFloat.ofNat .binary64 n)).toNat =
      (n.log2 + 1022) * 2 ^ 52 + filled n := by
  have hle := log2_le hn hfits
  obtain ⟨hlow, hhigh⟩ := filled_bounds hn hfits
  have hbias : ((n.log2 : Int) - 52 + 1023 + 52).toNat = n.log2 + 1023 := by omega
  have hsmall : n.log2 + 1023 + 1 < 2 ^ 11 := by omega
  have hsign : (Sign.positive.toBitVec).toNat = 0 := rfl
  rw [ofNat_eq_finite hn hfits, pack_full _ (log2_filled hn hfits) hbias hsmall, packComponents,
    BitVec.toNat_append, BitVec.toNat_append, ← Nat.shiftLeft_add_eq_or_of_lt (BitVec.isLt _),
    ← Nat.shiftLeft_add_eq_or_of_lt (BitVec.isLt _), BitVec.toNat_ofNat, BitVec.toNat_ofNat, hsign,
    Nat.shiftLeft_eq, Nat.shiftLeft_eq]
  omega

def place (n : Nat) : Nat := if n = 0 then 0 else (n.log2 + 1022) * 2 ^ 52 + filled n

theorem toNat_toBits_ofNat {n : Nat} (hfits : n < 2 ^ 53) :
    (Score.ofNat n : Float).toBits.toNat = place n := by
  have hbits : (Score.ofNat n : Float).toBits.toNat =
      (UnpackedFloat.pack .binary64 (UnpackedFloat.ofNat .binary64 n.toUInt64.toNat)).toNat := rfl
  have hword : n.toUInt64.toNat = n :=
    UInt64.toNat_ofNat_of_lt' (Nat.lt_trans hfits (by decide))
  rw [hbits, hword, place]
  split
  · rename_i hzero
    subst hzero
    rfl
  · rename_i hn
    exact toNat_pack hn hfits

theorem floatRank_ofNat {n : Nat} (hfits : n < 2 ^ 53) :
    floatRank (Score.ofNat n) = (place n : Int) := by
  have hplace : place n < 2 ^ 63 := by
    rw [place]
    split
    · decide
    · rename_i hn
      have hle := log2_le hn hfits
      have hhigh := (filled_bounds hn hfits).2
      omega
  rw [floatRank, toNat_toBits_ofNat hfits]
  exact if_pos hplace

theorem place_lt_place {m n : Nat} (hlt : m < n) (hfits : n < 2 ^ 53) : place m < place n := by
  have hn : n ≠ 0 := by omega
  obtain ⟨hlow, hhigh⟩ := filled_bounds hn hfits
  rw [place, place, if_neg hn]
  split
  · omega
  · rename_i hm
    have hmfits : m < 2 ^ 53 := by omega
    obtain ⟨hmlow, hmhigh⟩ := filled_bounds hm hmfits
    have hdigits : m.log2 ≤ n.log2 :=
      (Nat.le_log2 hn).2 ((Nat.log2_self_le hm).trans hlt.le)
    rcases Nat.eq_or_lt_of_le hdigits with hsame | hmore
    · -- Numbers of as many digits are shifted alike.
      have hfilled : filled m < filled n := by
        rw [filled, filled, hsame]
        exact Nat.mul_lt_mul_of_pos_right hlt (Nat.two_pow_pos _)
      omega
    · omega

end WholeDouble

/-- Doubles that tell whole numbers exactly are in the order of the numbers. -/
theorem floatOrder_ofNat {m n : Nat} (hm : m < 2 ^ 53) (hn : n < 2 ^ 53) :
    floatOrder (Score.ofNat m) (Score.ofNat n) = compare m n := by
  rw [floatOrder, WholeDouble.floatRank_ofNat hm, WholeDouble.floatRank_ofNat hn]
  rcases Nat.lt_trichotomy m n with hlt | rfl | hgt
  · have hplace := WholeDouble.place_lt_place hlt hn
    rw [Std.compare_eq_lt.2 hlt, Std.compare_eq_lt.2 (by omega)]
  · rw [Std.compare_eq_iff_eq.2 rfl, Std.compare_eq_iff_eq.2 rfl]
  · have hplace := WholeDouble.place_lt_place hgt hm
    rw [Std.compare_eq_gt.2 hgt, Std.compare_eq_gt.2 (by omega)]

theorem ofNat_float_injective {m n : Nat} (hm : m < 2 ^ 53) (hn : n < 2 ^ 53)
    (h : (Score.ofNat m : Float) = Score.ofNat n) : m = n := by
  have hcompare : compare m n = .eq := by
    rw [← floatOrder_ofNat hm hn, h]
    exact Std.compare_eq_iff_eq.2 rfl
  exact Std.compare_eq_iff_eq.1 hcompare

end Recommendation
