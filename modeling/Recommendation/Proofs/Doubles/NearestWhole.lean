import Recommendation.Decimal.Binary
import Recommendation.Proofs.Doubles.Sizes

/-!
The bits of a double and the whole number nearest to it. What is read off the bits of a
finite double is its size, so the nearest whole number is that of the size, as far as 64
bits go, and does not fall when the double grows.
-/

namespace Recommendation.Doubles

open Float.Model Float.Model.UnpackedFloat

/-! ### What the bits say -/

def binaryOf (s : Sign) (e : BitVec 11) (m : BitVec 52) : Decimal.Binary :=
  if e.toNat = 0 then ⟨s == .negative, m.toNat, -1074⟩
  else ⟨s == .negative, m.toNat + 2 ^ 52, (e.toNat : ℤ) - 1075⟩

theorem read_eq {x : Float} {s : Sign} {e : BitVec 11} {m : BitVec 52}
    (hbits : x.toModel.toBits.toBitVec = packComponents .binary64 s e m) :
    Decimal.read x =
      if e.toNat = 2047 then if m.toNat = 0 then .infinite (s == .negative) else .nan
      else .finite (binaryOf s e m) := by
  have hnat : x.toBits.toNat = s.toBitVec.toNat * 2 ^ 63 + e.toNat * 2 ^ 52 + m.toNat := by
    rw [← toNat_packComponents, ← hbits]
    rfl
  have he : e.toNat < 2 ^ 11 := e.isLt
  have hm : m.toNat < 2 ^ 52 := m.isLt
  have hs : s.toBitVec.toNat < 2 := s.toBitVec.isLt
  have hfield : x.toBits.toNat / 0x10000000000000 % 0x800 = e.toNat := by omega
  have hfraction : x.toBits.toNat % 0x10000000000000 = m.toNat := by omega
  have hnegative : decide (0x8000000000000000 ≤ x.toBits.toNat) = (s == .negative) := by
    have hsign : 0x8000000000000000 ≤ x.toBits.toNat ↔ s.toBitVec.toNat = 1 := by omega
    rw [decide_eq_decide.2 hsign]
    cases s <;> rfl
  simp only [Decimal.read, hfield, hfraction, hnegative, binaryOf]
  split_ifs <;> rfl

theorem unpackedSize_unpack (s : Sign) (e : BitVec 11) (m : BitVec 52)
    (hfinite : (UnpackedFloat.unpack .binary64 (packComponents .binary64 s e m)).isFinite = true) :
    e.toNat ≠ 2047 ∧
      unpackedSize (UnpackedFloat.unpack .binary64 (packComponents .binary64 s e m)) =
        exact (binaryOf s e m).mantissa (binaryOf s e m).exponent := by
  revert hfinite
  rw [UnpackedFloat.unpack]
  simp only [unpackMantissa_packComponents, unpackExponent_packComponents,
    unpackSign_packComponents, Sign.ofBitVec_toBitVec]
  split
  · split <;> nofun
  · rename_i hordinary
    have hfield : e.toNat ≠ 2047 := fun h => hordinary (BitVec.eq_of_toNat_eq h)
    refine fun _ => ⟨hfield, ?_⟩
    split
    · rename_i hzero
      subst hzero
      split
      · rename_i hnone
        subst hnone
        simp [binaryOf, exact, unpackedSize_zero]
      · rw [unpackedSize_finite, exponentBias_add]
        rfl
    · rename_i hnonzero
      have hpos : e.toNat ≠ 0 := fun h => hnonzero (BitVec.eq_of_toNat_eq h)
      rw [unpackedSize_finite, exponentBias_add, toNat_implicit_append, binaryOf, if_neg hpos,
        Nat.add_comm]

theorem height_packed {x : Float} {s : Sign} {e : BitVec 11} {m : BitVec 52}
    (hbits : x.toModel.toBits.toBitVec = packComponents .binary64 s e m) (hx : x.isNaN = false) :
    height x = s.apply (e.toNat * 2 ^ 52 + m.toNat) := by
  have hunpack : x.toModel.unpack = .unpack .binary64 (packComponents .binary64 s e m) := by
    rw [← hbits]
    rfl
  rw [height, hunpack]
  exact place_unpack_packComponents s e m (hunpack ▸ isNaN_eq_false_iff.1 hx)

/-- A finite double is read as digits that make its size. Those of a double that is not below
nought have no sign, unless they are nought. -/
theorem exists_read_eq {x : Float} (hx : x.isFinite = true) :
    ∃ b, Decimal.read x = .finite b ∧ size x = exact b.mantissa b.exponent ∧
      (0.0 ≤ x → b.negative = true → b.mantissa = 0) := by
  obtain ⟨s, e, m, hbits⟩ := exists_eq_packComponents x.toModel.toBits.toBitVec
  have hunpack : x.toModel.unpack = .unpack .binary64 (packComponents .binary64 s e m) := by
    rw [← hbits]
    rfl
  have hheight := height_packed hbits (isNaN_of_isFinite hx)
  have hfinite : x.toModel.unpack.isFinite = true := hx
  rw [hunpack] at hfinite
  obtain ⟨hfield, hsize⟩ := unpackedSize_unpack s e m hfinite
  refine ⟨binaryOf s e m, ?_, ?_, fun hnonneg hnegative => ?_⟩
  · rw [read_eq hbits, if_neg hfield]
  · rw [size, hunpack, hsize]
  · have hlow := (zero_le_iff.1 hnonneg).2
    cases s with
    | positive =>
        rw [binaryOf] at hnegative
        split at hnegative <;> cases hnegative
    | negative =>
        have hnone : e.toNat = 0 ∧ m.toNat = 0 := by
          rw [hheight, Sign.apply] at hlow
          omega
        rw [binaryOf, if_pos hnone.1]
        exact hnone.2

theorem isFinite_of_read {x : Float} {b : Decimal.Binary} (h : Decimal.read x = .finite b) :
    x.isFinite = true := by
  obtain ⟨s, e, m, hbits⟩ := exists_eq_packComponents x.toModel.toBits.toBitVec
  have hunpack : x.toModel.unpack = .unpack .binary64 (packComponents .binary64 s e m) := by
    rw [← hbits]
    rfl
  have hfield : e.toNat ≠ 2047 := by
    intro hinfinite
    rw [read_eq hbits, if_pos hinfinite] at h
    split at h <;> cases h
  change x.toModel.unpack.isFinite = true
  rw [hunpack, UnpackedFloat.unpack]
  simp only [unpackMantissa_packComponents, unpackExponent_packComponents,
    unpackSign_packComponents, Sign.ofBitVec_toBitVec]
  split
  · rename_i hones
    exact absurd (congrArg BitVec.toNat hones) hfield
  · split
    · split <;> rfl
    · rfl

/-! ### The nearest whole number -/

theorem ratio_eq (b : Decimal.Binary) :
    0 < b.ratio.2 ∧ (b.ratio.1 : ℚ) / b.ratio.2 = exact b.mantissa b.exponent := by
  rw [Decimal.Binary.ratio, exact]
  split_ifs with hexponent
  · refine ⟨one_pos, ?_⟩
    have hpower : ((b.exponent.toNat : ℕ) : ℤ) = b.exponent := Int.toNat_of_nonneg hexponent
    have hzpow : (2 : ℚ) ^ b.exponent = 2 ^ b.exponent.toNat := by rw [← zpow_natCast, hpower]
    rw [hzpow]
    simp
  · refine ⟨Nat.pow_pos two_pos, ?_⟩
    have hpower : (((-b.exponent).toNat : ℕ) : ℤ) = -b.exponent := Int.toNat_of_nonneg (by omega)
    have hzpow : (2 : ℚ) ^ b.exponent = (2 ^ (-b.exponent).toNat)⁻¹ := by
      rw [← zpow_natCast, hpower, zpow_neg, inv_inv]
    rw [hzpow, ← div_eq_mul_inv]
    simp

theorem roundHalfUp_eq_floor (num : ℕ) {den : ℕ} (hden : 0 < den) :
    Decimal.roundHalfUp num den = ⌊(num : ℚ) / den + 1 / 2⌋₊ := by
  have hden' : (den : ℚ) ≠ 0 := by exact_mod_cast hden.ne'
  have hratio : (num : ℚ) / den + 1 / 2 = ((2 * num + den : ℕ) : ℚ) / ((2 * den : ℕ) : ℚ) := by
    push_cast
    field_simp
  rw [hratio, Nat.floor_div_eq_div]
  rfl

/-- The whole number nearest to a double that is finite and not below nought, within 64 bits. -/
theorem nearestInt64_eq {x : Float} (hx : x.isFinite = true) (hnonneg : 0.0 ≤ x) :
    Decimal.nearestInt64 x = min (⌊size x + 1 / 2⌋₊ : ℤ) (2 ^ 63 - 1) := by
  obtain ⟨b, hread, hsize, hsign⟩ := exists_read_eq hx
  obtain ⟨hden, hratio⟩ := ratio_eq b
  have hwhole : Decimal.roundHalfUp b.ratio.1 b.ratio.2 = ⌊size x + 1 / 2⌋₊ := by
    rw [roundHalfUp_eq_floor _ hden, hratio, hsize]
  have hsigned : (if b.negative then -(⌊size x + 1 / 2⌋₊ : ℤ) else ⌊size x + 1 / 2⌋₊) =
      ⌊size x + 1 / 2⌋₊ := by
    split_ifs with hnegative
    · have hzero : size x = 0 := by
        rw [hsize, hsign hnonneg hnegative, exact, Nat.cast_zero, zero_mul]
      norm_num [hzero]
    · rfl
  simp only [Decimal.nearestInt64, hread, hwhole, hsigned, Decimal.clamp]
  split_ifs <;> omega

theorem nearestInt64_of_infinite {x : Float} (hnonneg : 0.0 ≤ x) (hx : x.isFinite = false) :
    Decimal.nearestInt64 x = 2 ^ 63 - 1 := by
  obtain ⟨s, e, m, hbits⟩ := exists_eq_packComponents x.toModel.toBits.toBitVec
  have hheight := height_packed hbits (zero_le_iff.1 hnonneg).1
  have htop : height x = 2047 * 2 ^ 52 := by
    rw [height, eq_infinity hnonneg hx]
    rfl
  have he : e.toNat < 2 ^ 11 := e.isLt
  have hm : m.toNat < 2 ^ 52 := m.isLt
  rw [htop] at hheight
  cases s with
  | negative =>
      rw [Sign.apply] at hheight
      omega
  | positive =>
      have hfields : e.toNat = 2047 ∧ m.toNat = 0 := by
        rw [Sign.apply] at hheight
        omega
      rw [Decimal.nearestInt64, read_eq hbits, if_pos hfields.1, if_pos hfields.2]
      rfl

theorem nearestInt64_mono {x y : Float} (hnonneg : 0.0 ≤ x) (h : x ≤ y) :
    Decimal.nearestInt64 x ≤ Decimal.nearestInt64 y := by
  have hnonneg' := le_of_le_of_le hnonneg h
  cases hy : y.isFinite with
  | true =>
      have hx := isFinite_of_le hy hnonneg h
      rw [nearestInt64_eq hx hnonneg, nearestInt64_eq hy hnonneg']
      have hsize := size_le hx hy hnonneg h
      exact min_le_min_right _ (by exact_mod_cast Nat.floor_mono (by linarith))
  | false =>
      rw [nearestInt64_of_infinite hnonneg' hy]
      cases hx : x.isFinite with
      | true =>
          rw [nearestInt64_eq hx hnonneg]
          exact min_le_right _ _
      | false => exact (nearestInt64_of_infinite hnonneg hx).le

end Recommendation.Doubles
