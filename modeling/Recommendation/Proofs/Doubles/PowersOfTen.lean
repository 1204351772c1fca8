import Recommendation.Json.Numeral
import Recommendation.Proofs.Decimal.Shortest
import Recommendation.Proofs.Doubles.Sizes

/-!
Whole numbers that are scaled by powers of ten. A reader makes a double of the digits and one of the
power of ten and multiplies them, so it rounds three times, and the product of numbers just below
the end of the finite doubles may be infinite. It is finite for all digits that make no more than the
upper end of the second greatest double.
-/

namespace Recommendation.Doubles

open Float.Model Float.Model.UnpackedFloat
open Decimal (secondTop)
open Json (powerOfTen)

variable {x : Float}

theorem isInf_of_isFinite (hx : x.isFinite = true) : x.isInf = false := by
  change x.toModel.unpack.isFinite = true at hx
  change x.toModel.unpack.isInf = false
  generalize x.toModel.unpack = u at *
  cases u with
  | infinity s => cases hx
  | _ => rfl

/-- The powers of ten that are not kept are rounded to the nearest double. -/
theorem height_powerOfTen {n : ℕ} (hlow : 22 < n) (hhigh : n ≤ 2048) :
    (powerOfTen n).isNaN = false ∧ height (powerOfTen n) = nearestPlace (10 ^ n) := by
  have hten : 0 < 10 ^ n := Nat.pow_pos (by decide)
  have hshifted : 0 < 1 <<< 53 := by decide
  have hmodel : powerOfTen n = ⟨Float.Model.ofScientific 1 n⟩ := by
    rw [powerOfTen, Float.ofScientific, dif_neg (by omega)]
    rfl
  have hpower : UnpackedFloat.ofScientific .binary64 1 n =
      .mul .binary64 (.finite .positive (1 <<< 53) (-53) hshifted)
        (.finite .positive (10 ^ n) 0 hten) := by
    have hlarge : ¬(n : ℤ) > 2 ^ Format.binary64.exponentBits := by
      have : (2 : ℤ) ^ Format.binary64.exponentBits = 2048 := rfl
      omega
    have hsmall : ¬(n : ℤ) < -((2 ^ Format.binary64.exponentBits : ℤ) + Nat.log2 1) := by
      have : (2 : ℤ) ^ Format.binary64.exponentBits = 2048 := rfl
      omega
    rw [UnpackedFloat.ofScientific, dif_neg one_ne_zero, if_neg hlarge, if_neg hsmall,
      if_pos (Int.natCast_nonneg n)]
    simp only [Int.toNat_natCast]
    rfl
  have hunpack : (powerOfTen n).toModel.unpack =
      settled (.ofScientific .binary64 1 n) := by
    rw [hmodel]
    rfl
  rw [hpower] at hunpack
  have hroom : 2 ^ 52 ≤ 1 <<< 53 * 10 ^ n :=
    (by decide : 2 ^ 52 ≤ 1 <<< 53).trans (Nat.le_mul_of_pos_right _ hten)
  have hone : exact (1 <<< 53) (-53) = 1 := by
    refine (exact_shiftLeft 1 53 0).trans ?_
    rw [exact, zpow_zero, mul_one, Nat.cast_one]
  have hvalue : exact (10 ^ n) 0 = 10 ^ n := by
    rw [exact, zpow_zero, mul_one, Nat.cast_pow, Nat.cast_ofNat]
  have hsettles : SettlesAt (.mul .binary64 (.finite .positive (1 <<< 53) (-53) hshifted)
      (.finite .positive (10 ^ n) 0 hten))
      (nearestPlace (exact (1 <<< 53) (-53) * exact (10 ^ n) 0)) :=
    settlesAt_mul_of_room .positive .positive hshifted hten (.inl hroom)
  rw [hone, one_mul, hvalue] at hsettles
  exact hsettles.height hunpack

theorem powerOfTen_bounds {n : ℕ} (h : n ≤ 290) :
    0.0 ≤ powerOfTen n ∧ powerOfTen n ≤ powerOfTen 290 := by
  rcases Nat.lt_or_ge 22 n with hlarge | hsmall
  · obtain ⟨hnumber, hheight⟩ := height_powerOfTen hlarge (by omega)
    obtain ⟨hnumber', hheight'⟩ := height_powerOfTen (n := 290) (by decide) (by decide)
    have hpos : (0 : ℚ) < 10 ^ n := by positivity
    refine ⟨zero_le_iff.2 ⟨hnumber, ?_⟩, le_iff.2 ⟨hnumber, hnumber', ?_⟩⟩
    · rw [hheight]
      exact nearestPlace_nonneg hpos
    · rw [hheight, hheight']
      exact nearestPlace_mono hpos (pow_le_pow_right₀ (by norm_num) h)
  · have hkept : ∀ n ∈ List.range 23, 0.0 ≤ powerOfTen n ∧ powerOfTen n ≤ powerOfTen 290 := by
      decide +kernel
    exact hkept n (List.mem_range.2 (by omega))

/-- Digits that make no more than the upper end of the second greatest double make a finite one. -/
theorem isFinite_ofNat_mul_powerOfTen {c n : ℕ} (hdigits : c ≤ 10 ^ 17) (hn : n ≤ 308)
    (h : c * 10 ^ n ≤ secondTop) : ((Score.ofNat c : Float) * powerOfTen n).isFinite = true := by
  have hword {c : ℕ} (hc : c ≤ 10 ^ 17) : c < 2 ^ 64 := hc.trans_lt (by decide)
  obtain ⟨hfinite, hnonneg⟩ := ofNat_bounds (hword hdigits)
  -- The double of greater digits times a greater power of ten is finite, so this one is.
  have hbelow {c' : ℕ} {p : Float} (hc' : c' ≤ 10 ^ 17) (hle : c ≤ c')
      (hp : p.isFinite = true) (hpos : 0.0 ≤ powerOfTen n) (hle' : powerOfTen n ≤ p)
      (htop : ((Score.ofNat c' : Float) * p).isFinite = true) :
      ((Score.ofNat c : Float) * powerOfTen n).isFinite = true := by
    obtain ⟨hfinite', hnonneg'⟩ := ofNat_bounds (hword hc')
    refine isFinite_of_le htop ?_
      (mul_mono hnonneg hpos (ofNat_mono hle (hword hc')) hle' hp (.inl hfinite'))
    obtain ⟨hnumber, hheight⟩ := height_mul hfinite (isFinite_of_le hp hpos hle') hnonneg hpos
    refine zero_le_iff.2 ⟨hnumber, ?_⟩
    rw [hheight, ← roundedPlace_zero]
    exact roundedPlace_mono le_rfl (Rat.mul_nonneg (size_nonneg _) (size_nonneg _))
  rcases Nat.lt_or_ge 290 n with hlarge | hsmall
  · have hends : ∀ k ∈ List.range 18, (powerOfTen (k + 291)).isFinite = true ∧
        0.0 ≤ powerOfTen (k + 291) ∧
        ((Score.ofNat (min (10 ^ 17) (secondTop / 10 ^ (k + 291))) : Float) *
          powerOfTen (k + 291)).isFinite = true := by
      decide +kernel
    obtain ⟨hp, hpos, htop⟩ := hends (n - 291) (List.mem_range.2 (by omega))
    rw [Nat.sub_add_cancel hlarge] at hp hpos htop
    exact hbelow (min_le_left _ _)
      (le_min hdigits ((Nat.le_div_iff_mul_le (Nat.pow_pos (by decide))).2 h)) hp hpos
      (le_refl (isNaN_of_isFinite hp)) htop
  · obtain ⟨hpos, hle⟩ := powerOfTen_bounds hsmall
    have hp : (powerOfTen 290).isFinite = true := by decide +kernel
    have htop : ((Score.ofNat (10 ^ 17) : Float) * powerOfTen 290).isFinite = true := by
      decide +kernel
    exact hbelow le_rfl hdigits hp hpos hle htop

end Recommendation.Doubles
