import Recommendation.Proofs.Doubles.Sizes

/-!
Doubles that are scaled by shares of a whole. A product with a share does not exceed the other
factor, a number divided by one that is no smaller is a share or, of two infinite ones, no number at
all, and no finite double is so large that one more would make it infinite.
-/

namespace Recommendation.Doubles

open Float.Model Float.Model.UnpackedFloat

variable {x y z s : Float}

/-! ### Numbers -/

theorem isNaN_of_add_left (h : (x + y).isNaN = false) : x.isNaN = false := by
  have hsum : (x + y).toModel.unpack =
      settled (x.toModel.unpack.add .binary64 y.toModel.unpack) := rfl
  rw [isNaN_eq_false_iff] at h ⊢
  intro hx
  apply h
  rw [hsum, hx]
  cases y.toModel.unpack <;> exact settled_notANumber

theorem isNaN_of_lt (h : 0.0 < x) : x.isNaN = false := (zero_lt_iff.1 h).1

theorem pos_of_le (hx : 0.0 < x) (h : x ≤ y) : 0.0 < y := by
  obtain ⟨-, hnumber, hheight⟩ := le_iff.1 h
  exact zero_lt_iff.2 ⟨hnumber, (zero_lt_iff.1 hx).2.trans_le hheight⟩

theorem le_of_height_le (hx : x.isNaN = false) (hy : y.isNaN = false) (h : height x ≤ height y) :
    x ≤ y :=
  le_iff.2 ⟨hx, hy, h⟩

theorem le_zero_of_not_pos (hx : 0.0 ≤ x) (h : ¬0.0 < x) : x ≤ 0.0 := by
  obtain ⟨hnumber, -⟩ := zero_le_iff.1 hx
  exact le_of_height_le hnumber rfl (not_lt.1 fun hlt => h (zero_lt_iff.2 ⟨hnumber, hlt⟩))

/-! ### Sums -/

theorem le_add_of_nonneg (hx : 0.0 ≤ x) (hy : y.isFinite = true) (hnonneg : 0.0 ≤ y) :
    y ≤ x + y := by
  have hzero : (0.0 : Float).isFinite = true ∧ (0.0 : Float) ≤ 0.0 := by decide
  obtain ⟨hnumber, hheight⟩ := height_add hzero.1 hy hzero.2 hnonneg
  have hself : height y ≤ height (0.0 + y) := by
    have hsize : size 0.0 = 0 := rfl
    rw [hheight, hsize, zero_add, height_eq_roundedPlace hy hnonneg]
  exact le_of_le_of_le (le_of_height_le (isNaN_of_isFinite hy) hnumber hself)
    (add_mono hzero.2 hnonneg hx (le_refl (isNaN_of_isFinite hy)))

/-! ### Products -/

theorem mul_nonneg_of_isFinite (hx : x.isFinite = true) (hy : y.isFinite = true) (hnonneg : 0.0 ≤ x)
    (hnonneg' : 0.0 ≤ y) : 0.0 ≤ x * y := by
  obtain ⟨hnumber, hheight⟩ := height_mul hx hy hnonneg hnonneg'
  refine zero_le_iff.2 ⟨hnumber, ?_⟩
  rw [hheight, ← roundedPlace_zero]
  exact roundedPlace_mono le_rfl (Rat.mul_nonneg (size_nonneg x) (size_nonneg y))

/-- A product with a share does not exceed the other factor. -/
theorem mul_share_bounds (hx : x.isFinite = true) (hnonneg : 0.0 ≤ x) (hs : 0.0 ≤ s)
    (hs' : s ≤ 1.0) : 0.0 ≤ x * s ∧ x * s ≤ x := by
  have hone : (1.0 : Float).isFinite = true := rfl
  refine ⟨mul_nonneg_of_isFinite hx (isFinite_of_le hone hs hs') hnonneg hs, ?_⟩
  obtain ⟨hnumber, hheight⟩ := height_mul_one hnonneg
  have hself := le_of_height_le hnumber (isNaN_of_isFinite hx) hheight.le
  have hless := mul_mono hnonneg hs (le_refl (isNaN_of_isFinite hx)) hs' hone (.inl hx)
  exact le_of_le_of_le hless hself

theorem le_mul_of_one_le (hx : 0.0 ≤ x) (hy : y.isFinite = true) (h : 1.0 ≤ y) : x ≤ x * y := by
  obtain ⟨hnumber, hheight⟩ := height_mul_one hx
  have hself := le_refl (zero_le_iff.1 hx).1
  exact le_of_le_of_le (le_of_height_le (zero_le_iff.1 hx).1 hnumber hheight.ge)
    (mul_mono hx (by decide) hself h hy (.inr (by decide)))

/-! ### Quotients -/

/-- What is divided by infinity comes to nought, unless it is infinite itself. -/
theorem height_div_infinity (hy : y.toModel.unpack = .infinity .positive) (hx : 0.0 ≤ x)
    (hnumber : (x / y).isNaN = false) : height (x / y) = 0 := by
  have hquotient : (x / y).toModel.unpack =
      settled (x.toModel.unpack.div .binary64 y.toModel.unpack) := rfl
  rw [hy] at hquotient
  obtain ⟨hnumber', hheight⟩ := zero_le_iff.1 hx
  rcases cases_of_place_nonneg (isStandard x) (isNaN_eq_false_iff.1 hnumber') hheight with
    ⟨s, hs⟩ | hinfinite | ⟨m, e, hm, hfinite⟩
  · rw [hs] at hquotient
    exact ((settlesAt_zero _).height hquotient).2
  · rw [hinfinite] at hquotient
    exact absurd (hquotient.trans settled_notANumber) (isNaN_eq_false_iff.1 hnumber)
  · rw [hfinite] at hquotient
    exact ((settlesAt_zero _).height hquotient).2

/-- The share of a double in a larger one lies between nought and one, if it is a number. -/
theorem share_bounds_of_number (hpos : 0.0 < y) (hx : 0.0 ≤ x) (h : x ≤ y)
    (hnumber : (x / y).isNaN = false) : 0.0 ≤ x / y ∧ x / y ≤ 1.0 := by
  cases hy : y.isFinite with
  | true => exact share_bounds hy hpos hx h
  | false =>
      have hheight := height_div_infinity (eq_infinity (le_of_lt hpos) hy) hx hnumber
      refine ⟨zero_le_iff.2 ⟨hnumber, hheight.ge⟩, le_of_height_le hnumber rfl ?_⟩
      rw [hheight, height_one]
      decide

/-! ### One more -/

theorem height_greatest : height 1.7976931348623157e308 = 2047 * 2 ^ 52 - 1 := by decide +kernel

theorem le_greatest (hx : x.isFinite = true) : x ≤ 1.7976931348623157e308 := by
  obtain ⟨hnumber, -, hhigh⟩ := isFinite_iff.1 hx
  refine le_of_height_le hnumber (by decide +kernel) ?_
  rw [height_greatest]
  omega

theorem isFinite_one_add (hx : x.isFinite = true) (hnonneg : 0.0 ≤ x) :
    (1.0 + x).isFinite = true ∧ 1.0 ≤ 1.0 + x := by
  have hfinite : ((1.0 : Float) + 1.7976931348623157e308).isFinite = true := by decide +kernel
  have hone : (0.0 : Float) ≤ 1.0 := by decide
  exact ⟨isFinite_of_le hfinite (add_nonneg hone hnonneg)
    (add_mono hone hnonneg (le_refl rfl) (le_greatest hx)), le_add (by decide) hnonneg⟩

end Recommendation.Doubles
