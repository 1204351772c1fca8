import Mathlib.Algebra.Order.Field.Rat
import Recommendation.Score

/-!
Scores as exact fractions. Over them the operations of scores are those of ordered
fields, so that a positive factor goes through every comparison.
-/

namespace Recommendation.Score

@[simp] theorem isPositive_rat (x : Rat) : isPositive x = decide (0 < x) := rfl

@[simp] theorem below_rat (x y : Rat) : below x y = decide (x < y) := rfl

@[simp] theorem zero_rat : (zero : Rat) = 0 := rfl

theorem order_rat (x y : Rat) :
    order x y = if x < y then .lt else if y < x then .gt else .eq := rfl

section Factor

variable {c : Rat} (hc : 0 < c)
include hc

theorem below_mul (x y : Rat) : below (c * x) (c * y) = below x y := by
  simp [mul_lt_mul_iff_right₀ hc]

theorem isPositive_mul (x : Rat) : isPositive (c * x) = isPositive x := by
  simp [mul_pos_iff_of_pos_left hc]

theorem order_mul (x y : Rat) : order (c * x) (c * y) = order x y := by
  simp only [order_rat, mul_lt_mul_iff_right₀ hc]

theorem larger_mul (x y : Rat) : larger (c * x) (c * y) = c * larger x y := by
  rw [larger, larger, below_mul hc]
  split <;> rfl

theorem largest_map_mul (xs : List Rat) : largest (xs.map (c * ·)) = c * largest xs := by
  have hfoldl : ∀ (xs : List Rat) (x : Rat),
      (xs.map (c * ·)).foldl larger (c * x) = c * xs.foldl larger x := by
    intro xs
    induction xs with
    | nil => intro x; rfl
    | cons y rest ih =>
        intro x
        rw [List.map_cons, List.foldl_cons, larger_mul hc, ih, List.foldl_cons]
  have hzero := hfoldl xs zero
  rw [zero_rat, mul_zero] at hzero
  exact hzero

end Factor

end Recommendation.Score
