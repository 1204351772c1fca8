import Mathlib.Algebra.Order.Field.Power
import Mathlib.Algebra.Order.Field.Rat
import Mathlib.Tactic.Linarith
import Mathlib.Tactic.NormNum
import Mathlib.Tactic.Positivity
import Mathlib.Tactic.Ring
import Mathlib.Tactic.Tauto
import Recommendation.Decimal.Shortest

/-!
What the shortest decimal of a double is like. It has seventeen digits at most, and it does not lie
beyond the upper end of the interval of the numbers that round to the double, which is half a unit
of the last place above it.
-/

namespace Recommendation.Decimal

/-! ### Digits -/

theorem length_repr (n : ℕ) : n.repr.length = (Nat.toDigits 10 n).length := by
  rw [Nat.repr_eq_ofList_toDigits, String.length_ofList]

theorem lt_pow_length_repr (n : ℕ) : n < 10 ^ n.repr.length := by
  rw [length_repr]
  exact (Nat.length_toDigits_le_iff (by decide) Nat.length_toDigits_pos).1 le_rfl

theorem length_repr_eq {n k : ℕ} (hlow : 10 ^ k ≤ n) (hhigh : n < 10 ^ (k + 1)) :
    n.repr.length = k + 1 := by
  have hle : n.repr.length ≤ k + 1 := by
    rw [length_repr]
    exact (Nat.length_toDigits_le_iff (by decide) (Nat.succ_pos k)).2 hhigh
  have hlt : k < n.repr.length :=
    (Nat.pow_lt_pow_iff_right (by decide)).1 (hlow.trans_lt (lt_pow_length_repr n))
  omega

theorem roundHalfEven_cases (num den : ℕ) :
    roundHalfEven num den = num / den ∨ roundHalfEven num den = num / den + 1 := by
  simp only [roundHalfEven]
  split_ifs <;> tauto

namespace Shortest

def value (d : Shortest) : ℚ := d.coefficient * 10 ^ d.exponent

theorem stripped_spec (d : Shortest) : d.stripped.value = d.value ∧
    d.stripped.coefficient ≤ d.coefficient ∧ d.exponent ≤ d.stripped.exponent ∧
    (d.stripped.coefficient = 0 → d.coefficient = 0) := by
  induction d using stripped.induct with
  | case1 d h ih =>
      obtain ⟨hvalue, hcoefficient, hexponent, hzero⟩ := ih
      dsimp only at hcoefficient hexponent hzero
      rw [stripped, dif_pos h]
      refine ⟨hvalue.trans ?_, by omega, by omega, fun h' => by have := hzero h'; omega⟩
      have hdigits : d.coefficient = d.coefficient / 10 * 10 := by omega
      conv_rhs => rw [value, hdigits]
      rw [value, zpow_add_one₀ (by norm_num)]
      push_cast
      ring
  | case2 d h =>
      rw [stripped, dif_neg h]
      exact ⟨rfl, le_rfl, le_rfl, id⟩

end Shortest

/-! ### Intervals -/

namespace Interval

variable {i : Interval} {n : ℕ} {d : Shortest}

theorem le_of_contains {up down c : ℕ} (h : i.contains up down c = true) :
    i.low * down ≤ c * up * i.den ∧ c * up * i.den ≤ i.high * down := by
  simp only [contains] at h
  split at h <;> simp only [Bool.and_eq_true, decide_eq_true_eq] at h <;> omega

/-- The neighbour of the value among the multiples of a power of ten. -/
def onGrid? (i : Interval) (exponent : ℤ) : Option Shortest :=
  let up := Nat.pow 10 exponent.toNat
  let down := Nat.pow 10 (-exponent).toNat
  let c := i.value * down / (up * i.den)
  match i.contains up down c, i.contains up down (c + 1) with
  | false, false => none
  | true, false => some ⟨c, exponent⟩
  | false, true => some ⟨c + 1, exponent⟩
  | true, true => some ⟨roundHalfEven (i.value * down) (up * i.den), exponent⟩

theorem withDigits?_eq (i : Interval) (n : ℕ) : i.withDigits? n = i.onGrid? (i.place - n) := rfl

theorem of_onGrid? {exponent : ℤ} (h : i.onGrid? exponent = some d) : d.exponent = exponent ∧
    i.contains (10 ^ d.exponent.toNat) (10 ^ (-d.exponent).toNat) d.coefficient = true ∧
    d.coefficient ≤
      i.value * 10 ^ (-d.exponent).toNat / (10 ^ d.exponent.toNat * i.den) + 1 := by
  simp only [onGrid?, Nat.pow_eq] at h
  split at h
  · cases h
  · rename_i hfloor _
    cases h
    exact ⟨rfl, hfloor, Nat.le_succ _⟩
  · rename_i _ hnext
    cases h
    exact ⟨rfl, hnext, le_rfl⟩
  · rename_i hfloor hnext
    cases h
    dsimp only
    rcases roundHalfEven_cases (i.value * 10 ^ (-exponent).toNat) (10 ^ exponent.toNat * i.den) with
      hround | hround <;> rw [hround]
    · exact ⟨rfl, hfloor, Nat.le_succ _⟩
    · exact ⟨rfl, hnext, le_rfl⟩

theorem exists_place_eq (i : Interval) : ∃ places : ℕ, places = 400 ∧
    i.place = ((i.value * 10 ^ places / i.den).repr.length : ℤ) - places := by
  obtain ⟨places, hplaces⟩ : ∃ places : ℕ, places = 400 := ⟨400, rfl⟩
  have hcast : (400 : ℤ) = places := by rw [hplaces]; rfl
  refine ⟨places, hplaces, ?_⟩
  rw [place, hcast, ← hplaces]
  rfl

theorem le_place (i : Interval) : -400 ≤ i.place := by
  rw [place]
  omega

theorem value_lt (hden : 0 < i.den) {exponent : ℤ} (hexponent : exponent = i.place - n) :
    i.value * 10 ^ (-exponent).toNat / (10 ^ exponent.toNat * i.den) < 10 ^ n := by
  obtain ⟨places, -, hplace⟩ := i.exists_place_eq
  have hdigits := lt_pow_length_repr (i.value * 10 ^ places / i.den)
  rw [Nat.div_lt_iff_lt_mul hden] at hdigits
  generalize (i.value * 10 ^ places / i.den).repr.length = length at *
  have hpowers : exponent.toNat + n + places = (-exponent).toNat + length := by omega
  rw [Nat.div_lt_iff_lt_mul (Nat.mul_pos (Nat.pow_pos (by decide)) hden)]
  refine Nat.lt_of_mul_lt_mul_right (a := 10 ^ places) ?_
  calc i.value * 10 ^ (-exponent).toNat * 10 ^ places
      = 10 ^ (-exponent).toNat * (i.value * 10 ^ places) := by ring
    _ < 10 ^ (-exponent).toNat * (10 ^ length * i.den) :=
        Nat.mul_lt_mul_of_pos_left hdigits (Nat.pow_pos (by decide))
    _ = 10 ^ ((-exponent).toNat + length) * i.den := by ring
    _ = 10 ^ n * (10 ^ exponent.toNat * i.den) * 10 ^ places := by rw [← hpowers]; ring

structure Holds (i : Interval) (n : ℕ) (d : Shortest) : Prop where
  positive : 0 < d.coefficient
  digits : d.coefficient ≤ 10 ^ n
  exponent : d.exponent = i.place - n
  bound : d.value ≤ (i.high : ℚ) / i.den

theorem value_eq (d : Shortest) :
    d.value * 10 ^ (-d.exponent).toNat = d.coefficient * 10 ^ d.exponent.toNat := by
  have hpower : (10 : ℚ) ^ d.exponent * 10 ^ (-d.exponent).toNat = 10 ^ d.exponent.toNat := by
    rw [← zpow_natCast, ← zpow_natCast, ← zpow_add₀ (by norm_num)]
    congr 1
    omega
  rw [Shortest.value, mul_assoc, hpower]

theorem value_le_div_iff (hden : 0 < i.den) (d : Shortest) (n : ℕ) :
    d.value ≤ (n : ℚ) / i.den ↔
      d.coefficient * 10 ^ d.exponent.toNat * i.den ≤ n * 10 ^ (-d.exponent).toNat := by
  have hdown : (0 : ℚ) < 10 ^ (-d.exponent).toNat := by positivity
  rw [le_div_iff₀ (by exact_mod_cast hden), ← mul_le_mul_iff_left₀ hdown, mul_right_comm, value_eq]
  exact_mod_cast Iff.rfl

theorem div_le_value_iff (hden : 0 < i.den) (d : Shortest) (n : ℕ) :
    (n : ℚ) / i.den ≤ d.value ↔
      n * 10 ^ (-d.exponent).toNat ≤ d.coefficient * 10 ^ d.exponent.toNat * i.den := by
  have hdown : (0 : ℚ) < 10 ^ (-d.exponent).toNat := by positivity
  rw [div_le_iff₀ (by exact_mod_cast hden), ← mul_le_mul_iff_left₀ hdown, mul_right_comm d.value,
    value_eq]
  exact_mod_cast Iff.rfl

theorem holds_of_withDigits? (hden : 0 < i.den) (hlow : 0 < i.low)
    (h : i.withDigits? n = some d) : i.Holds n d := by
  obtain ⟨hexponent, hcontains, hnext⟩ := of_onGrid? h
  obtain ⟨hge, hle⟩ := le_of_contains hcontains
  have hdown : 0 < 10 ^ (-d.exponent).toNat := Nat.pow_pos (by decide)
  refine ⟨Nat.pos_of_ne_zero fun hzero => ?_, ?_, hexponent, ?_⟩
  · rw [hzero, Nat.zero_mul, Nat.zero_mul] at hge
    exact absurd (Nat.mul_pos hlow hdown) (by omega)
  · have hfloor := value_lt hden hexponent
    omega
  · exact (value_le_div_iff hden d i.high).2 hle

theorem of_shortestFrom {fuel : ℕ} (h : i.shortestFrom fuel n = d) :
    d = ⟨0, 0⟩ ∨ ∃ n', n' < n + fuel ∧ i.withDigits? n' = some d := by
  induction fuel generalizing n with
  | zero => exact .inl h.symm
  | succ fuel ih =>
      rw [shortestFrom] at h
      split at h
      · rename_i d' hd'
        exact .inr ⟨n, by omega, h ▸ hd'⟩
      · obtain hnone | ⟨n', hn', hd'⟩ := ih h
        · exact .inl hnone
        · exact .inr ⟨n', by omega, hd'⟩

theorem shortestFrom_eq {fuel m : ℕ} (hm : m < n + fuel) (hn : n ≤ m)
    (hnone : ∀ n', n ≤ n' → n' < m → i.withDigits? n' = none) (hd : i.withDigits? m = some d) :
    i.shortestFrom fuel n = d := by
  induction fuel generalizing n with
  | zero => omega
  | succ fuel ih =>
      rw [shortestFrom]
      rcases hn.lt_or_eq with hlt | rfl
      · rw [hnone n le_rfl hlt]
        exact ih (by omega) hlt fun n' hn' => hnone n' (Nat.le_of_succ_le hn')
      · rw [hd]

end Interval

/-! ### Doubles -/

/-- The upper end of what rounds to the second greatest double. -/
def secondTop : ℕ := (2 ^ 54 - 3) * 2 ^ 970

theorem secondTop_eq : (secondTop : ℚ) = (2 ^ 54 - 3) * 2 ^ (970 : ℤ) := by
  have hcast (a k : ℕ) : ((a * 2 ^ k : ℕ) : ℚ) = a * 2 ^ (k : ℤ) := by
    push_cast
    rw [zpow_natCast]
  have hdigits : ((2 ^ 54 - 3 : ℕ) : ℚ) = 2 ^ 54 - 3 := by norm_num
  have hexponent : ((970 : ℕ) : ℤ) = 970 := rfl
  rw [← hdigits, ← hexponent, ← hcast]
  rfl

namespace Binary

variable {b : Binary}

/-- A double has no more digits than there is room for, and no fewer unless its exponent is the
least one. -/
structure Canonical (b : Binary) : Prop where
  wide : b.mantissa < 2 ^ 53
  low : -1074 ≤ b.exponent
  high : b.exponent ≤ 971
  full : 2 ^ 52 ≤ b.mantissa ∨ b.exponent = -1074

theorem scale_eq (b : Binary) : (2 : ℚ) ^ b.exponent * 2 ^ (2 - b.exponent).toNat =
    4 * 2 ^ (b.exponent - 2).toNat := by
  have hfour : (4 : ℚ) = 2 ^ (2 : ℤ) := by norm_num
  rw [hfour, ← zpow_natCast, ← zpow_natCast, ← zpow_add₀ two_ne_zero, ← zpow_add₀ two_ne_zero]
  congr 1
  omega

/-- The numbers that round to a double end half a unit of the last place above it. -/
theorem interval_high (b : Binary) :
    (b.interval.high : ℚ) / b.interval.den = (b.mantissa + 1 / 2) * 2 ^ b.exponent := by
  have hden : ((2 : ℚ) ^ (2 - b.exponent).toNat) ≠ 0 := by positivity
  rw [interval]
  simp only [Nat.pow_eq]
  push_cast
  rw [div_eq_iff hden, mul_assoc, scale_eq]
  ring

theorem interval_pos (hm : 0 < b.mantissa) : 0 < b.interval.den ∧ 0 < b.interval.low := by
  have hbelow : (if b.mantissa = 0x10000000000000 ∧ -1074 < b.exponent then 1 else 2) ≤ 2 := by
    split <;> omega
  refine ⟨Nat.pow_pos (by decide), Nat.mul_pos ?_ (Nat.pow_pos (by decide))⟩
  omega

/-- What is written for a double: seventeen digits at most, which make no more than the upper end of
what rounds to it. -/
theorem shortest_spec (b : Binary) : b.shortest.coefficient ≤ 10 ^ 17 ∧
    (b.shortest.coefficient = 0 → b.shortest.exponent = 0) ∧ -417 ≤ b.shortest.exponent ∧
    b.shortest.value ≤ (b.mantissa + 1 / 2) * 2 ^ b.exponent := by
  have hnonneg : (Shortest.mk 0 0).value ≤ (b.mantissa + 1 / 2) * 2 ^ b.exponent := by
    rw [Shortest.value, Nat.cast_zero, zero_mul]
    positivity
  rw [shortest]
  split
  · exact ⟨Nat.zero_le _, fun _ => rfl, by decide, hnonneg⟩
  · rename_i hm
    obtain ⟨hden, hlow⟩ := interval_pos (Nat.pos_of_ne_zero hm)
    obtain ⟨hvalue, hcoefficient, hexponent, hzero⟩ :=
      (b.interval.shortestFrom 17 1).stripped_spec
    obtain hnone | ⟨n, hn, hd⟩ := Interval.of_shortestFrom (d := b.interval.shortestFrom 17 1) rfl
    · rw [hnone, Shortest.stripped, dif_neg (by decide)]
      exact ⟨Nat.zero_le _, fun _ => rfl, by decide, hnonneg⟩
    · have hholds := Interval.holds_of_withDigits? hden hlow hd
      have hplace := b.interval.le_place
      have hdigits : 10 ^ n ≤ 10 ^ 17 := Nat.pow_le_pow_right (by decide) (by omega)
      refine ⟨hcoefficient.trans (hholds.digits.trans hdigits), fun h => ?_, ?_, ?_⟩
      · exact absurd hholds.positive (by rw [hzero h]; exact lt_irrefl 0)
      · have := hholds.exponent
        omega
      · rw [hvalue, ← interval_high]
        exact hholds.bound

/-! ### The greatest double -/

/-- A double other than the greatest has no numbers beyond the end of the second greatest. -/
theorem le_secondTop (hmantissa : b.mantissa < 2 ^ 53) (hexponent : b.exponent ≤ 971)
    (hne : ¬(b.mantissa = 2 ^ 53 - 1 ∧ b.exponent = 971)) :
    ((b.mantissa : ℚ) + 1 / 2) * 2 ^ b.exponent ≤ secondTop := by
  rw [secondTop_eq]
  rcases hexponent.lt_or_eq with hlt | heq
  · have hle : (b.mantissa : ℚ) ≤ 2 ^ 53 := by exact_mod_cast hmantissa.le
    have hle' : (b.mantissa : ℚ) + 1 / 2 ≤ 2 ^ 54 - 3 := by linarith
    exact mul_le_mul hle' (zpow_le_zpow_right₀ one_le_two (by omega)) (by positivity) (by norm_num)
  · have hle : (b.mantissa : ℚ) + 2 ≤ 2 ^ 53 := by
      have hle' : b.mantissa + 2 ≤ 2 ^ 53 := by omega
      exact_mod_cast hle'
    have hpower : (2 : ℚ) ^ (971 : ℤ) = 2 * 2 ^ (970 : ℤ) := by
      rw [← zpow_one_add₀ two_ne_zero]
      norm_num
    rw [heq, hpower, ← mul_assoc]
    exact mul_le_mul_of_nonneg_right (by linarith) (by positivity)

def greatest (negative : Bool) : Binary := ⟨negative, 0x1fffffffffffff, 971⟩

theorem place_greatest (negative : Bool) : (greatest negative).interval.place = 309 := by
  have hlength : ((greatest negative).interval.value * Nat.pow 10 400 /
      (greatest negative).interval.den).repr.length = 709 := by
    refine length_repr_eq ?_ ?_
    · cases negative <;> decide +kernel
    · cases negative <;> decide +kernel
  rw [Interval.place, hlength]
  rfl

theorem shortest_greatest (negative : Bool) :
    (greatest negative).shortest = ⟨17976931348623157, 292⟩ := by
  have hgrid : (greatest negative).interval.onGrid? 292 = some ⟨17976931348623157, 292⟩ := by
    cases negative <;> decide +kernel
  have hcoarse : ∀ n ∈ List.range 17, 1 ≤ n →
      (greatest negative).interval.onGrid? (309 - n) = none := by
    cases negative <;> decide +kernel
  have hnone (n : ℕ) (hn : 1 ≤ n) (hlt : n < 17) :
      (greatest negative).interval.withDigits? n = none := by
    rw [Interval.withDigits?_eq, place_greatest]
    exact hcoarse n (List.mem_range.2 hlt) hn
  have hsome : (greatest negative).interval.withDigits? 17 = some ⟨17976931348623157, 292⟩ := by
    rw [Interval.withDigits?_eq, place_greatest]
    exact hgrid
  have hpositive : ¬(greatest negative).mantissa = 0 := Nat.succ_ne_zero _
  rw [shortest, if_neg hpositive, Interval.shortestFrom_eq (by decide) (by decide) hnone hsome,
    Shortest.stripped, dif_neg (by decide)]

end Binary

theorem canonical_of_read {x : Float} {b : Binary} (h : read x = .finite b) : b.Canonical := by
  rw [read] at h
  split_ifs at h <;> cases h
  · exact ⟨by dsimp only; omega, by dsimp only; omega, by dsimp only; omega, .inr rfl⟩
  · exact ⟨by dsimp only; omega, by dsimp only; omega, by dsimp only; omega,
      .inl (by dsimp only; omega)⟩

end Recommendation.Decimal
