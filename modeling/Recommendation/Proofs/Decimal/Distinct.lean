import Recommendation.Proofs.Decimal.Shortest

/-!
Different doubles have different shortest decimals. Decimals of seventeen digits lie closer together
than the ends of the interval of the numbers that round to a double, so the shortest decimal lies in
that interval. Two such intervals have an end in common at most, and that end belongs to the one
whose mantissa is even.
-/

namespace Recommendation.Decimal

/-! ### Decimals in an interval -/

theorem pow_length_repr_le {n : ℕ} (hn : 0 < n) : 10 ^ (n.repr.length - 1) ≤ n := by
  by_contra! hlt
  have hpos : 0 < n.repr.length - 1 := by
    by_contra hzero
    rw [Nat.eq_zero_of_not_pos hzero, pow_zero] at hlt
    omega
  have hle := (Nat.length_toDigits_le_iff (by decide) hpos).2 hlt
  rw [← length_repr] at hle
  omega

namespace Interval

variable {i : Interval} {n : ℕ} {d : Shortest}

/-- If decimals lie closer together than the ends of the interval, one of the two next to the value
lies in it. -/
theorem contains_or_contains_succ {up down c : ℕ} (hlow : i.low * down < i.value * down)
    (hhigh : i.value * down < i.high * down) (hfloor : c * up * i.den ≤ i.value * down)
    (hnext : i.value * down < (c + 1) * up * i.den)
    (hclose : i.low * down + up * i.den < i.high * down) :
    i.contains up down c = true ∨ i.contains up down (c + 1) = true := by
  have hstep : (c + 1) * up * i.den = c * up * i.den + up * i.den := by ring
  rw [hstep] at hnext
  simp only [contains, hstep]
  split
  · simp only [Bool.and_eq_true, decide_eq_true_eq]
    omega
  · simp only [Bool.and_eq_true, decide_eq_true_eq]
    omega

/-- With as many digits behind the point as there are looked at, the value has one that is not
nought. -/
def HasPlaces (i : Interval) : Prop :=
  -- The number stands behind an equation, so that its power of ten is never written out.
  ∀ places : ℕ, places = 400 → i.den ≤ i.value * 10 ^ places

/-- The value has a digit at its place, so that it is no less than the least number with so many
digits. -/
theorem le_value (hden : 0 < i.den) (h : i.HasPlaces) {exponent : ℤ}
    (hexponent : exponent = i.place - (n + 1 : ℕ)) :
    10 ^ n * (10 ^ exponent.toNat * i.den) ≤ i.value * 10 ^ (-exponent).toNat := by
  obtain ⟨places, hplaces, hplace⟩ := i.exists_place_eq
  have hle := h places hplaces
  have hpos : 0 < i.value * 10 ^ places / i.den := Nat.div_pos hle hden
  have hdigits := pow_length_repr_le hpos
  have hlength : 0 < (i.value * 10 ^ places / i.den).repr.length := by
    rw [length_repr]
    exact Nat.length_toDigits_pos
  rw [Nat.le_div_iff_mul_le hden] at hdigits
  generalize (i.value * 10 ^ places / i.den).repr.length = length at *
  have hpowers : n + exponent.toNat + places = length - 1 + (-exponent).toNat := by omega
  have hscale : 0 < 10 ^ places := Nat.pow_pos (by decide)
  refine Nat.le_of_mul_le_mul_right ?_ hscale
  calc 10 ^ n * (10 ^ exponent.toNat * i.den) * 10 ^ places
      = 10 ^ (n + exponent.toNat + places) * i.den := by ring
    _ = 10 ^ (length - 1) * i.den * 10 ^ (-exponent).toNat := by rw [hpowers]; ring
    _ ≤ i.value * 10 ^ places * 10 ^ (-exponent).toNat := Nat.mul_le_mul_right _ hdigits
    _ = i.value * 10 ^ (-exponent).toNat * 10 ^ places := by ring

theorem exists_withDigits? (hden : 0 < i.den) (hlow : i.low < i.value) (hhigh : i.value < i.high)
    (h : i.HasPlaces) (hwide : i.low * 10 ^ n + i.value < i.high * 10 ^ n) :
    ∃ d, i.withDigits? (n + 1) = some d := by
  rw [withDigits?_eq, onGrid?]
  have hgrid := le_value (n := n) hden h rfl
  generalize i.place - (n + 1 : ℕ) = exponent at *
  rw [Nat.pow_eq, Nat.pow_eq]
  have hup : 0 < 10 ^ exponent.toNat := Nat.pow_pos (by decide)
  have hdown : 0 < 10 ^ (-exponent).toNat := Nat.pow_pos (by decide)
  generalize 10 ^ exponent.toNat = up at *
  generalize 10 ^ (-exponent).toNat = down at *
  have hfloor := Nat.div_mul_le_self (i.value * down) (up * i.den)
  have hnext := Nat.lt_div_mul_add (a := i.value * down) (Nat.mul_pos hup hden)
  generalize i.value * down / (up * i.den) = c at *
  have hclose : i.low * down + up * i.den < i.high * down := by
    refine Nat.lt_of_mul_lt_mul_left (a := 10 ^ n) ?_
    calc 10 ^ n * (i.low * down + up * i.den)
        = i.low * 10 ^ n * down + 10 ^ n * (up * i.den) := by ring
      _ ≤ (i.low * 10 ^ n + i.value) * down := by rw [Nat.add_mul]; omega
      _ < i.high * 10 ^ n * down := Nat.mul_lt_mul_of_pos_right hwide hdown
      _ = 10 ^ n * (i.high * down) := by ring
  have hcontains : i.contains up down c = true ∨ i.contains up down (c + 1) = true :=
    contains_or_contains_succ (Nat.mul_lt_mul_of_pos_right hlow hdown)
      (Nat.mul_lt_mul_of_pos_right hhigh hdown) (by rwa [Nat.mul_assoc])
      (by rw [Nat.mul_assoc, Nat.add_mul, Nat.one_mul]; exact hnext) hclose
  cases hhere : i.contains up down c with
  | true => cases i.contains up down (c + 1) <;> exact ⟨_, rfl⟩
  | false =>
      rw [hcontains.resolve_left (by rw [hhere]; exact Bool.false_ne_true)]
      exact ⟨_, rfl⟩

theorem exists_withDigits?_eq_shortestFrom {fuel m : ℕ} (hn : n ≤ m) (hm : m < n + fuel)
    (h : i.withDigits? m = some d) : ∃ n', i.withDigits? n' = some (i.shortestFrom fuel n) := by
  induction fuel generalizing n with
  | zero => omega
  | succ fuel ih =>
      rw [shortestFrom]
      cases hfirst : i.withDigits? n with
      | some d' => exact ⟨n, hfirst⟩
      | none =>
          refine ih ?_ (by omega)
          rcases hn.lt_or_eq with hlt | rfl
          · exact hlt
          · rw [hfirst] at h
            cases h

/-! ### The ends of an interval -/

def Covers (i : Interval) (q : ℚ) : Prop :=
  if i.closed then (i.low : ℚ) / i.den ≤ q ∧ q ≤ i.high / i.den
  else (i.low : ℚ) / i.den < q ∧ q < i.high / i.den

theorem covers_of_withDigits? (hden : 0 < i.den) (h : i.withDigits? n = some d) :
    i.Covers d.value := by
  obtain ⟨-, hcontains, -⟩ := of_onGrid? h
  rw [Covers]
  simp only [contains] at hcontains
  split at hcontains <;> simp only [Bool.and_eq_true, decide_eq_true_eq] at hcontains
  · rw [if_pos ‹_›, div_le_value_iff hden, value_le_div_iff hden]
    exact hcontains
  · rw [if_neg ‹_›, ← not_le, ← not_le, div_le_value_iff hden, value_le_div_iff hden, not_le, not_le]
    exact hcontains

end Interval

namespace Binary

variable {b c : Binary}

/-! ### Intervals of doubles -/

/-- How far below a double its interval begins, in quarters of a unit of the last place. -/
def below (b : Binary) : ℕ := if b.mantissa = 0x10000000000000 ∧ -1074 < b.exponent then 1 else 2

theorem below_cases (b : Binary) :
    b.mantissa = 2 ^ 52 ∧ -1074 < b.exponent ∧ b.below = 1 ∨
      ¬(b.mantissa = 2 ^ 52 ∧ -1074 < b.exponent) ∧ b.below = 2 := by
  rw [below]
  split
  · rename_i h
    exact .inl ⟨h.1, h.2, rfl⟩
  · rename_i h
    exact .inr ⟨h, rfl⟩

theorem interval_low (hm : 0 < b.mantissa) :
    (b.interval.low : ℚ) / b.interval.den = (b.mantissa - b.below / 4) * 2 ^ b.exponent := by
  have hden : ((2 : ℚ) ^ (2 - b.exponent).toNat) ≠ 0 := by positivity
  have hle : b.below ≤ 4 * b.mantissa := by
    rcases b.below_cases with ⟨-, -, h⟩ | ⟨-, h⟩ <;> omega
  change (((4 * b.mantissa - b.below) * Nat.pow 2 (b.exponent - 2).toNat : ℕ) : ℚ) /
    (Nat.pow 2 (2 - b.exponent).toNat : ℕ) = _
  rw [Nat.pow_eq, Nat.pow_eq, Nat.cast_mul, Nat.cast_sub hle]
  push_cast
  rw [div_eq_iff hden, mul_assoc, scale_eq]
  ring

/-- The interval of a double is wide enough for seventeen digits: there is a decimal with so many
digits in it. -/
theorem exists_withDigits?_interval (h : b.Canonical) (hm : 0 < b.mantissa) :
    ∃ d, b.interval.withDigits? 17 = some d := by
  obtain ⟨hden, -⟩ := interval_pos hm
  have hunit : 0 < 2 ^ (b.exponent - 2).toNat := Nat.pow_pos (by decide)
  have hvalue : b.interval.value = 4 * b.mantissa * 2 ^ (b.exponent - 2).toNat := rfl
  have hlow : b.interval.low = (4 * b.mantissa - b.below) * 2 ^ (b.exponent - 2).toNat := rfl
  have hhigh : b.interval.high = (4 * b.mantissa + 2) * 2 ^ (b.exponent - 2).toNat := rfl
  have hbelow := b.below_cases
  have hwide := h.wide
  have hleast := h.low
  refine Interval.exists_withDigits? hden ?_ ?_ (fun places hplaces => ?_) ?_
  · rw [hlow, hvalue]
    exact Nat.mul_lt_mul_of_pos_right (by omega) hunit
  · rw [hvalue, hhigh]
    exact Nat.mul_lt_mul_of_pos_right (by omega) hunit
  · have hpositive : 0 < b.interval.value := hvalue ▸ Nat.mul_pos (by omega) hunit
    calc b.interval.den = 2 ^ (2 - b.exponent).toNat := rfl
      _ ≤ 2 ^ (3 * places) := Nat.pow_le_pow_right (by decide) (by omega)
      _ = 8 ^ places := by rw [Nat.pow_mul]
      _ ≤ 10 ^ places := Nat.pow_le_pow_left (by decide) _
      _ ≤ b.interval.value * 10 ^ places := Nat.le_mul_of_pos_left _ hpositive
  · -- An interval is three quarters of a unit wide at the least, and the mantissa has sixteen digits.
    have hdigits : (4 * b.mantissa - b.below) * 10 ^ 16 + 4 * b.mantissa <
        (4 * b.mantissa + 2) * 10 ^ 16 := by omega
    rw [hlow, hvalue, hhigh, Nat.mul_right_comm, ← Nat.add_mul, Nat.mul_right_comm _ _ (10 ^ 16)]
    exact Nat.mul_lt_mul_of_pos_right hdigits hunit

theorem covers_shortest (h : b.Canonical) (hm : 0 < b.mantissa) :
    b.interval.Covers b.shortest.value := by
  obtain ⟨hden, -⟩ := interval_pos hm
  obtain ⟨d, hd⟩ := exists_withDigits?_interval h hm
  obtain ⟨n, hn⟩ : ∃ n, b.interval.withDigits? n = some (b.interval.shortestFrom 17 1) :=
    Interval.exists_withDigits?_eq_shortestFrom (by decide) (by decide) hd
  rw [shortest, if_neg hm.ne', (Shortest.stripped_spec _).1]
  exact Interval.covers_of_withDigits? hden hn

/-! ### Intervals side by side -/

/-- What lies in the interval of a double: half a unit of its last place on both sides of it, less
below a power of two, and the ends only if the mantissa is even. -/
theorem bounds_of_covers {q : ℚ} (hm : 0 < b.mantissa) (h : b.interval.Covers q) :
    (b.mantissa - b.below / 4) * 2 ^ b.exponent ≤ q ∧ q ≤ (b.mantissa + 1 / 2) * 2 ^ b.exponent ∧
      (b.mantissa % 2 = 1 → (b.mantissa - b.below / 4) * 2 ^ b.exponent < q ∧
        q < (b.mantissa + 1 / 2) * 2 ^ b.exponent) := by
  rw [Interval.Covers, interval_low hm, interval_high] at h
  split at h
  · rename_i hclosed
    have heven : b.mantissa % 2 = 0 := of_decide_eq_true hclosed
    exact ⟨h.1, h.2, fun hodd => by omega⟩
  · exact ⟨h.1.le, h.2.le, fun _ => h⟩

/-- The interval of a double begins no lower than where those with a lesser exponent end. -/
theorem next_exponent_le_low (hc : c.Canonical) (hleast : -1074 ≤ b.exponent)
    (h : b.exponent < c.exponent) : ((2 : ℚ) ^ 53 - 1 / 2) * 2 ^ b.exponent ≤
      (c.mantissa - c.below / 4) * 2 ^ c.exponent := by
  have hquarters : 4 * 2 ^ 52 + c.below ≤ 4 * c.mantissa + 1 := by
    have := c.below_cases
    have := hc.full
    omega
  have hdigits : (2 : ℚ) ^ 52 - 1 / 4 ≤ c.mantissa - c.below / 4 := by
    have hquarters' : (4 * 2 ^ 52 + c.below : ℚ) ≤ 4 * c.mantissa + 1 := by
      exact_mod_cast hquarters
    linarith
  have hdouble : (2 : ℚ) * 2 ^ b.exponent ≤ 2 ^ c.exponent := by
    rw [← zpow_one_add₀ two_ne_zero]
    exact zpow_le_zpow_right₀ one_le_two (by omega)
  calc ((2 : ℚ) ^ 53 - 1 / 2) * 2 ^ b.exponent
      = ((2 : ℚ) ^ 52 - 1 / 4) * (2 * 2 ^ b.exponent) := by ring
    _ ≤ ((c.mantissa : ℚ) - c.below / 4) * 2 ^ c.exponent :=
        mul_le_mul hdigits hdouble (by positivity) (by linarith)

/-- The interval of a double ends where that of a greater one begins, or before. If they have an end
in common, one of the mantissas is odd. -/
theorem high_le_low (hb : b.Canonical) (hc : c.Canonical)
    (h : b.exponent < c.exponent ∨ b.exponent = c.exponent ∧ b.mantissa < c.mantissa) :
    ((b.mantissa : ℚ) + 1 / 2) * 2 ^ b.exponent ≤ (c.mantissa - c.below / 4) * 2 ^ c.exponent ∧
      (((b.mantissa : ℚ) + 1 / 2) * 2 ^ b.exponent = (c.mantissa - c.below / 4) * 2 ^ c.exponent →
        b.mantissa % 2 = 1 ∨ c.mantissa % 2 = 1) := by
  have hunit : (0 : ℚ) < 2 ^ b.exponent := by positivity
  rcases h with hexponent | ⟨hexponent, hmantissa⟩
  · have hnext := next_exponent_le_low hc hb.low hexponent
    refine ⟨?_, fun heq => .inl ?_⟩
    · have hwide : (b.mantissa : ℚ) + 1 ≤ 2 ^ 53 := by exact_mod_cast hb.wide
      exact (mul_le_mul_of_nonneg_right (by linarith) hunit.le).trans hnext
    · -- The greatest mantissa is odd, and only its interval ends where the next exponent begins.
      by_contra heven
      have hwide : b.mantissa + 2 ≤ 2 ^ 53 := by
        have := hb.wide
        omega
      have hwide' : (b.mantissa : ℚ) + 2 ≤ 2 ^ 53 := by exact_mod_cast hwide
      exact ((mul_lt_mul_of_pos_right (by linarith) hunit).trans_le hnext).ne heq
  · have hbelow := c.below_cases
    have hquarters : 4 * b.mantissa + 2 + c.below ≤ 4 * c.mantissa := by omega
    have hquarters' : (4 * b.mantissa + 2 + c.below : ℚ) ≤ 4 * c.mantissa := by
      exact_mod_cast hquarters
    rw [← hexponent]
    refine ⟨mul_le_mul_of_nonneg_right (by linarith) hunit.le, fun heq => ?_⟩
    have hends : (4 * b.mantissa + 2 + c.below : ℚ) = 4 * c.mantissa := by
      linarith [mul_right_cancel₀ hunit.ne' heq]
    have hends' : 4 * b.mantissa + 2 + c.below = 4 * c.mantissa := by exact_mod_cast hends
    omega

/-- No number lies in the interval of a double and in that of a greater one. -/
theorem not_covers_of_covers {q : ℚ} (hb : b.Canonical) (hc : c.Canonical) (hbm : 0 < b.mantissa)
    (hcm : 0 < c.mantissa)
    (h : b.exponent < c.exponent ∨ b.exponent = c.exponent ∧ b.mantissa < c.mantissa)
    (hq : b.interval.Covers q) : ¬c.interval.Covers q := by
  intro hq'
  obtain ⟨-, hhigh, hodd⟩ := bounds_of_covers hbm hq
  obtain ⟨hlow, -, hodd'⟩ := bounds_of_covers hcm hq'
  obtain ⟨hends, hcommon⟩ := high_le_low hb hc h
  rcases hcommon (hends.antisymm (hlow.trans hhigh)) with hparity | hparity
  · linarith [(hodd hparity).2]
  · linarith [(hodd' hparity).1]

theorem mantissa_eq_zero_iff (h : b.Canonical) : b.mantissa = 0 ↔ b.shortest.value = 0 := by
  constructor
  · intro hm
    rw [shortest, if_pos hm, Shortest.value, Nat.cast_zero, zero_mul]
  · intro hzero
    by_contra hm
    have hm := Nat.pos_of_ne_zero hm
    obtain ⟨hlow, -⟩ := bounds_of_covers hm (covers_shortest h hm)
    have hquarters : b.below + 1 ≤ 4 * b.mantissa := by
      have := b.below_cases
      omega
    have hquarters' : (b.below : ℚ) + 1 ≤ 4 * b.mantissa := by exact_mod_cast hquarters
    have hpositive : 0 < ((b.mantissa : ℚ) - b.below / 4) * 2 ^ b.exponent :=
      mul_pos (by linarith) (by positivity)
    linarith

/-- Doubles with one sign are one if their shortest decimals make the same number. -/
theorem eq_of_value_shortest_eq (hb : b.Canonical) (hc : c.Canonical)
    (hsign : b.negative = c.negative) (h : b.shortest.value = c.shortest.value) : b = c := by
  have hmagnitude : b.mantissa = c.mantissa ∧ b.exponent = c.exponent := by
    rcases Nat.eq_zero_or_pos b.mantissa with hbm | hbm
    · have hcm := (mantissa_eq_zero_iff hc).2 (h ▸ (mantissa_eq_zero_iff hb).1 hbm)
      have := hb.full
      have := hc.full
      omega
    · have hcm : 0 < c.mantissa := by
        refine Nat.pos_of_ne_zero fun hzero => hbm.ne' ?_
        exact (mantissa_eq_zero_iff hb).2 (h.trans ((mantissa_eq_zero_iff hc).1 hzero))
      have hbq := covers_shortest hb hbm
      have hcq := covers_shortest hc hcm
      by_contra hne
      by_cases hless : b.exponent < c.exponent ∨
          b.exponent = c.exponent ∧ b.mantissa < c.mantissa
      · exact not_covers_of_covers hb hc hbm hcm hless hbq (h ▸ hcq)
      · exact not_covers_of_covers hc hb hcm hbm (by omega) hcq (h ▸ hbq)
  obtain ⟨negative, mantissa, exponent⟩ := b
  obtain ⟨hmantissa, hexponent⟩ := hmagnitude
  dsimp only at hsign hmantissa hexponent
  rw [hsign, hmantissa, hexponent]

end Binary

/-! ### Reading the bits -/

theorem toBits_of_read {x : Float} {b : Binary} (h : read x = .finite b) : x.toBits.toNat =
    (if b.negative then 2 ^ 63 else 0) + (b.exponent + 1074).toNat * 2 ^ 52 + b.mantissa := by
  have hbits := x.toBits.toNat_lt
  have hsign : (if decide (0x8000000000000000 ≤ x.toBits.toNat) then 2 ^ 63 else 0) =
      x.toBits.toNat / 2 ^ 63 * 2 ^ 63 := by
    rw [if_congr decide_eq_true_iff rfl rfl]
    split_ifs <;> omega
  rw [read] at h
  split_ifs at h <;> cases h <;> dsimp only <;> rw [hsign] <;> omega

theorem eq_of_read_eq {x y : Float} {b : Binary} (hx : read x = .finite b)
    (hy : read y = .finite b) : x = y := by
  have hbits : x.toBits.toNat = y.toBits.toNat := (toBits_of_read hx).trans (toBits_of_read hy).symm
  obtain ⟨⟨bits, _⟩⟩ := x
  obtain ⟨⟨bits', _⟩⟩ := y
  obtain rfl : bits = bits' := UInt64.toNat_inj.1 hbits
  rfl

end Recommendation.Decimal
