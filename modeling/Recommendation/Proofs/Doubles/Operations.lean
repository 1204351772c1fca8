import Recommendation.Proofs.Doubles.Rounding

/-!
What sums, products and quotients of finite doubles come to. Each operation brings digits of the
exact result as far as the last place of a double, with a note of what is left behind them, so
that it is rounded to the double nearest to the exact result.
-/

namespace Recommendation.Doubles

open Float.Model Float.Model.UnpackedFloat

/-! ### Exact digits -/

theorem ofMantissaAndAccuracy_exact (m : ℕ) :
    ExtendedMantissa.ofMantissaAndAccuracy m .exact = extended m := by
  rw [extended, Nat.floor_natCast, decide_eq_false (by linarith), decide_eq_false (by simp)]
  rfl

/-- The exponent that digits are rounded at is that of the number they stand for. -/
theorem targetExponent_eq_lastExponent {q : ℚ} (hq : 1 ≤ q) (e : ℤ) :
    Format.binary64.targetExponent (totalExponent ⌊q⌋₊ e) = lastExponent (q * 2 ^ e) := by
  have hfloor : ⌊q⌋₊ ≠ 0 := (Nat.floor_pos.2 hq).ne'
  have hv : 0 < q * 2 ^ e := mul_pos (by linarith) (two_zpow_pos e)
  have hlow : (2 : ℚ) ^ ((⌊q⌋₊.log2 : ℤ) + e) ≤ q * 2 ^ e := by
    rw [zpow_add₀ two_ne_zero, zpow_natCast]
    refine mul_le_mul_of_nonneg_right ?_ (two_zpow_pos e).le
    calc (2 : ℚ) ^ ⌊q⌋₊.log2 ≤ ⌊q⌋₊ := by exact_mod_cast Nat.log2_self_le hfloor
      _ ≤ q := Nat.floor_le (by linarith)
  have hhigh : q * 2 ^ e < (2 : ℚ) ^ ((⌊q⌋₊.log2 : ℤ) + e + 1) := by
    rw [add_right_comm, zpow_add₀ two_ne_zero]
    refine mul_lt_mul_of_pos_right ?_ (two_zpow_pos e)
    calc q < ⌊q⌋₊ + 1 := Nat.lt_floor_add_one q
      _ ≤ (2 : ℚ) ^ ((⌊q⌋₊.log2 : ℤ) + 1) := by
        exact_mod_cast Nat.succ_le_of_lt Nat.lt_log2_self
  have hlog : Int.log 2 (q * 2 ^ e) = ⌊q⌋₊.log2 + e := by
    have hle : (⌊q⌋₊.log2 : ℤ) + e ≤ Int.log 2 (q * 2 ^ e) :=
      (Int.zpow_le_iff_le_log (b := 2) (by decide) hv).1 (by exact_mod_cast hlow)
    have hlt : Int.log 2 (q * 2 ^ e) < (⌊q⌋₊.log2 : ℤ) + e + 1 :=
      (Int.lt_zpow_iff_log_lt (b := 2) (by decide) hv).1 (by exact_mod_cast hhigh)
    omega
  rw [WholeDouble.targetExponent_eq, lastExponent, hlog]
  congr 1
  ring

theorem targetExponent_exact {m : ℕ} (hm : 0 < m) (e : ℤ) :
    Format.binary64.targetExponent (totalExponent m e) = lastExponent (exact m e) := by
  have h := targetExponent_eq_lastExponent (q := m) (by exact_mod_cast hm) e
  rwa [Nat.floor_natCast] at h

/-- Digits with room behind the last place are rounded to the nearest double. -/
theorem settlesAt_roundWithAccuracy_exact (s : Sign) {m : ℕ} (hm : 0 < m) {e : ℤ}
    (he : e ≤ lastExponent (exact m e)) :
    SettlesAt (roundWithAccuracy .binary64 s m e .exact) (s.apply (nearestPlace (exact m e))) :=
  settlesAt_roundWithAccuracy s (by exact_mod_cast hm) (ofMantissaAndAccuracy_exact m)
    (targetExponent_exact hm e) he

theorem shiftLeft_pos {m : ℕ} (hm : 0 < m) (k : ℕ) : 0 < m <<< k := by
  rw [Nat.shiftLeft_eq]
  exact Nat.mul_pos hm (Nat.two_pow_pos k)

theorem exact_shiftLeft (m k : ℕ) (e : ℤ) : exact (m <<< k) (e - k) = exact m e := by
  rw [exact, exact, Nat.shiftLeft_eq, zpow_sub₀ two_ne_zero, zpow_natCast]
  push_cast
  field_simp

theorem settlesAt_round (s : Sign) {m : ℕ} (hm : 0 < m) (e : ℤ) :
    SettlesAt (UnpackedFloat.round .binary64 s m e) (s.apply (nearestPlace (exact m e))) := by
  have hshifted := exact_shiftLeft m (e - lastExponent (exact m e)).toNat e
  have hrounded := settlesAt_roundWithAccuracy_exact s (shiftLeft_pos hm _)
    (e := e - (e - lastExponent (exact m e)).toNat) (by rw [hshifted]; omega)
  rw [hshifted] at hrounded
  rw [UnpackedFloat.round, targetExponent_exact hm, decreaseExponent]
  exact hrounded

/-! ### Sums and products -/

theorem settlesAt_add {m m' : ℕ} (hm : 0 < m) (hm' : 0 < m') (e e' : ℤ) :
    SettlesAt (.add .binary64 (.finite .positive m e hm) (.finite .positive m' e' hm'))
      (nearestPlace (exact m e + exact m' e')) := by
  have hshifted := exact_shiftLeft m (e - min e e').toNat e
  have hshifted' := exact_shiftLeft m' (e' - min e e').toNat e'
  have hexponent : e - ((e - min e e').toNat : ℤ) = min e e' := by omega
  have hexponent' : e' - ((e' - min e e').toNat : ℤ) = min e e' := by omega
  rw [hexponent] at hshifted
  rw [hexponent'] at hshifted'
  have hpos := shiftLeft_pos hm (e - min e e').toNat
  rw [UnpackedFloat.add, decreaseExponent, decreaseExponent, ← hshifted, ← hshifted']
  generalize m <<< (e - min e e').toNat = a at *
  generalize m' <<< (e' - min e e').toNat = a' at *
  have hsum : exact (a + a') (min e e') = exact a (min e e') + exact a' (min e e') := by
    rw [exact, exact, exact, ← add_mul, Nat.cast_add]
  have hrounded := settlesAt_round .positive (m := a + a') (by omega) (min e e')
  have hcompare : compare ((a : ℤ) + a') 0 = .gt := Std.compare_eq_gt.2 (by omega)
  rw [hsum] at hrounded
  dsimp only [Sign.apply]
  rw [UnpackedFloat.normalize, hcompare]
  exact hrounded

theorem le_lastExponent {v : ℚ} (hv : 0 < v) {t : ℤ} (h : 2 ^ (t + 52) ≤ v ∨ t ≤ -1074) :
    t ≤ lastExponent v := by
  rcases h with h | h
  · have hlog : t + 52 ≤ Int.log 2 v :=
      (Int.zpow_le_iff_le_log (b := 2) (by decide) hv).1 (by exact_mod_cast h)
    exact le_max_of_le_left (by omega)
  · exact h.trans (lastExponent_bounds hv).1

/-- A product that reaches as far as the last place of a double is rounded to the nearest double. -/
theorem settlesAt_mul_of_room (s s' : Sign) {m m' : ℕ} {e e' : ℤ} (hm : 0 < m) (hm' : 0 < m')
    (hroom : 2 ^ 52 ≤ m * m' ∨ e + e' ≤ -1074) :
    SettlesAt (.mul .binary64 (.finite s m e hm) (.finite s' m' e' hm'))
      ((s * s').apply (nearestPlace (exact m e * exact m' e'))) := by
  have hproduct : exact (m * m') (e + e') = exact m e * exact m' e' := by
    rw [exact, exact, exact, Nat.cast_mul, zpow_add₀ two_ne_zero, mul_mul_mul_comm]
  have hpos : 0 < m * m' := Nat.mul_pos hm hm'
  rw [← hproduct]
  refine settlesAt_roundWithAccuracy_exact (s * s') hpos
    (le_lastExponent (exact_pos hpos _) (hroom.imp_left fun hroom => ?_))
  rw [exact, add_comm _ 52, zpow_add₀ two_ne_zero 52]
  exact mul_le_mul_of_nonneg_right (by exact_mod_cast hroom) (two_zpow_pos _).le

/-- The product of two doubles is rounded to the nearest double. -/
theorem settlesAt_mul {s s' : Sign} {m m' : ℕ} {e e' : ℤ} {hm : 0 < m} {hm' : 0 < m'}
    (h : IsStandard (.finite s m e hm)) (h' : IsStandard (.finite s' m' e' hm')) :
    SettlesAt (.mul .binary64 (.finite s m e hm) (.finite s' m' e' hm'))
      ((s * s').apply (nearestPlace (exact m e * exact m' e'))) := by
  obtain ⟨hlow, -, -, hfull⟩ := h
  obtain ⟨hlow', -, -, hfull'⟩ := h'
  refine settlesAt_mul_of_room s s' hm hm' ?_
  rcases hfull with hfull | rfl
  · exact .inl (hfull.trans (Nat.le_mul_of_pos_right m hm'))
  · exact hfull'.imp (fun hfull' => hfull'.trans (Nat.le_mul_of_pos_left m' hm)) (by omega)

/-! ### Quotients -/

theorem ofMantissaAndAccuracy_fraction (a : ℕ) {b : ℕ} (hb : 0 < b) :
    ExtendedMantissa.ofMantissaAndAccuracy (a / b) (accuracyOfFraction (a % b) b) =
      extended (a / b) := by
  have hfloor : ⌊(a : ℚ) / b⌋₊ = a / b := Nat.floor_div_eq_div a b
  have hbpos : (0 : ℚ) < b := by exact_mod_cast hb
  have hdigits : (b : ℚ) * (a / b : ℕ) + (a % b : ℕ) = a := by
    exact_mod_cast Nat.div_add_mod a b
  have hscaled : 2 * ((a : ℚ) / b) * b = (2 * (a / b : ℕ) + 1) * b + (2 * (a % b : ℕ) - b) := by
    rw [mul_assoc, div_mul_cancel₀ _ hbpos.ne', ← hdigits]
    ring
  have hrest : (0 : ℚ) ≤ (a % b : ℕ) := Nat.cast_nonneg _
  rw [extended, hfloor, accuracyOfFraction]
  generalize ((a / b : ℕ) : ℚ) = whole at *
  generalize (a : ℚ) / b = q at *
  split
  · rename_i hzero
    rw [hzero, Nat.cast_zero] at hscaled
    have hq : 2 * q = 2 * whole := mul_right_cancel₀ hbpos.ne' (by linarith)
    rw [decide_eq_false (by linarith), decide_eq_false fun h => by linarith [h.1]]
    rfl
  · rename_i hzero
    have hpos : (0 : ℚ) < (a % b : ℕ) := by exact_mod_cast Nat.pos_of_ne_zero hzero
    have hlt : whole < q := by
      have : 2 * whole * b < 2 * q * b := by linarith
      linarith [lt_of_mul_lt_mul_right this hbpos.le]
    rcases Nat.lt_trichotomy (2 * (a % b)) b with hhalf | hhalf | hhalf
    · have hcast : 2 * ((a % b : ℕ) : ℚ) < b := by exact_mod_cast hhalf
      have hq : 2 * q < 2 * whole + 1 := lt_of_mul_lt_mul_right (by linarith) hbpos.le
      rw [Std.compare_eq_lt.2 hhalf, decide_eq_false hq.not_ge, decide_eq_true ⟨hlt, hq.ne⟩]
      rfl
    · have hcast : 2 * ((a % b : ℕ) : ℚ) = b := by exact_mod_cast hhalf
      have hq : 2 * q = 2 * whole + 1 := mul_right_cancel₀ hbpos.ne' (by linarith)
      rw [Std.compare_eq_iff_eq.2 hhalf, decide_eq_true hq.ge, decide_eq_false fun h => h.2 hq]
      rfl
    · have hcast : (b : ℚ) < 2 * ((a % b : ℕ) : ℚ) := by exact_mod_cast hhalf
      have hq : 2 * whole + 1 < 2 * q := lt_of_mul_lt_mul_right (by linarith) hbpos.le
      rw [Std.compare_eq_gt.2 hhalf, decide_eq_true hq.le, decide_eq_true ⟨hlt, hq.ne'⟩]
      rfl

theorem two_zpow_le_exact {m : ℕ} (hm : 0 < m) (e : ℤ) :
    2 ^ (totalExponent m e - 1) ≤ exact m e := by
  have hexponent : totalExponent m e - 1 = m.log2 + e := by
    rw [totalExponent]
    ring
  rw [hexponent, zpow_add₀ two_ne_zero, zpow_natCast, exact]
  exact mul_le_mul_of_nonneg_right (by exact_mod_cast Nat.log2_self_le hm.ne')
    (two_zpow_pos e).le

theorem exact_lt_two_zpow (m : ℕ) (e : ℤ) : exact m e < 2 ^ totalExponent m e := by
  rw [totalExponent, zpow_add₀ two_ne_zero, exact]
  exact mul_lt_mul_of_pos_right (by exact_mod_cast Nat.lt_log2_self) (two_zpow_pos e)

/-- A quotient has at most one digit fewer than the exponents tell. -/
theorem two_zpow_le_exact_div {m m' : ℕ} (hm : 0 < m) (hm' : 0 < m') (e e' : ℤ) :
    2 ^ (totalExponent m e - totalExponent m' e' - 1) ≤ exact m e / exact m' e' := by
  rw [le_div_iff₀ (exact_pos hm' e')]
  calc (2 : ℚ) ^ (totalExponent m e - totalExponent m' e' - 1) * exact m' e'
      ≤ 2 ^ (totalExponent m e - totalExponent m' e' - 1) * 2 ^ totalExponent m' e' :=
        mul_le_mul_of_nonneg_left (exact_lt_two_zpow m' e').le (two_zpow_pos _).le
    _ = 2 ^ (totalExponent m e - 1) := by
        rw [← zpow_add₀ two_ne_zero]
        congr 1
        ring
    _ ≤ exact m e := two_zpow_le_exact hm e

theorem settlesAt_fraction (s : Sign) {a b : ℕ} (ha : 0 < a) (hb : 0 < b) {t : ℤ}
    (hroom : 2 ^ (t + 52) ≤ (a : ℚ) / b * 2 ^ t ∨ t ≤ -1074) :
    SettlesAt (roundWithAccuracy .binary64 s (a / b) t (accuracyOfFraction (a % b) b))
      (s.apply (nearestPlace (a / b * 2 ^ t))) := by
  have hq : (0 : ℚ) < a / b := div_pos (by exact_mod_cast ha) (by exact_mod_cast hb)
  have hv : 0 < (a : ℚ) / b * 2 ^ t := mul_pos hq (two_zpow_pos t)
  have hfloor : ⌊(a : ℚ) / b⌋₊ = a / b := Nat.floor_div_eq_div a b
  refine settlesAt_roundWithAccuracy s hq (ofMantissaAndAccuracy_fraction a hb) ?_
    (le_lastExponent hv hroom)
  rw [← hfloor]
  rcases le_or_gt 1 ((a : ℚ) / b) with hone | hone
  · exact targetExponent_eq_lastExponent hone t
  · -- Only below the least exponent may a fraction have no digit before its last place.
    have hzero : ⌊(a : ℚ) / b⌋₊ = 0 := Nat.floor_eq_zero.2 hone
    have hsmall : (a : ℚ) / b * 2 ^ t < 2 ^ t := mul_lt_of_lt_one_left (two_zpow_pos t) hone
    have ht : t ≤ -1074 := hroom.resolve_left fun h => (h.trans_lt hsmall).not_ge
      (zpow_le_zpow_right₀ one_le_two (by omega))
    have hlast : lastExponent (a / b * 2 ^ t) = -1074 :=
      (lastExponent_eq_iff hv).2 ⟨le_rfl, hsmall.trans_le
        (zpow_le_zpow_right₀ one_le_two (by omega)), .inr rfl⟩
    rw [hzero, hlast, WholeDouble.targetExponent_eq, Nat.log2_zero]
    omega

/-- The quotient of two doubles is rounded to the nearest double. -/
theorem settlesAt_div (s s' : Sign) {m m' : ℕ} (hm : 0 < m) (hm' : 0 < m') (e e' : ℤ) :
    SettlesAt (.div .binary64 (.finite s m e hm) (.finite s' m' e' hm'))
      ((s / s').apply (nearestPlace (exact m e / exact m' e'))) := by
  have htarget : Format.binary64.targetExponent (totalExponent m e - totalExponent m' e') =
      max (totalExponent m e - totalExponent m' e' - 53) (-1074) := rfl
  have hlow := two_zpow_le_exact_div hm hm' e e'
  have hdiv : UnpackedFloat.div .binary64 (.finite s m e hm) (.finite s' m' e' hm') =
      let t := min (e - e') (max (totalExponent m e - totalExponent m' e' - 53) (-1074))
      let a := m <<< (e - e' - t).toNat
      roundWithAccuracy .binary64 (s / s') (a / m') t (accuracyOfFraction (a % m') m') := rfl
  have hroom : min (e - e') (max (totalExponent m e - totalExponent m' e' - 53) (-1074)) ≤
        totalExponent m e - totalExponent m' e' - 53 ∨
      min (e - e') (max (totalExponent m e - totalExponent m' e' - 53) (-1074)) ≤ -1074 := by
    omega
  have hbelow : min (e - e') (max (totalExponent m e - totalExponent m' e' - 53) (-1074)) ≤
    e - e' := min_le_left _ _
  rw [hdiv]
  dsimp only
  generalize min (e - e') (max (totalExponent m e - totalExponent m' e' - 53) (-1074)) = t at *
  have hshifted := exact_shiftLeft m (e - e' - t).toNat e
  have hexponent : e - ((e - e' - t).toNat : ℤ) = t + e' := by omega
  have hquotient : ((m <<< (e - e' - t).toNat : ℕ) : ℚ) / m' * 2 ^ t =
      exact m e / exact m' e' := by
    rw [← hshifted, hexponent, exact, exact, zpow_add₀ two_ne_zero]
    field_simp
  rw [← hquotient] at hlow ⊢
  exact settlesAt_fraction (s / s') (shiftLeft_pos hm _) hm' (hroom.imp_left fun h =>
    (zpow_le_zpow_right₀ one_le_two (by omega)).trans hlow)

end Recommendation.Doubles
