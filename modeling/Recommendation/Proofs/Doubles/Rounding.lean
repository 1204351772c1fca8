import Recommendation.Proofs.Doubles.Places
import Recommendation.Proofs.WholeDoubles

/-!
How results are rounded. A positive number has a last place in which it can be told by a double,
and the whole number of such places nearest to it makes the digits of the double. So the height of
the result is a function of the exact number, `nearestPlace`, which never falls when the number
grows and which gives a double its own place.
-/

namespace Recommendation.Doubles

open Float.Model Float.Model.UnpackedFloat

/-! ### The nearest whole number -/

/-- The whole number nearest to a fraction that is not negative, a half going to the even
neighbour. -/
def nearestEven (q : ℚ) : ℕ :=
  if 2 * q < 2 * ⌊q⌋₊ + 1 then ⌊q⌋₊
  else if 2 * ⌊q⌋₊ + 1 < 2 * q then ⌊q⌋₊ + 1
  else ⌊q⌋₊ + ⌊q⌋₊ % 2

theorem floor_le_nearestEven (q : ℚ) : ⌊q⌋₊ ≤ nearestEven q := by
  rw [nearestEven]
  split_ifs <;> omega

theorem nearestEven_le_floor_succ (q : ℚ) : nearestEven q ≤ ⌊q⌋₊ + 1 := by
  rw [nearestEven]
  split_ifs <;> omega

theorem nearestEven_mono {q r : ℚ} (h : q ≤ r) : nearestEven q ≤ nearestEven r := by
  rcases (Nat.floor_mono h).lt_or_eq with hlt | heq
  · calc nearestEven q ≤ ⌊q⌋₊ + 1 := nearestEven_le_floor_succ q
      _ ≤ ⌊r⌋₊ := hlt
      _ ≤ nearestEven r := floor_le_nearestEven r
  · rw [nearestEven, nearestEven, heq]
    split_ifs <;> first | omega | linarith

theorem nearestEven_natCast (n : ℕ) : nearestEven (n : ℚ) = n := by
  rw [nearestEven, Nat.floor_natCast, if_pos (by linarith)]

theorem le_nearestEven {n : ℕ} {q : ℚ} (h : (n : ℚ) ≤ q) : n ≤ nearestEven q :=
  nearestEven_natCast n ▸ nearestEven_mono h

theorem nearestEven_le {n : ℕ} {q : ℚ} (h : q ≤ n) : nearestEven q ≤ n :=
  nearestEven_natCast n ▸ nearestEven_mono h

/-! ### Digits behind the last place -/

/-- A fraction that is not negative, as a whole number and two bits for what is left: whether it
makes a half at least, and whether it is neither nothing nor a half. -/
def extended (q : ℚ) : ExtendedMantissa :=
  ⟨⌊q⌋₊, decide (2 * (⌊q⌋₊ : ℚ) + 1 ≤ 2 * q),
    decide ((⌊q⌋₊ : ℚ) < q ∧ 2 * q ≠ 2 * (⌊q⌋₊ : ℚ) + 1)⟩

theorem behind_iff {f q : ℚ} :
    2 * f + 1 ≤ 2 * q ∨ f < q ∧ 2 * q ≠ 2 * f + 1 ↔ f < q := by
  constructor
  · rintro (h | ⟨h, -⟩) <;> linarith
  · intro h
    rcases le_or_gt (2 * f + 1) (2 * q) with hle | hlt
    · exact .inl hle
    · exact .inr ⟨h, hlt.ne⟩

theorem shiftRightOne_extended {q : ℚ} (h : 0 ≤ q) :
    (extended q).shiftRightOne = extended (q / 2) := by
  have hfloor : ⌊q / 2⌋₊ = ⌊q⌋₊ / 2 := Nat.floor_div_ofNat q 2
  have hle := Nat.floor_le h
  have hlt := Nat.lt_floor_add_one q
  have hdigits : (⌊q⌋₊ : ℚ) = 2 * (⌊q⌋₊ / 2 : ℕ) + (⌊q⌋₊ % 2 : ℕ) := by
    exact_mod_cast (Nat.div_add_mod ⌊q⌋₊ 2).symm
  have hdouble : 2 * (q / 2) = q := by ring
  simp only [ExtendedMantissa.shiftRightOne, extended, hfloor, hdouble, ExtendedMantissa.mk.injEq,
    true_and, ← Bool.decide_or, behind_iff]
  generalize ((⌊q⌋₊ / 2 : ℕ) : ℚ) = half at *
  rcases Nat.mod_two_eq_zero_or_one ⌊q⌋₊ with hbit | hbit
  · rw [hbit, Nat.cast_zero] at hdigits
    have hround : ¬2 * half + 1 ≤ q := by linarith
    have hsticky : (⌊q⌋₊ : ℚ) < q ↔ half < q / 2 ∧ q ≠ 2 * half + 1 :=
      ⟨fun hq => ⟨by linarith, by linarith⟩, fun hq => by linarith [hq.1]⟩
    exact ⟨by simp [hbit, hround], decide_eq_decide.2 hsticky⟩
  · rw [hbit, Nat.cast_one] at hdigits
    have hround : 2 * half + 1 ≤ q := by linarith
    have hsticky : (⌊q⌋₊ : ℚ) < q ↔ half < q / 2 ∧ q ≠ 2 * half + 1 :=
      ⟨fun hq => ⟨by linarith, by linarith⟩,
        fun hq => lt_of_le_of_ne hle fun heq => hq.2 (heq.symm.trans hdigits)⟩
    exact ⟨by simp [hbit, hround], decide_eq_decide.2 hsticky⟩

theorem shiftRight_extended {q : ℚ} (h : 0 ≤ q) (n : ℕ) :
    extended q >>> n = extended (q / 2 ^ n) := by
  induction n with
  | zero =>
      rw [pow_zero, div_one]
      rfl
  | succ n ih =>
      have hstep : extended q >>> (n + 1) = (extended q >>> n).shiftRightOne := rfl
      rw [hstep, ih, shiftRightOne_extended (by positivity), div_div, pow_succ]

theorem roundedMantissa_extended (q : ℚ) : (extended q).roundedMantissa = nearestEven q := by
  rw [ExtendedMantissa.roundedMantissa, nearestEven, extended]
  rcases lt_trichotomy (2 * q) (2 * (⌊q⌋₊ : ℚ) + 1) with hlt | heq | hgt
  · rw [if_pos hlt, decide_eq_false hlt.not_ge]
    generalize decide ((⌊q⌋₊ : ℚ) < q ∧ 2 * q ≠ 2 * (⌊q⌋₊ : ℚ) + 1) = sticky
    cases sticky <;> rfl
  · rw [if_neg heq.not_lt, if_neg heq.symm.not_lt, decide_eq_true heq.ge,
      decide_eq_false fun h => h.2 heq]
    rfl
  · rw [if_neg hgt.not_gt, if_pos hgt, decide_eq_true hgt.le,
      decide_eq_true ⟨by linarith, hgt.ne'⟩]
    rfl

/-! ### The nearest double -/

/-- The exponent of the last place that a positive number is rounded to. -/
def lastExponent (v : ℚ) : ℤ := max (Int.log 2 v - 52) (-1074)

/-- The place among all doubles of the double nearest to a positive number. -/
def nearestPlace (v : ℚ) : ℤ :=
  min (2047 * 2 ^ 52) ((lastExponent v + 1074) * 2 ^ 52 + nearestEven (v / 2 ^ lastExponent v))

theorem lastExponent_eq_iff {v : ℚ} (hv : 0 < v) {t : ℤ} : lastExponent v = t ↔
    -1074 ≤ t ∧ v < 2 ^ (t + 53) ∧ (2 ^ (t + 52) ≤ v ∨ t = -1074) := by
  have hlow : 2 ^ (t + 52) ≤ v ↔ t + 52 ≤ Int.log 2 v := by
    exact_mod_cast Int.zpow_le_iff_le_log (b := 2) (by decide) hv
  have hhigh : v < 2 ^ (t + 53) ↔ Int.log 2 v < t + 53 := by
    exact_mod_cast Int.lt_zpow_iff_log_lt (b := 2) (by decide) hv
  rw [hlow, hhigh, lastExponent]
  omega

theorem lastExponent_bounds {v : ℚ} (hv : 0 < v) : -1074 ≤ lastExponent v ∧
    v < 2 ^ (lastExponent v + 53) ∧ (2 ^ (lastExponent v + 52) ≤ v ∨ lastExponent v = -1074) :=
  (lastExponent_eq_iff hv).1 rfl

theorem two_zpow_pos (t : ℤ) : (0 : ℚ) < 2 ^ t := zpow_pos two_pos t

/-- Counted in its last places, a number has no more digits than a double. -/
theorem scaled_lt {v : ℚ} (hv : 0 < v) : v / 2 ^ lastExponent v < 2 ^ 53 := by
  rw [div_lt_iff₀ (two_zpow_pos _), ← zpow_natCast, ← zpow_add₀ two_ne_zero, add_comm]
  exact (lastExponent_bounds hv).2.1

theorem le_scaled {v : ℚ} (hv : 0 < v) (h : lastExponent v ≠ -1074) :
    2 ^ 52 ≤ v / 2 ^ lastExponent v := by
  rw [le_div_iff₀ (two_zpow_pos _), ← zpow_natCast, ← zpow_add₀ two_ne_zero, add_comm]
  exact (lastExponent_bounds hv).2.2.resolve_right h

theorem nearestEven_scaled_le {v : ℚ} (hv : 0 < v) :
    nearestEven (v / 2 ^ lastExponent v) ≤ 2 ^ 53 :=
  nearestEven_le (by exact_mod_cast (scaled_lt hv).le)

theorem le_nearestEven_scaled {v : ℚ} (hv : 0 < v) (h : lastExponent v ≠ -1074) :
    2 ^ 52 ≤ nearestEven (v / 2 ^ lastExponent v) :=
  le_nearestEven (by exact_mod_cast le_scaled hv h)

/-- Larger numbers are not rounded to smaller doubles. -/
theorem nearestPlace_mono {v w : ℚ} (hv : 0 < v) (h : v ≤ w) : nearestPlace v ≤ nearestPlace w := by
  have hw := hv.trans_le h
  have hexponent : lastExponent v ≤ lastExponent w :=
    max_le_max_right _ (sub_le_sub_right (Int.log_mono_right hv h) _)
  refine min_le_min_left _ ?_
  rcases hexponent.lt_or_eq with hlt | heq
  · have hcarry := nearestEven_scaled_le hv
    have hfull := le_nearestEven_scaled hw (by have := (lastExponent_bounds hv).1; omega)
    omega
  · have hscaled : nearestEven (v / 2 ^ lastExponent v) ≤ nearestEven (w / 2 ^ lastExponent w) := by
      rw [heq]
      exact nearestEven_mono (div_le_div_of_nonneg_right h (two_zpow_pos _).le)
    omega

def exact (m : ℕ) (e : ℤ) : ℚ := m * 2 ^ e

theorem exact_pos {m : ℕ} (hm : 0 < m) (e : ℤ) : 0 < exact m e :=
  mul_pos (by exact_mod_cast hm) (two_zpow_pos e)

theorem lastExponent_exact {s : Sign} {m : ℕ} {e : ℤ} {hm : 0 < m}
    (h : IsStandard (.finite s m e hm)) : lastExponent (exact m e) = e := by
  obtain ⟨hlow, -, hwide, hfull⟩ := h
  rw [lastExponent_eq_iff (exact_pos hm e)]
  refine ⟨hlow, ?_, hfull.imp_left fun hfull => ?_⟩
  · rw [exact, add_comm, zpow_add₀ two_ne_zero]
    exact mul_lt_mul_of_pos_right (by exact_mod_cast hwide) (two_zpow_pos e)
  · rw [exact, add_comm, zpow_add₀ two_ne_zero]
    exact mul_le_mul_of_nonneg_right (by exact_mod_cast hfull) (two_zpow_pos e).le

/-- A double is rounded to itself. -/
theorem nearestPlace_exact {s : Sign} {m : ℕ} {e : ℤ} {hm : 0 < m}
    (h : IsStandard (.finite s m e hm)) :
    nearestPlace (exact m e) = (e + 1074) * 2 ^ 52 + m := by
  have hscaled : exact m e / 2 ^ e = m := by
    rw [exact, mul_div_assoc, div_self (two_zpow_pos e).ne', mul_one]
  rw [nearestPlace, lastExponent_exact h, hscaled, nearestEven_natCast,
    min_eq_right (finite_bounds h).2.le]

/-! ### What rounding makes -/

theorem unpack_packComponents_ne_notANumber {s : Sign} {e : BitVec 11} {m : BitVec 52}
    (h : e ≠ -1#11 ∨ m = 0#52) :
    UnpackedFloat.unpack .binary64 (packComponents .binary64 s e m) ≠ .notANumber := by
  rw [UnpackedFloat.unpack]
  simp only [unpackMantissa_packComponents, unpackExponent_packComponents]
  split_ifs <;> simp_all

/-- What an unpacked double is after it has been packed into its bits. -/
def settled (x : UnpackedFloat) : UnpackedFloat := .unpack .binary64 (x.pack .binary64)

/-- The unpacked double is packed into a number, and that stands at the place. -/
def SettlesAt (x : UnpackedFloat) (p : ℤ) : Prop :=
  settled x ≠ .notANumber ∧ place (settled x) = p

theorem settled_zero (s : Sign) : settled (.zero s) = .zero s := unpack_packedZero

theorem settled_infinity (s : Sign) : settled (.infinity s) = .infinity s := by
  cases s <;> rfl

/-- The double stands where its digits say, or at infinity if its exponent is too large. -/
theorem settlesAt_finite {s : Sign} {m : ℕ} {e : ℤ} (hm : 0 < m) (hlow : -1074 ≤ e)
    (hwide : m < 2 ^ 53) (hfull : 2 ^ 52 ≤ m ∨ e = -1074) :
    SettlesAt (.finite s m e hm) (s.apply (min (2047 * 2 ^ 52) ((e + 1074) * 2 ^ 52 + m))) := by
  have hlog : m.log2 + 1 = Format.binary64.mantissaBits ↔ 2 ^ 52 ≤ m := by
    have hbits : Format.binary64.mantissaBits = 53 := rfl
    have hle := Nat.le_log2 hm.ne' (k := 52)
    have hlt := Nat.log2_lt hm.ne' (k := 53)
    omega
  have hpacked {b : BitVec 11} {d : BitVec 52}
      (hpack : UnpackedFloat.pack .binary64 (.finite s m e hm) = packComponents .binary64 s b d)
      (hnumber : b ≠ -1#11 ∨ d = 0#52)
      (hdigits : (b.toNat * 2 ^ 52 + d.toNat : ℤ) = min (2047 * 2 ^ 52) ((e + 1074) * 2 ^ 52 + m)) :
      SettlesAt (.finite s m e hm) (s.apply (min (2047 * 2 ^ 52) ((e + 1074) * 2 ^ 52 + m))) := by
    have hne := unpack_packComponents_ne_notANumber (s := s) hnumber
    rw [SettlesAt, settled, hpack]
    exact ⟨hne, (place_unpack_packComponents s b d hne).trans (congrArg s.apply hdigits)⟩
  simp only [UnpackedFloat.pack, add_assoc, exponentBias_add, hlog] at hpacked
  split_ifs at hpacked with hlarge hnormal
  · have hexponent : (-1#11).toNat = 2047 := rfl
    refine hpacked (b := -1#11) (d := 0#52) rfl (.inr rfl) ?_
    rw [hexponent, BitVec.toNat_ofNat]
    omega
  · have hexponent : (BitVec.ofNat 11 (e + 1075).toNat).toNat = (e + 1075).toNat := by
      rw [BitVec.toNat_ofNat]
      omega
    refine hpacked rfl (.inl fun h => ?_) ?_
    · rw [h] at hexponent
      have hall : (-1#11).toNat = 2047 := rfl
      omega
    · rw [hexponent, BitVec.toNat_ofNat]
      omega
  · refine hpacked rfl (.inl (by decide)) ?_
    rw [BitVec.toNat_ofNat, BitVec.toNat_ofNat]
    omega

theorem shiftToTargetExponent_extended {q : ℚ} (hq : 0 ≤ q) {m : ℕ} {e t : ℤ} {accuracy : Accuracy}
    (hem : ExtendedMantissa.ofMantissaAndAccuracy m accuracy = extended q)
    (htarget : Format.binary64.targetExponent (totalExponent m e) = t) (he : e ≤ t) :
    shiftToTargetExponent .binary64 m e accuracy = (extended (q * 2 ^ e / 2 ^ t), t) := by
  have hshift : ((t - e).toNat : ℤ) = t - e := Int.toNat_of_nonneg (by omega)
  have hscaled : q / 2 ^ (t - e).toNat = q * 2 ^ e / 2 ^ t := by
    rw [← zpow_natCast, hshift, zpow_sub₀ two_ne_zero, div_div_eq_mul_div]
  rw [shiftToTargetExponent, htarget, shiftToExponent, hem, shiftRight_extended hq, hscaled, hshift,
    add_sub_cancel]

/-- Rounded digits stay in their places, unless rounding has carried into one more. -/
theorem shiftToTargetExponent_whole {n : ℕ} {t : ℤ} (ht : -1074 ≤ t) (hn : n ≤ 2 ^ 53) :
    shiftToTargetExponent .binary64 n t .exact =
      if n < 2 ^ 53 then (⟨n, false, false⟩, t) else (⟨2 ^ 52, false, false⟩, t + 1) := by
  rw [shiftToTargetExponent, WholeDouble.targetExponent_eq, shiftToExponent]
  split
  · rename_i hlt
    have hlog : n.log2 ≤ 52 := by
      rcases Nat.eq_zero_or_pos n with rfl | hpos
      · decide
      · exact WholeDouble.log2_le hpos.ne' hlt
    have hstay : (max ((n.log2 : ℤ) + 1 + t - 53) (-1074) - t).toNat = 0 := by omega
    rw [hstay]
    exact congrArg (Prod.mk _) (add_zero t)
  · obtain rfl : n = 2 ^ 53 := by omega
    have hcarry : (max (((2 ^ 53 : ℕ).log2 : ℤ) + 1 + t - 53) (-1074) - t).toNat = 1 := by
      rw [Nat.log2_two_pow]
      omega
    rw [hcarry]
    rfl

/-- Digits that reach as far as the last place of a double, with a note of what is left behind them,
are rounded to the nearest double. -/
theorem settlesAt_roundWithAccuracy (s : Sign) {m : ℕ} {e : ℤ} {accuracy : Accuracy} {q : ℚ}
    (hq : 0 < q) (hem : ExtendedMantissa.ofMantissaAndAccuracy m accuracy = extended q)
    (htarget : Format.binary64.targetExponent (totalExponent m e) = lastExponent (q * 2 ^ e))
    (he : e ≤ lastExponent (q * 2 ^ e)) :
    SettlesAt (roundWithAccuracy .binary64 s m e accuracy)
      (s.apply (nearestPlace (q * 2 ^ e))) := by
  have hv : 0 < q * 2 ^ e := mul_pos hq (two_zpow_pos e)
  have hlow := (lastExponent_bounds hv).1
  have hle := nearestEven_scaled_le hv
  have hfull := le_nearestEven_scaled hv
  rw [roundWithAccuracy, shiftToTargetExponent_extended hq.le hem htarget he, nearestPlace]
  dsimp only
  rw [roundedMantissa_extended]
  generalize nearestEven (q * 2 ^ e / 2 ^ lastExponent (q * 2 ^ e)) = n at *
  generalize lastExponent (q * 2 ^ e) = t at *
  have hshift := shiftToTargetExponent_whole hlow hle
  rcases hle.lt_or_eq with hlt | rfl
  · rw [if_pos hlt] at hshift
    rw [hshift]
    dsimp only
    split_ifs with hzero
    · subst hzero
      obtain rfl : t = -1074 := by omega
      rw [SettlesAt, settled_zero]
      exact ⟨UnpackedFloat.noConfusion, by cases s <;> rfl⟩
    · exact settlesAt_finite (Nat.pos_of_ne_zero hzero) hlow hlt (by omega)
  · rw [if_neg (lt_irrefl _)] at hshift
    rw [hshift]
    have hcarried : (t + 1 + 1074) * 2 ^ 52 + ((2 ^ 52 : ℕ) : ℤ) =
        (t + 1074) * 2 ^ 52 + ((2 ^ 53 : ℕ) : ℤ) := by
      push_cast
      ring
    rw [← hcarried]
    exact settlesAt_finite (m := 2 ^ 52) (Nat.two_pow_pos 52) (by omega) (by decide) (.inl le_rfl)

end Recommendation.Doubles
