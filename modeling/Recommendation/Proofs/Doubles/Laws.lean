import Recommendation.Proofs.Doubles.Operations

/-!
Laws of arithmetic that rounding leaves in force. Adding to a double above nought does not lower
it, one and nought are neutral, and division by one double keeps the order of others. Each law is
stated for what unpacked doubles settle at and then for doubles.
-/

namespace Recommendation.Doubles

open Float.Model Float.Model.UnpackedFloat

/-! ### Unpacked doubles that settle -/

theorem settlesAt_place {u : UnpackedFloat} (h : IsStandard u) (hu : u ≠ .notANumber) :
    SettlesAt u (place u) := by
  cases u with
  | notANumber => exact absurd rfl hu
  | infinity s =>
      rw [SettlesAt, settled_infinity]
      exact ⟨hu, rfl⟩
  | zero s =>
      rw [SettlesAt, settled_zero]
      exact ⟨hu, rfl⟩
  | finite s m e hm =>
      have hsettles := settlesAt_finite hm h.1 h.2.2.1 h.2.2.2 (s := s)
      rwa [min_eq_right (finite_bounds h).2.le] at hsettles

theorem settlesAt_infinity (s : Sign) : SettlesAt (.infinity s) (s.apply (2047 * 2 ^ 52)) :=
  settlesAt_place trivial nofun

theorem settlesAt_zero (s : Sign) : SettlesAt (.zero s) 0 :=
  settlesAt_place trivial nofun

theorem settled_notANumber : settled .notANumber = .notANumber := unpack_packedNaN

theorem isStandard_one : IsStandard (.finite .positive (2 ^ 52) (-52) (Nat.two_pow_pos 52)) :=
  isStandard_unpack (1.0 : Float).toModel.toBits.toBitVec

theorem exact_one : exact (2 ^ 52) (-52) = 1 := by
  rw [exact, zpow_neg, Nat.cast_pow, ← zpow_natCast]
  exact mul_inv_cancel₀ (two_zpow_pos 52).ne'

theorem nearestPlace_one : nearestPlace 1 = 1023 * 2 ^ 52 := by
  rw [← exact_one, nearestPlace_exact isStandard_one]
  rfl

theorem nearestPlace_nonneg {v : ℚ} (hv : 0 < v) : 0 ≤ nearestPlace v := by
  have hlow := (lastExponent_bounds hv).1
  rw [nearestPlace]
  omega

theorem exists_eq_zero {u : UnpackedFloat} (h : IsStandard u) (hu : u ≠ .notANumber)
    (hzero : place u = 0) : ∃ s, u = .zero s := by
  cases u with
  | notANumber => exact absurd rfl hu
  | zero s => exact ⟨s, rfl⟩
  | infinity s => cases s <;> exact absurd hzero (by decide)
  | finite s m e hm =>
      have hbounds := finite_bounds h
      cases s <;> rw [place, Sign.apply] at hzero <;> omega

theorem cases_of_place_pos {u : UnpackedFloat} (h : IsStandard u) (hpos : 0 < place u) :
    u = .infinity .positive ∨ ∃ m e hm, u = .finite .positive m e hm := by
  cases u with
  | notANumber => exact absurd hpos (lt_irrefl _)
  | zero s => exact absurd hpos (lt_irrefl _)
  | infinity s =>
      cases s with
      | positive => exact .inl rfl
      | negative => exact absurd hpos (by decide)
  | finite s m e hm =>
      cases s with
      | positive => exact .inr ⟨m, e, hm, rfl⟩
      | negative =>
          have hbounds := finite_bounds h
          rw [place, Sign.apply] at hpos
          omega

theorem cases_of_place_nonneg {u : UnpackedFloat} (h : IsStandard u) (hu : u ≠ .notANumber)
    (hnonneg : 0 ≤ place u) :
    (∃ s, u = .zero s) ∨ u = .infinity .positive ∨ ∃ m e hm, u = .finite .positive m e hm := by
  rcases hnonneg.lt_or_eq with hpos | hzero
  · exact .inr (cases_of_place_pos h hpos)
  · exact .inl (exists_eq_zero h hu hzero.symm)

section

variable {u v : UnpackedFloat}

/-- A double above nought does not fall when one that is not below nought is added. -/
theorem exists_settlesAt_add (hu : IsStandard u) (hv : IsStandard v) (hpos : 0 < place u)
    (hnumber : v ≠ .notANumber) (hnonneg : 0 ≤ place v) :
    ∃ p, SettlesAt (u.add .binary64 v) p ∧ place u ≤ p := by
  rcases cases_of_place_pos hu hpos with rfl | ⟨m, e, hm, rfl⟩
  · refine ⟨_, ?_, le_rfl⟩
    rcases cases_of_place_nonneg hv hnumber hnonneg with ⟨s, rfl⟩ | rfl | ⟨m, e, hm, rfl⟩ <;>
      exact settlesAt_infinity .positive
  · rcases cases_of_place_nonneg hv hnumber hnonneg with ⟨s, rfl⟩ | rfl | ⟨m', e', hm', rfl⟩
    · exact ⟨_, settlesAt_place hu nofun, le_rfl⟩
    · exact ⟨_, settlesAt_infinity .positive, (finite_bounds hu).2.le⟩
    · have hsum : exact m e ≤ exact m e + exact m' e' :=
        le_add_of_nonneg_right (exact_pos hm' e').le
      exact ⟨_, settlesAt_add hm hm' e e',
        (nearestPlace_exact hu).ge.trans (nearestPlace_mono (exact_pos hm e) hsum)⟩

theorem settlesAt_one_mul (hu : IsStandard u) (hnumber : u ≠ .notANumber) :
    SettlesAt (UnpackedFloat.mul .binary64
      (.finite .positive (2 ^ 52) (-52) (Nat.two_pow_pos 52)) u) (place u) := by
  cases u with
  | notANumber => exact absurd rfl hnumber
  | infinity s => cases s <;> exact settlesAt_infinity _
  | zero s => exact settlesAt_zero _
  | finite s m e hm =>
      have hsettles := settlesAt_mul isStandard_one hu
      rw [exact_one, one_mul, nearestPlace_exact hu] at hsettles
      cases s <;> exact hsettles

theorem settlesAt_zero_mul (hfinite : u.isFinite = true) :
    SettlesAt (UnpackedFloat.mul .binary64 (.zero .positive) u) 0 := by
  cases u with
  | notANumber => cases hfinite
  | infinity s => cases hfinite
  | zero s => exact settlesAt_zero _
  | finite s m e hm => exact settlesAt_zero _

theorem settlesAt_zero_add (hu : IsStandard u) (hnumber : u ≠ .notANumber) (s : Sign) :
    SettlesAt (UnpackedFloat.add .binary64 (.zero s) u) (place u) := by
  cases u with
  | notANumber => exact absurd rfl hnumber
  | infinity s' => exact settlesAt_infinity s'
  | zero s' => cases s <;> cases s' <;> exact settlesAt_zero _
  | finite s' m e hm => exact settlesAt_place hu nofun

theorem settlesAt_sub_zero (hu : IsStandard u) (hnumber : u ≠ .notANumber) (s : Sign) :
    SettlesAt (u.sub .binary64 (.zero s)) (place u) := by
  cases u with
  | notANumber => exact absurd rfl hnumber
  | infinity s' => exact settlesAt_infinity s'
  | zero s' =>
      rw [UnpackedFloat.sub]
      split <;> exact settlesAt_zero _
  | finite s' m e hm => exact settlesAt_place hu nofun

/-! ### Quotients by one divisor -/

theorem exact_le_exact {s s' : Sign} {m m' : ℕ} {e e' : ℤ} {hm : 0 < m} {hm' : 0 < m'}
    (h : IsStandard (.finite s m e hm)) (h' : IsStandard (.finite s' m' e' hm'))
    (hle : (e + 1074) * 2 ^ 52 + (m : ℤ) ≤ (e' + 1074) * 2 ^ 52 + m') :
    exact m e ≤ exact m' e' := by
  by_contra! hlt
  have hge := nearestPlace_mono (exact_pos hm' e') hlt.le
  rw [nearestPlace_exact h, nearestPlace_exact h'] at hge
  have hsame := compare_exponent_then_mantissa h h'
  rw [Std.compare_eq_iff_eq.2 (hle.antisymm hge), Ordering.then_eq_eq] at hsame
  obtain rfl := Std.compare_eq_iff_eq.1 hsame.1
  obtain rfl := Std.compare_eq_iff_eq.1 hsame.2
  exact lt_irrefl _ hlt

def quotientPlace (d : ℚ) : UnpackedFloat → ℤ
  | .finite s m e _ => s.apply (nearestPlace (exact m e / d))
  | _ => 0

variable {m₀ : ℕ} {e₀ : ℤ}

theorem settlesAt_quotientPlace (hfinite : u.isFinite = true) (hm₀ : 0 < m₀) :
    SettlesAt (u.div .binary64 (.finite .positive m₀ e₀ hm₀)) (quotientPlace (exact m₀ e₀) u) := by
  cases u with
  | notANumber => cases hfinite
  | infinity s => cases hfinite
  | zero s => exact settlesAt_zero _
  | finite s m e hm =>
      have hsettles := settlesAt_div s .positive hm hm₀ e e₀
      cases s <;> exact hsettles

/-- Division keeps order. Of doubles below nought the one with the larger digits is lower. -/
theorem quotientPlace_mono {d : ℚ} (hd : 0 < d) (hu : IsStandard u) (hv : IsStandard v)
    (hfinite : u.isFinite = true) (hfinite' : v.isFinite = true) (h : place u ≤ place v) :
    quotientPlace d u ≤ quotientPlace d v := by
  have hnonneg {m : ℕ} (hm : 0 < m) (e : ℤ) : 0 ≤ nearestPlace (exact m e / d) :=
    nearestPlace_nonneg (div_pos (exact_pos hm e) hd)
  have hmono {m m' : ℕ} (e e' : ℤ) (hm : 0 < m) (hle : exact m e ≤ exact m' e') :
      nearestPlace (exact m e / d) ≤ nearestPlace (exact m' e' / d) :=
    nearestPlace_mono (div_pos (exact_pos hm e) hd) (div_le_div_of_nonneg_right hle hd.le)
  cases u with
  | notANumber => cases hfinite
  | infinity s => cases hfinite
  | zero s =>
      cases v with
      | notANumber => cases hfinite'
      | infinity s' => cases hfinite'
      | zero s' => exact le_rfl
      | finite s' m' e' hm' =>
          have hbounds := finite_bounds hv
          have hquotient := hnonneg hm' e'
          cases s' <;> simp only [place, quotientPlace, Sign.apply] at h ⊢ <;> omega
  | finite s m e hm =>
      have hbounds := finite_bounds hu
      have hquotient := hnonneg hm e
      cases v with
      | notANumber => cases hfinite'
      | infinity s' => cases hfinite'
      | zero s' => cases s <;> simp only [place, quotientPlace, Sign.apply] at h ⊢ <;> omega
      | finite s' m' e' hm' =>
          have hbounds' := finite_bounds hv
          have hquotient' := hnonneg hm' e'
          cases s <;> cases s' <;> simp only [place, quotientPlace, Sign.apply] at h ⊢
          · exact neg_le_neg (hmono e' e hm' (exact_le_exact hv hu (by omega)))
          · omega
          · omega
          · exact hmono e e' hm (exact_le_exact hu hv h)

end

/-! ### Doubles -/

section

variable {x y z : Float}

theorem isStandard (x : Float) : IsStandard x.toModel.unpack := isStandard_unpack _

theorem SettlesAt.height {u : UnpackedFloat} {p : ℤ} (h : SettlesAt u p)
    (hx : x.toModel.unpack = settled u) : x.isNaN = false ∧ height x = p := by
  rw [isNaN_eq_false_iff, Doubles.height, hx]
  exact h

theorem height_zero : (0.0 : Float).isNaN = false ∧ height 0.0 = 0 := ⟨rfl, rfl⟩

theorem zero_lt_iff : 0.0 < x ↔ x.isNaN = false ∧ 0 < height x := by
  rw [lt_iff, height_zero.2]
  exact and_iff_right height_zero.1

theorem zero_le_iff : 0.0 ≤ x ↔ x.isNaN = false ∧ 0 ≤ height x := by
  rw [le_iff, height_zero.2]
  exact and_iff_right height_zero.1

theorem le_of_lt (h : 0.0 < x) : 0.0 ≤ x :=
  zero_le_iff.2 ⟨(zero_lt_iff.1 h).1, (zero_lt_iff.1 h).2.le⟩

theorem le_add (hx : 0.0 < x) (hy : 0.0 ≤ y) : x ≤ x + y := by
  obtain ⟨hx, hpos⟩ := zero_lt_iff.1 hx
  obtain ⟨hy, hnonneg⟩ := zero_le_iff.1 hy
  obtain ⟨p, hsettles, hle⟩ := exists_settlesAt_add (isStandard x) (isStandard y) hpos
    (isNaN_eq_false_iff.1 hy) hnonneg
  obtain ⟨hnumber, hheight⟩ := hsettles.height (x := x + y) rfl
  exact le_iff.2 ⟨hx, hnumber, hle.trans_eq hheight.symm⟩

theorem height_zero_add (hx : x.isNaN = false) (hzero : height x = 0) (hy : y.isNaN = false) :
    (x + y).isNaN = false ∧ height (x + y) = height y := by
  obtain ⟨s, hs⟩ := exists_eq_zero (isStandard x) (isNaN_eq_false_iff.1 hx) hzero
  refine (settlesAt_zero_add (isStandard y) (isNaN_eq_false_iff.1 hy) s).height ?_
  rw [← hs]
  rfl

theorem add_nonneg (hx : 0.0 ≤ x) (hy : 0.0 ≤ y) : 0.0 ≤ x + y := by
  obtain ⟨hnumber, hnonneg⟩ := zero_le_iff.1 hx
  obtain ⟨hnumber', hnonneg'⟩ := zero_le_iff.1 hy
  rcases hnonneg.lt_or_eq with hpos | hzero
  · obtain ⟨-, hsum, hle⟩ := le_iff.1 (le_add (zero_lt_iff.2 ⟨hnumber, hpos⟩) hy)
    exact zero_le_iff.2 ⟨hsum, hpos.le.trans hle⟩
  · obtain ⟨hsum, hheight⟩ := height_zero_add hnumber hzero.symm hnumber'
    exact zero_le_iff.2 ⟨hsum, hnonneg'.trans_eq hheight.symm⟩

/-- A sum of doubles that are not below nought is above nought just if one of them is. -/
theorem zero_lt_add_iff (hx : 0.0 ≤ x) (hy : 0.0 ≤ y) : 0.0 < x + y ↔ 0.0 < x ∨ 0.0 < y := by
  obtain ⟨hnumber, hnonneg⟩ := zero_le_iff.1 hx
  obtain ⟨hnumber', hnonneg'⟩ := zero_le_iff.1 hy
  rcases hnonneg.lt_or_eq with hpos | hzero
  · have hx : 0.0 < x := zero_lt_iff.2 ⟨hnumber, hpos⟩
    obtain ⟨-, hsum, hle⟩ := le_iff.1 (le_add hx hy)
    exact iff_of_true (zero_lt_iff.2 ⟨hsum, hpos.trans_le hle⟩) (.inl hx)
  · obtain ⟨hsum, hheight⟩ := height_zero_add hnumber hzero.symm hnumber'
    simp only [zero_lt_iff, hsum, hheight, hnumber', ← hzero, lt_irrefl, and_false, false_or]

/-- An operation that makes no number of what is not one makes numbers of numbers alone. -/
theorem isNaN_of_operation {op : UnpackedFloat → UnpackedFloat → UnpackedFloat}
    (hop : ∀ u, op u .notANumber = .notANumber)
    (hz : z.toModel.unpack = settled (op x.toModel.unpack y.toModel.unpack))
    (h : z.isNaN = false) : y.isNaN = false := by
  rw [isNaN_eq_false_iff] at h ⊢
  intro hy
  apply h
  rw [hz, hy, hop, settled_notANumber]

theorem isNaN_of_add (h : (x + y).isNaN = false) : y.isNaN = false := by
  have hsum : (x + y).toModel.unpack =
      settled (x.toModel.unpack.add .binary64 y.toModel.unpack) := rfl
  refine isNaN_of_operation (fun u => ?_) hsum h
  cases u <;> rfl

theorem zero_lt_zero_add_iff : 0.0 < 0.0 + x ↔ 0.0 < x := by
  refine ⟨fun h => ?_, fun h => ?_⟩
  · obtain ⟨hsum, hpos⟩ := zero_lt_iff.1 h
    have hx := isNaN_of_add hsum
    obtain ⟨-, hheight⟩ := height_zero_add height_zero.1 height_zero.2 hx
    exact zero_lt_iff.2 ⟨hx, hheight ▸ hpos⟩
  · obtain ⟨hx, hpos⟩ := zero_lt_iff.1 h
    obtain ⟨hsum, hheight⟩ := height_zero_add height_zero.1 height_zero.2 hx
    exact zero_lt_iff.2 ⟨hsum, hheight ▸ hpos⟩

theorem isNaN_of_mul (h : (x * y).isNaN = false) : y.isNaN = false := by
  have hproduct : (x * y).toModel.unpack =
      settled (x.toModel.unpack.mul .binary64 y.toModel.unpack) := rfl
  refine isNaN_of_operation (fun u => ?_) hproduct h
  cases u <;> rfl

theorem height_one_mul (hx : x.isNaN = false) :
    (1.0 * x).isNaN = false ∧ height (1.0 * x) = height x :=
  (settlesAt_one_mul (isStandard x) (isNaN_eq_false_iff.1 hx)).height rfl

theorem height_zero_mul (hx : x.isFinite = true) :
    (0.0 * x).isNaN = false ∧ height (0.0 * x) = 0 :=
  (settlesAt_zero_mul hx).height rfl

theorem height_sub_zero (hx : x.isNaN = false) (hy : y.isNaN = false) (hzero : height y = 0) :
    (x - y).isNaN = false ∧ height (x - y) = height x := by
  obtain ⟨s, hs⟩ := exists_eq_zero (isStandard y) (isNaN_eq_false_iff.1 hy) hzero
  refine (settlesAt_sub_zero (isStandard x) (isNaN_eq_false_iff.1 hx) s).height ?_
  rw [← hs]
  rfl

theorem isFinite_iff : x.isFinite = true ↔
    x.isNaN = false ∧ -(2047 * 2 ^ 52) < height x ∧ height x < 2047 * 2 ^ 52 := by
  rw [isNaN_eq_false_iff, height]
  change x.toModel.unpack.isFinite = true ↔ _
  have hstandard := isStandard x
  generalize x.toModel.unpack = u at *
  cases u with
  | notANumber =>
      constructor
      · intro hfinite
        cases hfinite
      · exact fun h => absurd rfl h.1
  | infinity s =>
      constructor
      · intro hfinite
        cases hfinite
      · cases s <;> exact fun h => absurd h.2 (by decide)
  | zero s =>
      rw [place]
      exact ⟨fun _ => ⟨UnpackedFloat.noConfusion, by decide⟩, fun _ => rfl⟩
  | finite s m e hm =>
      have hbounds := finite_bounds hstandard
      refine ⟨fun _ => ⟨UnpackedFloat.noConfusion, ?_⟩, fun _ => rfl⟩
      cases s <;> simp only [place, Sign.apply] <;> omega

theorem exists_eq_finite (hx : x.isFinite = true) (hpos : 0.0 < x) :
    ∃ m e hm, x.toModel.unpack = .finite .positive m e hm := by
  rcases cases_of_place_pos (isStandard x) (zero_lt_iff.1 hpos).2 with hinfinite | hfinite
  · change x.toModel.unpack.isFinite = true at hx
    rw [hinfinite] at hx
    cases hx
  · exact hfinite

theorem height_div_mono (hx : x.isFinite = true) (hy : y.isFinite = true)
    (hz : z.isFinite = true) (hpos : 0.0 < z) (h : height x ≤ height y) :
    (x / z).isNaN = false ∧ (y / z).isNaN = false ∧ height (x / z) ≤ height (y / z) := by
  obtain ⟨m, e, hm, heq⟩ := exists_eq_finite hz hpos
  have hquotient {w : Float} (hw : w.isFinite = true) : (w / z).isNaN = false ∧
      height (w / z) = quotientPlace (exact m e) w.toModel.unpack := by
    refine (settlesAt_quotientPlace hw hm).height ?_
    rw [← heq]
    rfl
  have hmono := quotientPlace_mono (exact_pos hm e) (isStandard x) (isStandard y) hx hy h
  refine ⟨(hquotient hx).1, (hquotient hy).1, ?_⟩
  rw [(hquotient hx).2, (hquotient hy).2]
  exact hmono

/-! ### Shares -/

theorem height_div_self (hx : x.isFinite = true) (hpos : 0.0 < x) :
    height (x / x) = 1023 * 2 ^ 52 := by
  obtain ⟨m, e, hm, heq⟩ := exists_eq_finite hx hpos
  have hsettles := settlesAt_div .positive .positive hm hm e e
  rw [div_self (exact_pos hm e).ne', nearestPlace_one] at hsettles
  refine (hsettles.height ?_).2
  rw [← heq]
  rfl

theorem height_zero_div (hx : x.isFinite = true) (hpos : 0.0 < x) : height (0.0 / x) = 0 := by
  obtain ⟨m, e, hm, heq⟩ := exists_eq_finite hx hpos
  refine ((settlesAt_zero (.positive / .positive)).height ?_).2
  change settled (UnpackedFloat.div .binary64 (.zero .positive) x.toModel.unpack) = _
  rw [heq]
  rfl

/-- A share of a finite double lies between nought and one, so it is finite. -/
theorem isFinite_div (hx : x.isFinite = true) (hy : y.isFinite = true) (hpos : 0.0 < y)
    (hnonneg : 0 ≤ height x) (hle : height x ≤ height y) : (x / y).isFinite = true := by
  obtain ⟨-, hnumber, hlow⟩ := height_div_mono (x := 0.0) rfl hx hy hpos hnonneg
  obtain ⟨-, -, hhigh⟩ := height_div_mono hx hy hy hpos hle
  rw [height_zero_div hy hpos] at hlow
  rw [height_div_self hy hpos] at hhigh
  rw [isFinite_iff]
  exact ⟨hnumber, by omega, by omega⟩

end

theorem height_ofNat {n : ℕ} (hn : 0 < n) (hfits : n < 2 ^ 64) :
    (Score.ofNat n : Float).isFinite = true ∧ height (Score.ofNat n) = nearestPlace n := by
  have hword : n.toUInt64.toNat = n := UInt64.toNat_ofNat_of_lt' hfits
  have hunpack : (Score.ofNat n : Float).toModel.unpack =
      settled (.ofNat .binary64 n.toUInt64.toNat) := rfl
  have hvalue : exact n 0 = n := by
    rw [exact, zpow_zero, mul_one]
  rw [hword, WholeDouble.ofNat_eq_round hn.ne'] at hunpack
  obtain ⟨hnumber, hheight⟩ := (settlesAt_round .positive hn 0).height hunpack
  rw [hvalue, Sign.apply] at hheight
  have hstandard : IsStandard (.finite .positive (2 ^ 52) 12 (Nat.two_pow_pos 52)) := by
    refine ⟨?_, ?_, ?_, .inl le_rfl⟩ <;> decide
  have hbound : nearestPlace n ≤ nearestPlace (exact (2 ^ 52) 12) := by
    have hword : exact (2 ^ 52) 12 = (2 ^ 64 : ℕ) := by
      rw [exact]
      norm_num
    rw [hword]
    exact nearestPlace_mono (by exact_mod_cast hn) (by exact_mod_cast hfits.le)
  have hnonneg := nearestPlace_nonneg (v := n) (by exact_mod_cast hn)
  rw [nearestPlace_exact hstandard] at hbound
  rw [isFinite_iff, hheight]
  refine ⟨⟨hnumber, ?_⟩, rfl⟩
  omega

theorem isFinite_ofNat_div {i n : ℕ} (hle : i ≤ n) (hn : 0 < n) (hfits : n < 2 ^ 64) :
    ((Score.ofNat i : Float) / Score.ofNat n).isFinite = true := by
  obtain ⟨hfinite, hheight⟩ := height_ofNat hn hfits
  have hlarge : nearestPlace 1 ≤ nearestPlace n :=
    nearestPlace_mono one_pos (by exact_mod_cast hn)
  rw [nearestPlace_one] at hlarge
  have hpos : 0.0 < (Score.ofNat n : Float) :=
    zero_lt_iff.2 ⟨(isFinite_iff.1 hfinite).1, by omega⟩
  rcases Nat.eq_zero_or_pos i with rfl | hi
  · have hzero : height (Score.ofNat 0) = 0 := rfl
    exact isFinite_div rfl hfinite hpos hzero.ge (by omega)
  · obtain ⟨hfinite', hheight'⟩ := height_ofNat hi (hle.trans_lt hfits)
    have hcast : (0 : ℚ) < i := by exact_mod_cast hi
    have hmono : nearestPlace i ≤ nearestPlace n := nearestPlace_mono hcast (by exact_mod_cast hle)
    have hnonneg := nearestPlace_nonneg hcast
    exact isFinite_div hfinite' hfinite hpos (by omega) (by omega)

end Recommendation.Doubles
