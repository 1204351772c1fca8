import Recommendation.Proofs.Doubles.Laws

/-!
Arithmetic of doubles that are not below nought, by their sizes. Such a double that is finite is a
fraction, its size, and the sum, the product and the quotient of two of them stand at the place to
which the exact result is rounded. So none of the operations falls when its operands grow, also
where the result is infinite.
-/

namespace Recommendation.Doubles

open Float.Model Float.Model.UnpackedFloat

/-! ### Sizes -/

def unpackedSize : UnpackedFloat → ℚ
  | .finite _ m e _ => exact m e
  | _ => 0

theorem unpackedSize_zero (s : Sign) : unpackedSize (.zero s) = 0 := rfl

theorem unpackedSize_finite (s : Sign) (m : ℕ) (e : ℤ) (hm : 0 < m) :
    unpackedSize (.finite s m e hm) = exact m e := rfl

def size (x : Float) : ℚ := unpackedSize x.toModel.unpack

/-- The place to which a number is rounded that is not negative. -/
def roundedPlace (v : ℚ) : ℤ := if v = 0 then 0 else nearestPlace v

@[simp] theorem roundedPlace_zero : roundedPlace 0 = 0 := if_pos rfl

theorem roundedPlace_of_pos {v : ℚ} (h : 0 < v) : roundedPlace v = nearestPlace v := if_neg h.ne'

theorem roundedPlace_mono {v w : ℚ} (hv : 0 ≤ v) (h : v ≤ w) : roundedPlace v ≤ roundedPlace w := by
  rcases hv.eq_or_lt with rfl | hpos
  · rw [roundedPlace_zero, roundedPlace]
    split_ifs with hw
    · exact le_rfl
    · exact nearestPlace_nonneg (h.lt_of_ne' hw)
  · rw [roundedPlace_of_pos hpos, roundedPlace_of_pos (hpos.trans_le h)]
    exact nearestPlace_mono hpos h

theorem roundedPlace_one : roundedPlace 1 = 1023 * 2 ^ 52 :=
  (roundedPlace_of_pos one_pos).trans nearestPlace_one

theorem unpackedSize_nonneg (u : UnpackedFloat) : 0 ≤ unpackedSize u := by
  cases u with
  | finite s m e hm => exact (exact_pos hm e).le
  | _ => exact le_rfl

theorem size_nonneg (x : Float) : 0 ≤ size x := unpackedSize_nonneg _

theorem cases_of_finite {u : UnpackedFloat} (h : IsStandard u) (hfinite : u.isFinite = true)
    (hnonneg : 0 ≤ place u) :
    (∃ s, u = .zero s) ∨ ∃ m e hm, u = .finite .positive m e hm := by
  cases u with
  | notANumber => cases hfinite
  | infinity s => cases hfinite
  | zero s => exact .inl ⟨s, rfl⟩
  | finite s m e hm =>
      rcases cases_of_place_nonneg h nofun hnonneg with ⟨s', h'⟩ | h' | h'
      · cases h'
      · cases h'
      · exact .inr h'

section Unpacked

variable {u v : UnpackedFloat}

theorem place_eq_roundedPlace (hu : IsStandard u) (hfinite : u.isFinite = true)
    (hnonneg : 0 ≤ place u) : place u = roundedPlace (unpackedSize u) := by
  rcases cases_of_finite hu hfinite hnonneg with ⟨s, rfl⟩ | ⟨m, e, hm, rfl⟩
  · rfl
  · rw [unpackedSize_finite, roundedPlace_of_pos (exact_pos hm e), nearestPlace_exact hu]
    rfl

theorem unpackedSize_le (hu : IsStandard u) (hv : IsStandard v) (hfinite : u.isFinite = true)
    (hfinite' : v.isFinite = true) (hnonneg : 0 ≤ place u) (h : place u ≤ place v) :
    unpackedSize u ≤ unpackedSize v := by
  rcases cases_of_finite hu hfinite hnonneg with ⟨s, rfl⟩ | ⟨m, e, hm, rfl⟩
  · exact unpackedSize_nonneg v
  · rcases cases_of_finite hv hfinite' (hnonneg.trans h) with ⟨s', rfl⟩ | ⟨m', e', hm', rfl⟩
    · have hbounds := finite_bounds hu
      exact absurd (hbounds.1.trans_le h) (lt_irrefl _)
    · exact exact_le_exact hu hv h

theorem settlesAt_add_size (hu : IsStandard u) (hv : IsStandard v) (hfinite : u.isFinite = true)
    (hfinite' : v.isFinite = true) (hnonneg : 0 ≤ place u) (hnonneg' : 0 ≤ place v) :
    SettlesAt (u.add .binary64 v) (roundedPlace (unpackedSize u + unpackedSize v)) := by
  have hplace := place_eq_roundedPlace hu hfinite hnonneg
  have hplace' := place_eq_roundedPlace hv hfinite' hnonneg'
  rcases cases_of_finite hu hfinite hnonneg with ⟨s, rfl⟩ | ⟨m, e, hm, rfl⟩
  · have hnumber : v ≠ .notANumber := by
      rintro rfl
      cases hfinite'
    have hsettles := settlesAt_zero_add hv hnumber s
    rwa [hplace', ← zero_add (unpackedSize v)] at hsettles
  · rcases cases_of_finite hv hfinite' hnonneg' with ⟨s', rfl⟩ | ⟨m', e', hm', rfl⟩
    · have hsettles := settlesAt_place hu nofun
      rwa [hplace, ← add_zero (unpackedSize _)] at hsettles
    · rw [unpackedSize_finite, unpackedSize_finite,
        roundedPlace_of_pos (add_pos (exact_pos hm e) (exact_pos hm' e'))]
      exact settlesAt_add hm hm' e e'

theorem settlesAt_mul_size (hu : IsStandard u) (hv : IsStandard v) (hfinite : u.isFinite = true)
    (hfinite' : v.isFinite = true) (hnonneg : 0 ≤ place u) (hnonneg' : 0 ≤ place v) :
    SettlesAt (u.mul .binary64 v) (roundedPlace (unpackedSize u * unpackedSize v)) := by
  rcases cases_of_finite hu hfinite hnonneg with ⟨s, rfl⟩ | ⟨m, e, hm, rfl⟩
  · rw [unpackedSize_zero, zero_mul, roundedPlace_zero]
    cases v with
    | notANumber => cases hfinite'
    | infinity s' => cases hfinite'
    | zero s' => exact settlesAt_zero _
    | finite s' m' e' hm' => exact settlesAt_zero _
  · rcases cases_of_finite hv hfinite' hnonneg' with ⟨s', rfl⟩ | ⟨m', e', hm', rfl⟩
    · rw [unpackedSize_zero, mul_zero, roundedPlace_zero]
      exact settlesAt_zero _
    · rw [unpackedSize_finite, unpackedSize_finite,
        roundedPlace_of_pos (mul_pos (exact_pos hm e) (exact_pos hm' e'))]
      exact settlesAt_mul hu hv

theorem settlesAt_div_size (hu : IsStandard u) (hv : IsStandard v) (hfinite : u.isFinite = true)
    (hfinite' : v.isFinite = true) (hnonneg : 0 ≤ place u) (hpos : 0 < place v) :
    SettlesAt (u.div .binary64 v) (roundedPlace (unpackedSize u / unpackedSize v)) := by
  rcases cases_of_finite hv hfinite' hpos.le with ⟨s', rfl⟩ | ⟨m', e', hm', rfl⟩
  · exact absurd hpos (lt_irrefl _)
  · rcases cases_of_finite hu hfinite hnonneg with ⟨s, rfl⟩ | ⟨m, e, hm, rfl⟩
    · rw [unpackedSize_zero, zero_div, roundedPlace_zero]
      exact settlesAt_zero _
    · rw [unpackedSize_finite, unpackedSize_finite,
        roundedPlace_of_pos (div_pos (exact_pos hm e) (exact_pos hm' e'))]
      exact settlesAt_div .positive .positive hm hm' e e'

theorem settlesAt_add_infinity (hu : IsStandard u) (hv : IsStandard v) (hnumber : u ≠ .notANumber)
    (hnumber' : v ≠ .notANumber) (hnonneg : 0 ≤ place u) (hnonneg' : 0 ≤ place v)
    (h : u = .infinity .positive ∨ v = .infinity .positive) :
    SettlesAt (u.add .binary64 v) (2047 * 2 ^ 52) := by
  rcases h with rfl | rfl
  · rcases cases_of_place_nonneg hv hnumber' hnonneg' with ⟨s, rfl⟩ | rfl | ⟨m, e, hm, rfl⟩ <;>
      exact settlesAt_infinity .positive
  · rcases cases_of_place_nonneg hu hnumber hnonneg with ⟨s, rfl⟩ | rfl | ⟨m, e, hm, rfl⟩ <;>
      exact settlesAt_infinity .positive

theorem settlesAt_infinity_mul (hv : IsStandard v) (hpos : 0 < place v) :
    SettlesAt (UnpackedFloat.mul .binary64 (.infinity .positive) v) (2047 * 2 ^ 52) := by
  rcases cases_of_place_pos hv hpos with rfl | ⟨m, e, hm, rfl⟩ <;>
    exact settlesAt_infinity .positive

theorem place_le (h : IsStandard u) : place u ≤ 2047 * 2 ^ 52 := by
  cases u with
  | notANumber => decide
  | zero s =>
      rw [place]
      decide
  | infinity s => cases s <;> decide
  | finite s m e hm =>
      have hbounds := finite_bounds h
      cases s <;> simp only [place, Sign.apply] <;> omega

end Unpacked

/-! ### Operations -/

section

variable {x y x' y' : Float}

theorem height_le (x : Float) : height x ≤ 2047 * 2 ^ 52 := place_le (isStandard x)

theorem height_eq_roundedPlace (hx : x.isFinite = true) (hnonneg : 0.0 ≤ x) :
    height x = roundedPlace (size x) :=
  place_eq_roundedPlace (isStandard x) hx (zero_le_iff.1 hnonneg).2

theorem size_le (hx : x.isFinite = true) (hy : y.isFinite = true) (hnonneg : 0.0 ≤ x)
    (h : x ≤ y) : size x ≤ size y :=
  unpackedSize_le (isStandard x) (isStandard y) hx hy (zero_le_iff.1 hnonneg).2 (le_iff.1 h).2.2

theorem height_add (hx : x.isFinite = true) (hy : y.isFinite = true) (hnonneg : 0.0 ≤ x)
    (hnonneg' : 0.0 ≤ y) :
    (x + y).isNaN = false ∧ height (x + y) = roundedPlace (size x + size y) :=
  (settlesAt_add_size (isStandard x) (isStandard y) hx hy (zero_le_iff.1 hnonneg).2
    (zero_le_iff.1 hnonneg').2).height rfl

theorem height_mul (hx : x.isFinite = true) (hy : y.isFinite = true) (hnonneg : 0.0 ≤ x)
    (hnonneg' : 0.0 ≤ y) :
    (x * y).isNaN = false ∧ height (x * y) = roundedPlace (size x * size y) :=
  (settlesAt_mul_size (isStandard x) (isStandard y) hx hy (zero_le_iff.1 hnonneg).2
    (zero_le_iff.1 hnonneg').2).height rfl

theorem height_div (hx : x.isFinite = true) (hy : y.isFinite = true) (hnonneg : 0.0 ≤ x)
    (hpos : 0.0 < y) :
    (x / y).isNaN = false ∧ height (x / y) = roundedPlace (size x / size y) :=
  (settlesAt_div_size (isStandard x) (isStandard y) hx hy (zero_le_iff.1 hnonneg).2
    (zero_lt_iff.1 hpos).2).height rfl

theorem isNaN_of_isFinite (hx : x.isFinite = true) : x.isNaN = false := (isFinite_iff.1 hx).1

theorem isFinite_of_le (hy : y.isFinite = true) (hnonneg : 0.0 ≤ x) (h : x ≤ y) :
    x.isFinite = true := by
  have hhigh := (isFinite_iff.1 hy).2.2
  obtain ⟨hnumber, hlow⟩ := zero_le_iff.1 hnonneg
  exact isFinite_iff.2 ⟨hnumber, by omega, (le_iff.1 h).2.2.trans_lt hhigh⟩

/-- A number that is not finite and not below nought is infinite. -/
theorem eq_infinity (hnonneg : 0.0 ≤ x) (hx : x.isFinite = false) :
    x.toModel.unpack = .infinity .positive := by
  obtain ⟨hnumber, hheight⟩ := zero_le_iff.1 hnonneg
  rcases cases_of_place_nonneg (isStandard x) (isNaN_eq_false_iff.1 hnumber) hheight with
    ⟨s, hs⟩ | hinfinite | ⟨m, e, hm, hfinite⟩
  · have hfinite : x.isFinite = x.toModel.unpack.isFinite := rfl
    rw [hx, hs] at hfinite
    cases hfinite
  · exact hinfinite
  · have hfinite' : x.isFinite = x.toModel.unpack.isFinite := rfl
    rw [hx, hfinite] at hfinite'
    cases hfinite'

theorem le_of_le_of_le (h : x ≤ y) (h' : y ≤ x') : x ≤ x' := by
  rw [le_iff] at *
  exact ⟨h.1, h'.2.1, h.2.2.trans h'.2.2⟩

theorem le_refl (hx : x.isNaN = false) : x ≤ x := le_iff.2 ⟨hx, hx, Int.le_refl _⟩

theorem add_mono (hx : 0.0 ≤ x) (hy : 0.0 ≤ y) (hle : x ≤ x') (hle' : y ≤ y') :
    x + y ≤ x' + y' := by
  have hx' : 0.0 ≤ x' := le_of_le_of_le hx hle
  have hy' : 0.0 ≤ y' := le_of_le_of_le hy hle'
  obtain ⟨hsum, -⟩ := zero_le_iff.1 (add_nonneg hx hy)
  obtain ⟨hsum', -⟩ := zero_le_iff.1 (add_nonneg hx' hy')
  refine le_iff.2 ⟨hsum, hsum', ?_⟩
  by_cases hfinite : x'.isFinite = true ∧ y'.isFinite = true
  · obtain ⟨hfx', hfy'⟩ := hfinite
    have hfx := isFinite_of_le hfx' hx hle
    have hfy := isFinite_of_le hfy' hy hle'
    rw [(height_add hfx hfy hx hy).2, (height_add hfx' hfy' hx' hy').2]
    exact roundedPlace_mono (by linarith [size_nonneg x, size_nonneg y])
      (add_le_add (size_le hfx hfx' hx hle) (size_le hfy hfy' hy hle'))
  · -- If one part is infinite, so is the sum, and no number stands above it.
    have hinfinite : x'.toModel.unpack = .infinity .positive ∨
        y'.toModel.unpack = .infinity .positive := by
      rw [not_and_or, Bool.not_eq_true, Bool.not_eq_true] at hfinite
      exact hfinite.imp (eq_infinity hx') (eq_infinity hy')
    obtain ⟨hnumber, hnonneg⟩ := zero_le_iff.1 hx'
    obtain ⟨hnumber', hnonneg'⟩ := zero_le_iff.1 hy'
    have hsettles := settlesAt_add_infinity (isStandard x') (isStandard y')
      (isNaN_eq_false_iff.1 hnumber) (isNaN_eq_false_iff.1 hnumber') hnonneg hnonneg' hinfinite
    rw [(hsettles.height (x := x' + y') rfl).2]
    exact height_le _

/-- Products do not fall when their factors grow. The second factor is finite, and above nought if
the first one may be infinite. -/
theorem mul_mono (hx : 0.0 ≤ x) (hy : 0.0 ≤ y) (hle : x ≤ x') (hle' : y ≤ y')
    (hfinite : y'.isFinite = true) (h : x'.isFinite = true ∨ 0.0 < y) : x * y ≤ x' * y' := by
  have hx' : 0.0 ≤ x' := le_of_le_of_le hx hle
  have hy' : 0.0 ≤ y' := le_of_le_of_le hy hle'
  have hfy := isFinite_of_le hfinite hy hle'
  cases hfx' : x'.isFinite with
  | true =>
      have hfx := isFinite_of_le hfx' hx hle
      obtain ⟨hnumber, hheight⟩ := height_mul hfx hfy hx hy
      obtain ⟨hnumber', hheight'⟩ := height_mul hfx' hfinite hx' hy'
      refine le_iff.2 ⟨hnumber, hnumber', ?_⟩
      rw [hheight, hheight']
      exact roundedPlace_mono (Rat.mul_nonneg (size_nonneg x) (size_nonneg y))
        (mul_le_mul (size_le hfx hfx' hx hle) (size_le hfy hfinite hy hle') (size_nonneg y)
          (size_nonneg x'))
  | false =>
      have hpos : 0.0 < y := h.resolve_left (by rw [hfx']; exact Bool.false_ne_true)
      have hproduct {z w : Float} (hz : z.toModel.unpack = .infinity .positive) (hw : 0.0 < w) :
          (z * w).isNaN = false ∧ height (z * w) = 2047 * 2 ^ 52 := by
        refine (settlesAt_infinity_mul (isStandard w) (zero_lt_iff.1 hw).2).height ?_
        rw [← hz]
        rfl
      have hpos' : 0.0 < y' := by
        rw [zero_lt_iff] at hpos ⊢
        obtain ⟨-, hnumber, hheight⟩ := le_iff.1 hle'
        exact ⟨hnumber, hpos.2.trans_le hheight⟩
      obtain ⟨hnumber', hheight'⟩ := hproduct (eq_infinity hx' hfx') hpos'
      have hnumber : (x * y).isNaN = false := by
        cases hfx : x.isFinite with
        | true => exact (height_mul hfx hfy hx hy).1
        | false => exact (hproduct (eq_infinity hx hfx) hpos).1
      refine le_iff.2 ⟨hnumber, hnumber', ?_⟩
      rw [hheight']
      exact height_le _

theorem size_one : size 1.0 = 1 := exact_one

theorem height_one : height 1.0 = 1023 * 2 ^ 52 := by
  rw [height_eq_roundedPlace rfl (by decide), size_one, roundedPlace_one]

theorem height_mul_one (hx : 0.0 ≤ x) : (x * 1.0).isNaN = false ∧ height (x * 1.0) = height x := by
  cases hfinite : x.isFinite with
  | true =>
      have hone : (1.0 : Float).isFinite = true ∧ (0.0 : Float) ≤ 1.0 := by decide
      obtain ⟨hnumber, hheight⟩ := height_mul hfinite hone.1 hx hone.2
      rw [size_one, mul_one, ← height_eq_roundedPlace hfinite hx] at hheight
      exact ⟨hnumber, hheight⟩
  | false =>
      have hinfinity := eq_infinity hx hfinite
      have hheight : height x = 2047 * 2 ^ 52 := by
        rw [height, hinfinity]
        rfl
      rw [hheight]
      refine (settlesAt_infinity_mul isStandard_one (by decide)).height ?_
      rw [← hinfinity]
      rfl

theorem share_bounds (hy : y.isFinite = true) (hpos : 0.0 < y) (hx : 0.0 ≤ x) (h : x ≤ y) :
    0.0 ≤ x / y ∧ x / y ≤ 1.0 := by
  have hfx := isFinite_of_le hy hx h
  obtain ⟨hnumber, hheight⟩ := height_div hfx hy hx hpos
  have hsize : 0 < size y := by
    refine (size_nonneg y).lt_of_ne fun hzero => ?_
    have hplace := (zero_lt_iff.1 hpos).2
    rw [height_eq_roundedPlace hy (zero_le_iff.2 ⟨(zero_lt_iff.1 hpos).1, hplace.le⟩), ← hzero,
      roundedPlace_zero] at hplace
    exact lt_irrefl _ hplace
  refine ⟨zero_le_iff.2 ⟨hnumber, ?_⟩, le_iff.2 ⟨hnumber, rfl, ?_⟩⟩
  · rw [hheight, ← roundedPlace_zero]
    exact roundedPlace_mono le_rfl (div_nonneg (size_nonneg x) (size_nonneg y))
  · rw [hheight, height_one, ← roundedPlace_one]
    exact roundedPlace_mono (div_nonneg (size_nonneg x) (size_nonneg y))
      ((div_le_one hsize).2 (size_le hfx hy hx h))

end

/-! ### Whole numbers -/

theorem exact_filled {n : ℕ} (hn : n ≠ 0) (hfits : n < 2 ^ 53) :
    exact (WholeDouble.filled n) ((n.log2 : ℤ) - 52) = n := by
  have hle := WholeDouble.log2_le hn hfits
  have hexponent : ((52 - n.log2 : ℕ) : ℤ) + ((n.log2 : ℤ) - 52) = 0 := by omega
  rw [exact, WholeDouble.filled, Nat.cast_mul, Nat.cast_pow, Nat.cast_ofNat, mul_assoc,
    ← zpow_natCast, ← zpow_add₀ two_ne_zero, hexponent, zpow_zero, mul_one]

theorem ofNat_bounds {n : ℕ} (hfits : n < 2 ^ 64) :
    (Score.ofNat n : Float).isFinite = true ∧ 0.0 ≤ (Score.ofNat n : Float) := by
  rcases Nat.eq_zero_or_pos n with rfl | hn
  · exact ⟨rfl, by decide⟩
  · obtain ⟨hfinite, hheight⟩ := height_ofNat hn hfits
    refine ⟨hfinite, zero_le_iff.2 ⟨isNaN_of_isFinite hfinite, ?_⟩⟩
    rw [hheight]
    exact nearestPlace_nonneg (by exact_mod_cast hn)

theorem ofNat_pos {n : ℕ} (hn : 0 < n) (hfits : n < 2 ^ 64) : 0.0 < (Score.ofNat n : Float) := by
  obtain ⟨hfinite, hheight⟩ := height_ofNat hn hfits
  have hone : nearestPlace 1 ≤ nearestPlace n := nearestPlace_mono one_pos (by exact_mod_cast hn)
  rw [nearestPlace_one] at hone
  exact zero_lt_iff.2 ⟨isNaN_of_isFinite hfinite, by omega⟩

theorem ofNat_mono {i n : ℕ} (hle : i ≤ n) (hfits : n < 2 ^ 64) :
    (Score.ofNat i : Float) ≤ Score.ofNat n := by
  obtain ⟨hfinite, hnonneg⟩ := ofNat_bounds hfits
  rcases Nat.eq_zero_or_pos i with rfl | hi
  · exact hnonneg
  · obtain ⟨hfinite', hheight'⟩ := height_ofNat hi (hle.trans_lt hfits)
    obtain ⟨-, hheight⟩ := height_ofNat (hi.trans_le hle) hfits
    refine le_iff.2 ⟨isNaN_of_isFinite hfinite', isNaN_of_isFinite hfinite, ?_⟩
    rw [hheight, hheight']
    exact nearestPlace_mono (by exact_mod_cast hi) (by exact_mod_cast hle)

/-- A whole number of 53 digits is told exactly. -/
theorem size_ofNat {n : ℕ} (hfits : n < 2 ^ 53) : size (Score.ofNat n) = n := by
  rcases Nat.eq_zero_or_pos n with rfl | hn
  · exact Nat.cast_zero.symm
  · have hunpack : (Score.ofNat n : Float).toModel.unpack =
        settled (.ofNat .binary64 n.toUInt64.toNat) := rfl
    have hword : n.toUInt64.toNat = n := UInt64.toNat_ofNat_of_lt' (hfits.trans (by decide))
    rw [hword, WholeDouble.ofNat_eq_finite hn.ne' hfits] at hunpack
    obtain ⟨hlow, hhigh⟩ := WholeDouble.filled_bounds hn.ne' hfits
    have hlog := WholeDouble.log2_le hn.ne' hfits
    have hstandard : IsStandard (.finite .positive (WholeDouble.filled n) ((n.log2 : ℤ) - 52)
        (WholeDouble.filled_pos hn.ne')) := ⟨by omega, by omega, hhigh, .inl hlow⟩
    obtain ⟨-, hheight⟩ := (settlesAt_place hstandard nofun).height hunpack
    obtain ⟨hfinite, hnonneg⟩ := ofNat_bounds (hfits.trans (by decide : 2 ^ 53 < 2 ^ 64))
    have hplace := (zero_le_iff.1 hnonneg).2
    have hsame : size (Score.ofNat n) =
        unpackedSize (.finite .positive (WholeDouble.filled n) ((n.log2 : ℤ) - 52)
          (WholeDouble.filled_pos hn.ne')) :=
      (unpackedSize_le (isStandard _) hstandard hfinite rfl hplace hheight.le).antisymm
        (unpackedSize_le hstandard (isStandard _) rfl hfinite (hheight ▸ hplace) hheight.ge)
    rw [hsame, unpackedSize_finite, exact_filled hn.ne' hfits]

end Recommendation.Doubles
