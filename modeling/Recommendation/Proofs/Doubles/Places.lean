import Mathlib
import Recommendation.Proofs.Orders

/-!
Doubles by their heights. What is not a number compares with nothing. All other doubles compare
like whole numbers that can be read off their bits: their places among all doubles, counted from
nought upwards and downwards, with both noughts at zero.
-/

namespace Recommendation.Doubles

open Float.Model Float.Model.UnpackedFloat

/-! ### Unpacked doubles -/

/-- The place of an unpacked double, which its digits fill from the last one on and above which its
exponent counts. -/
def place : UnpackedFloat → Int
  | .infinity s => s.apply (2047 * 2 ^ 52)
  | .notANumber => 0
  | .zero _ => 0
  | .finite s m e _ => s.apply ((e + 1074) * 2 ^ 52 + m)

/-- Finite doubles are unpacked with all their digits, with fewer at the least exponent alone. -/
def IsStandard : UnpackedFloat → Prop
  | .finite _ m e _ => -1074 ≤ e ∧ e ≤ 971 ∧ m < 2 ^ 53 ∧ (2 ^ 52 ≤ m ∨ e = -1074)
  | _ => True

theorem exponentBias_add : (Format.binary64.exponentBias : Int) + (52 : Nat) = 1075 := by
  decide

theorem toNat_implicit_append (m : BitVec 52) : (1#1 ++ m).toNat = 2 ^ 52 + m.toNat := by
  rw [BitVec.toNat_append, ← Nat.shiftLeft_add_eq_or_of_lt (BitVec.isLt _)]
  rfl

theorem isStandard_unpack (b : BitVec 64) : IsStandard (UnpackedFloat.unpack .binary64 b) := by
  have hexponent : (@unpackExponent .binary64 b).toNat < 2 ^ 11 := BitVec.isLt _
  have hmantissa : (@unpackMantissa .binary64 b).toNat < 2 ^ 52 := BitVec.isLt _
  rw [UnpackedFloat.unpack]
  dsimp only
  split
  · split <;> trivial
  · rename_i hfinite
    split
    · split
      · trivial
      · rename_i hzero _
        simp only [IsStandard, hzero]
        exact ⟨by decide, by decide, hmantissa.trans (by decide), .inr (by decide)⟩
    · rename_i hnonzero
      have hne : (@unpackExponent .binary64 b).toNat ≠ 2047 := fun h =>
        hfinite (BitVec.eq_of_toNat_eq h)
      have hne' : (@unpackExponent .binary64 b).toNat ≠ 0 := fun h =>
        hnonzero (BitVec.eq_of_toNat_eq h)
      simp only [IsStandard, toNat_implicit_append, exponentBias_add]
      omega

theorem finite_bounds {m : Nat} {e : Int} {hm : 0 < m} {s : Sign}
    (h : IsStandard (.finite s m e hm)) :
    0 < (e + 1074) * 2 ^ 52 + (m : Int) ∧ (e + 1074) * 2 ^ 52 + (m : Int) < 2047 * 2 ^ 52 := by
  obtain ⟨hlow, hhigh, hwide, hfull⟩ := h
  omega

/-! ### Bits -/

theorem toNat_packComponents (s : Sign) (e : BitVec 11) (m : BitVec 52) :
    (packComponents .binary64 s e m).toNat =
      s.toBitVec.toNat * 2 ^ 63 + e.toNat * 2 ^ 52 + m.toNat := by
  rw [packComponents, BitVec.toNat_append, BitVec.toNat_append,
    ← Nat.shiftLeft_add_eq_or_of_lt (BitVec.isLt _),
    ← Nat.shiftLeft_add_eq_or_of_lt (BitVec.isLt _), Nat.shiftLeft_eq, Nat.shiftLeft_eq]
  omega

theorem exists_eq_packComponents (b : BitVec 64) :
    ∃ s e m, b = packComponents .binary64 s e m :=
  ⟨.ofBitVec (@unpackSign .binary64 b), @unpackExponent .binary64 b, @unpackMantissa .binary64 b,
    (@packComponents_unpackSign_unpackExponent_unpackMantissa .binary64 b).symm⟩

/-- The place of a number is its bits without the first one, which says on which side of nought it
is. -/
theorem place_unpack_packComponents (s : Sign) (e : BitVec 11) (m : BitVec 52)
    (h : UnpackedFloat.unpack .binary64 (packComponents .binary64 s e m) ≠ .notANumber) :
    place (UnpackedFloat.unpack .binary64 (packComponents .binary64 s e m)) =
      s.apply (e.toNat * 2 ^ 52 + m.toNat) := by
  revert h
  rw [UnpackedFloat.unpack]
  simp only [unpackMantissa_packComponents, unpackExponent_packComponents,
    unpackSign_packComponents, Sign.ofBitVec_toBitVec]
  split
  · rename_i he
    subst he
    split
    · rename_i hm
      subst hm
      intro _
      rfl
    · exact fun h => absurd rfl h
  · split
    · rename_i he
      subst he
      split
      · rename_i hm
        subst hm
        intro _
        cases s <;> simp [place, Sign.apply]
      · intro _
        rw [place, exponentBias_add]
        congr 1
    · intro _
      rw [place, exponentBias_add, toNat_implicit_append]
      push_cast
      congr 1
      ring

/-! ### Comparison -/

/-- Exponents first and then digits compare like places. -/
theorem compare_exponent_then_mantissa {m m' : Nat} {e e' : Int} {hm : 0 < m} {hm' : 0 < m'}
    {s s' : Sign} (h : IsStandard (.finite s m e hm)) (h' : IsStandard (.finite s' m' e' hm')) :
    (compare e e').then (compare m m') =
      compare ((e + 1074) * 2 ^ 52 + (m : Int)) ((e' + 1074) * 2 ^ 52 + m') := by
  obtain ⟨hlow, -, hwide, hfull⟩ := h
  obtain ⟨hlow', -, hwide', hfull'⟩ := h'
  rcases Int.lt_trichotomy e e' with hlt | rfl | hgt
  · have hplace : (e + 1074) * 2 ^ 52 + (m : Int) < (e' + 1074) * 2 ^ 52 + m' := by omega
    rw [Std.compare_eq_lt.2 hlt, Std.compare_eq_lt.2 hplace]
    rfl
  · rw [Std.compare_eq_iff_eq.2 rfl, Ordering.eq_then]
    rcases Nat.lt_trichotomy m m' with hlt | rfl | hgt
    · rw [Std.compare_eq_lt.2 hlt, Std.compare_eq_lt.2 (by omega)]
    · rw [Std.compare_eq_iff_eq.2 rfl, Std.compare_eq_iff_eq.2 rfl]
    · rw [Std.compare_eq_gt.2 hgt, Std.compare_eq_gt.2 (by omega)]
  · have hplace : (e + 1074) * 2 ^ 52 + (m : Int) > (e' + 1074) * 2 ^ 52 + m' := by omega
    rw [Std.compare_eq_gt.2 hgt, Std.compare_eq_gt.2 hplace]
    rfl

theorem compare_neg_neg (a b : Int) : compare (-a) (-b) = (compare a b).swap := by
  rw [← Std.OrientedCmp.eq_swap]
  rcases Int.lt_trichotomy a b with hlt | rfl | hgt
  · rw [Std.compare_eq_gt.2 hlt, Std.compare_eq_gt.2 (by omega)]
  · rw [Std.compare_eq_iff_eq.2 rfl, Std.compare_eq_iff_eq.2 rfl]
  · rw [Std.compare_eq_lt.2 hgt, Std.compare_eq_lt.2 (by omega)]

theorem lt_eq_compare_iff {a b : Int} : some .lt = some (compare a b) ↔ a < b := by
  rw [Option.some_inj, eq_comm, Std.compare_eq_lt]

theorem gt_eq_compare_iff {a b : Int} : some .gt = some (compare a b) ↔ b < a := by
  rw [Option.some_inj, eq_comm, Std.compare_eq_gt]

/-- Numbers compare like their places. Only finite ones of one sign are told apart by their digits;
otherwise the signs decide, or one of the numbers is nought or infinite. -/
theorem compare_eq_of_isStandard {x y : UnpackedFloat} (hx : IsStandard x) (hy : IsStandard y)
    (hnx : x ≠ .notANumber) (hny : y ≠ .notANumber) :
    x.compare y = some (compare (place x) (place y)) := by
  cases x with
  | notANumber => exact absurd rfl hnx
  | infinity s =>
      cases y with
      | notANumber => exact absurd rfl hny
      | infinity s' => cases s <;> cases s' <;> rfl
      | zero s' => cases s <;> rfl
      | finite s' m' e' hm' =>
          have hbounds := finite_bounds hy
          cases s <;> cases s' <;>
            simp only [UnpackedFloat.compare, place, Sign.apply, lt_eq_compare_iff,
              gt_eq_compare_iff] <;> omega
  | zero s =>
      cases y with
      | notANumber => exact absurd rfl hny
      | infinity s' => cases s' <;> rfl
      | zero s' => rfl
      | finite s' m' e' hm' =>
          have hbounds := finite_bounds hy
          cases s' <;>
            simp only [UnpackedFloat.compare, place, Sign.apply, lt_eq_compare_iff,
              gt_eq_compare_iff] <;> omega
  | finite s m e hm =>
      have hbounds := finite_bounds hx
      cases y with
      | notANumber => exact absurd rfl hny
      | infinity s' =>
          cases s <;> cases s' <;>
            simp only [UnpackedFloat.compare, place, Sign.apply, lt_eq_compare_iff,
              gt_eq_compare_iff] <;> omega
      | zero s' =>
          cases s <;>
            simp only [UnpackedFloat.compare, place, Sign.apply, lt_eq_compare_iff,
              gt_eq_compare_iff] <;> omega
      | finite s' m' e' hm' =>
          have hbounds' := finite_bounds hy
          cases s <;> cases s' <;>
            simp only [UnpackedFloat.compare, place, Sign.apply, lt_eq_compare_iff,
              gt_eq_compare_iff]
          · rw [compare_exponent_then_mantissa hx hy, compare_neg_neg]
          · omega
          · omega
          · rw [compare_exponent_then_mantissa hx hy]

/-! ### Heights -/

/-- How high a double stands among all doubles, from nought upwards and downwards. -/
def height (x : Float) : Int := place x.toModel.unpack

theorem isNaN_eq_false_iff {x : Float} : x.isNaN = false ↔ x.toModel.unpack ≠ .notANumber := by
  rw [← Bool.not_eq_true]
  exact not_congr UnpackedFloat.isNaN_iff

theorem compare_notANumber_right (x : UnpackedFloat) : x.compare .notANumber = none := by
  cases x <;> rfl

theorem compare_unpack (x y : Float) : x.toModel.unpack.compare y.toModel.unpack =
    if x.isNaN = false ∧ y.isNaN = false then some (compare (height x) (height y)) else none := by
  split
  · rename_i h
    exact compare_eq_of_isStandard (isStandard_unpack _) (isStandard_unpack _)
      (isNaN_eq_false_iff.1 h.1) (isNaN_eq_false_iff.1 h.2)
  · rename_i h
    rw [isNaN_eq_false_iff, isNaN_eq_false_iff, not_and_or, not_not, not_not] at h
    rcases h with h | h
    · rw [h]
      rfl
    · rw [h, compare_notANumber_right]

theorem lt_iff {x y : Float} :
    x < y ↔ x.isNaN = false ∧ y.isNaN = false ∧ height x < height y := by
  have hcompare : x < y ↔ (x.toModel.unpack.compare y.toModel.unpack == some .lt) = true :=
    decide_eq_true_iff
  rw [hcompare, compare_unpack, ← and_assoc]
  split
  · rename_i h
    simp only [beq_iff_eq, Option.some.injEq, Std.compare_eq_lt, h, and_self, true_and]
  · rename_i h
    exact ⟨fun hnone => absurd hnone (by decide), fun hnumbers => absurd hnumbers.1 h⟩

theorem le_iff {x y : Float} :
    x ≤ y ↔ x.isNaN = false ∧ y.isNaN = false ∧ height x ≤ height y := by
  have hcompare : x ≤ y ↔ (x.toModel.unpack.compare y.toModel.unpack).any (·.isLE) = true :=
    decide_eq_true_iff
  rw [hcompare, compare_unpack, ← and_assoc]
  split
  · rename_i h
    simp only [Option.any_some, Std.isLE_compare, h, and_self, true_and]
  · rename_i h
    exact ⟨fun hnone => absurd hnone (by decide), fun hnumbers => absurd hnumbers.1 h⟩

theorem not_self_lt (x : Float) : ¬x < x := by
  rw [lt_iff]
  rintro ⟨-, -, hlt⟩
  exact Int.lt_irrefl _ hlt

theorem asymm_of_lt {x y : Float} (h : x < y) : ¬y < x := by
  rw [lt_iff] at *
  omega

/-- A number that is not above a second one is below whatever the second one is below. -/
theorem lt_of_not_lt_of_lt {x y z : Float} (hx : x.isNaN = false) (h : ¬y < x) (hlt : y < z) :
    x < z := by
  rw [lt_iff] at *
  obtain ⟨hy, hz, hlt⟩ := hlt
  have hle : ¬height y < height x := fun hlt => h ⟨hy, hx, hlt⟩
  exact ⟨hx, hz, by omega⟩

theorem not_lt_of_not_lt_of_lt {x y z : Float} (h : ¬y < x) (hlt : y < z) : ¬z < x := by
  rw [lt_iff] at *
  obtain ⟨hy, hz, hlt⟩ := hlt
  rintro ⟨-, hx, hlt'⟩
  exact h ⟨hy, hx, hlt.trans hlt'⟩

/-- Below nought the places of the total order are one lower, since it tells two noughts apart. -/
theorem height_eq {x : Float} (h : x.isNaN = false) :
    height x = if floatRank x < 0 then floatRank x + 1 else floatRank x := by
  rw [isNaN_eq_false_iff] at h
  obtain ⟨s, e, m, hbits⟩ := exists_eq_packComponents x.toModel.toBits.toBitVec
  have hnat : x.toBits.toNat = s.toBitVec.toNat * 2 ^ 63 + e.toNat * 2 ^ 52 + m.toNat := by
    rw [← toNat_packComponents, ← hbits]
    rfl
  have hunpack : x.toModel.unpack = .unpack .binary64 (packComponents .binary64 s e m) := by
    rw [← hbits]
    rfl
  have hheight : height x = s.apply (e.toNat * 2 ^ 52 + m.toNat) := by
    rw [height, hunpack]
    exact place_unpack_packComponents s e m (hunpack ▸ h)
  have he : e.toNat < 2 ^ 11 := e.isLt
  have hm : m.toNat < 2 ^ 52 := m.isLt
  rw [hheight, floatRank, hnat]
  dsimp only
  cases s <;> simp only [Sign.toBitVec, Sign.apply, BitVec.toNat_ofNat] <;> split_ifs <;> omega

theorem height_le_of_floatRank_le {x y : Float} (hx : x.isNaN = false) (hy : y.isNaN = false)
    (h : floatRank x ≤ floatRank y) : height x ≤ height y := by
  rw [height_eq hx, height_eq hy]
  split_ifs <;> omega

theorem floatRank_eq_height {x : Float} (hx : x.isNaN = false) (hpos : 0 < height x) :
    floatRank x = height x := by
  rw [height_eq hx] at hpos ⊢
  split_ifs at hpos ⊢ <;> omega

end Recommendation.Doubles
