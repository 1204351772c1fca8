import Recommendation.Proofs.Doubles.NearestWhole
import Recommendation.Proofs.Json.Numerals

/-!
Doubles in data texts. The text of a finite double is a numeral, whichever of its forms it has, and
that numeral is a double: it has digits that fit, and they do not make more than what rounds to the
greatest double. What is not finite has the text of null.
-/

namespace Recommendation

open Doubles
open Time (digitsValue)

namespace Json

/-! ### Numerals as doubles -/

namespace Numeral

/-- A numeral whose digits fit is those digits times a power of ten. -/
theorem float?_eq {n : Numeral} {e : ℤ} (hdigits : digitsValue (n.whole ++ n.fraction) ≤ maxWord)
    (hexponent : exponentValue? n.exponent = some e) :
    n.float? = (scale? (Score.ofNat (digitsValue (n.whole ++ n.fraction)))
      (e - n.fraction.length)).map fun x => if n.negative then -x else x := by
  rw [digitsValue_append] at *
  have hwhole : fitWord 0 n.whole = (digitsValue n.whole, []) := by
    have hpos : 0 < 10 ^ n.fraction.length := Nat.pow_pos (by decide)
    have hle := Nat.le_mul_of_pos_right (digitsValue n.whole) hpos
    rw [fitWord_eq (by omega), Nat.zero_mul, Nat.zero_add]
  rw [float?, hwhole]
  dsimp only
  rw [List.isEmpty_nil, if_pos rfl, fitWord_eq hdigits, hexponent]
  dsimp only
  have hkept : (([] : List Char).length : ℤ) -
      ((n.fraction.length : ℤ) - ([] : List Char).length) + e = e - n.fraction.length := by
    rw [List.length_nil]
    omega
  rw [hkept]
  rfl

end Numeral

theorem isSome_scale?_of_neg (x : Float) {e : ℤ} (h : e < 0) : (scale? x e).isSome = true := by
  rw [scale?, if_neg (by omega)]
  dsimp only
  split_ifs <;> rfl

theorem isSome_scale?_of_isFinite {x : Float} {e : ℤ} (hnonneg : 0 ≤ e) (hle : e ≤ 308)
    (h : (x * powerOfTen e.toNat).isFinite = true) : (scale? x e).isSome = true := by
  rw [scale?, if_pos hnonneg, if_neg (by omega)]
  dsimp only
  rw [isInf_of_isFinite h]
  rfl

theorem exponentValue?_toDigits {e : ℤ} (h : e.natAbs ≤ 0x7fffffff) :
    exponentValue? (some (decide (e < 0), Nat.toDigits 10 e.natAbs)) = some e := by
  rw [exponentValue?, digitsValue_toDigits, if_pos h]
  simp only [decide_eq_true_eq, Option.some.injEq]
  split_ifs <;> omega

end Json

/-! ### The forms of a decimal -/

namespace Decimal

open Json (Numeral)

namespace Shortest

structure IsReadable (d : Shortest) : Prop where
  digits : d.coefficient ≤ 10 ^ 17
  zero : d.coefficient = 0 → d.exponent = 0
  low : -417 ≤ d.exponent
  high : d.exponent ≤ 308
  scaled : (Json.scale? (Score.ofNat d.coefficient) d.exponent).isSome = true

def numeral (negative : Bool) (d : Shortest) : Numeral :=
  let digits := Nat.toDigits 10 d.coefficient
  let point : ℤ := digits.length + d.exponent
  let exponent : ℤ := digits.length - 1 + d.exponent
  if -5 ≤ exponent ∧ exponent ≤ 15 then
    if 0 ≤ d.exponent then
      ⟨negative, digits ++ List.replicate d.exponent.toNat '0', ['0'], none⟩
    else if 0 < point then ⟨negative, digits.take point.toNat, digits.drop point.toNat, none⟩
    else ⟨negative, ['0'], List.replicate (-point).toNat '0' ++ digits, none⟩
  else
    ⟨negative, digits.take 1, digits.drop 1, some (exponent < 0, Nat.toDigits 10 exponent.natAbs)⟩

variable {d : Shortest} {negative : Bool}

theorem toList_repr (n : ℕ) : n.repr.toList = Nat.toDigits 10 n := by
  rw [Nat.repr_eq_ofList_toDigits, String.toList_ofList]

theorem drop_toDigits_ne_nil {n k : ℕ} (h : k < (Nat.toDigits 10 n).length) :
    (Nat.toDigits 10 n).drop k ≠ [] := by
  rw [Ne, List.drop_eq_nil_iff]
  omega

theorem toList_format (d : Shortest) (negative : Bool) :
    (d.format dataFormat).toList = (d.numeral negative).text := by
  rw [format, numeral]
  dsimp only [dataFormat]
  rw [length_repr]
  split_ifs with hplain hwhole hpoint
  · rw [written, if_pos hwhole]
    simp only [String.toList_append, toList_repr, zeros, String.toList_ofList, Numeral.text,
      Numeral.fractionText, Numeral.exponentText, List.append_nil]
    rfl
  · have hdrop := drop_toDigits_ne_nil (n := d.coefficient)
      (k := ((Nat.toDigits 10 d.coefficient).length + d.exponent).toNat) (by omega)
    rw [written, if_neg hwhole, length_repr, if_pos hpoint]
    simp only [String.toList_append, toList_repr, String.toList_ofList, Numeral.text,
      Numeral.fractionText, Numeral.exponentText, List.append_nil, if_neg hdrop, List.append_assoc]
    rfl
  · rw [written, if_neg hwhole, length_repr, if_neg hpoint]
    have hne : List.replicate (-(((Nat.toDigits 10 d.coefficient).length : ℤ) + d.exponent)).toNat
        '0' ++ Nat.toDigits 10 d.coefficient ≠ [] :=
      List.append_ne_nil_of_right_ne_nil _ Nat.toDigits_ne_nil
    simp only [String.toList_append, toList_repr, zeros, String.toList_ofList, Numeral.text,
      Numeral.fractionText, Numeral.exponentText, List.append_nil, if_neg hne]
    rfl
  · rw [scientific]
    simp only [String.toList_append, toList_repr, String.toList_ofList, Numeral.text,
      Numeral.fractionText, Numeral.exponentText]
    generalize ((Nat.toDigits 10 d.coefficient).length : ℤ) - 1 + d.exponent = exponent
    by_cases hbelow : exponent < 0
    · cases (Nat.toDigits 10 d.coefficient).drop 1 <;> simp [hbelow]
    · cases (Nat.toDigits 10 d.coefficient).drop 1 <;> simp [hbelow]

theorem wellFormed_numeral (hzero : d.coefficient = 0 → d.exponent = 0) (negative : Bool) :
    (d.numeral negative).WellFormed := by
  have hne : Nat.toDigits 10 d.coefficient ≠ [] := Nat.toDigits_ne_nil
  have hdigits := Json.areDigits_toDigits d.coefficient
  have hpos (h : d.exponent ≠ 0) : 0 < d.coefficient :=
    Nat.pos_of_ne_zero fun hnone => h (hzero hnone)
  rw [numeral]
  split_ifs with hplain hwhole hpoint
  · refine ⟨⟨List.append_ne_nil_of_left_ne_nil hne _,
      Json.areDigits_append hdigits (Json.areDigits_zeros _)⟩, ?_, Json.areDigits_zeros 1, nofun⟩
    rintro ⟨hlength, hhead⟩
    dsimp only at hlength hhead
    rw [List.head?_append_of_ne_nil _ hne] at hhead
    -- Only nought begins with a nought, and it has one digit.
    rcases Nat.eq_zero_or_pos d.coefficient with hnone | hsome
    · rw [hnone, hzero hnone] at hlength
      exact absurd hlength (by decide)
    · exact Json.head_toDigits hsome hhead
  · have htake : (Nat.toDigits 10 d.coefficient).take
        (((Nat.toDigits 10 d.coefficient).length : ℤ) + d.exponent).toNat ≠ [] := by
      rw [Ne, List.take_eq_nil_iff]
      exact fun h => h.elim (by omega) hne
    refine ⟨⟨htake, fun c hc => hdigits c (List.mem_of_mem_take hc)⟩, ?_,
      fun c hc => hdigits c (List.mem_of_mem_drop hc), nofun⟩
    rintro ⟨-, hhead⟩
    dsimp only at hhead
    rw [List.head?_take, if_neg (by omega)] at hhead
    exact Json.head_toDigits (hpos (by omega)) hhead
  · exact ⟨⟨List.cons_ne_nil _ _, Json.areDigits_zeros 1⟩, fun h => lt_irrefl 1 h.1,
      Json.areDigits_append (Json.areDigits_zeros _) hdigits, nofun⟩
  · refine ⟨⟨?_, fun c hc => hdigits c (List.mem_of_mem_take hc)⟩, ?_,
      fun c hc => hdigits c (List.mem_of_mem_drop hc), ?_⟩
    · rw [Ne, List.take_eq_nil_iff]
      exact fun h => h.elim (by decide) hne
    · rintro ⟨hlength, -⟩
      dsimp only at hlength
      rw [List.length_take] at hlength
      omega
    · rintro e he
      cases he
      exact ⟨Nat.toDigits_ne_nil, Json.areDigits_toDigits _⟩

/-- The numeral of a decimal that can be read is a double. -/
theorem isSome_float?_numeral (h : d.IsReadable) (negative : Bool) :
    (d.numeral negative).float?.isSome = true := by
  have hword : 10 ^ 17 ≤ Json.maxWord := by decide
  have hlength : 0 < (Nat.toDigits 10 d.coefficient).length := Nat.length_toDigits_pos
  have hbound : (Nat.toDigits 10 d.coefficient).length ≤ 18 :=
    (Nat.length_toDigits_le_iff (by decide) (by decide)).2
      (h.digits.trans_lt (by decide : 10 ^ 17 < 10 ^ 18))
  have hvalue := Json.digitsValue_toDigits d.coefficient
  have hlow := h.low
  have hhigh := h.high
  rw [numeral]
  split_ifs with hplain hwhole hpoint
  · -- At most sixteen digits stand in front of the point, and one behind it.
    have hfits : d.coefficient * 10 ^ d.exponent.toNat < 10 ^ 16 := by
      have hdigits : d.coefficient < 10 ^ (Nat.toDigits 10 d.coefficient).length :=
        (Nat.length_toDigits_le_iff (by decide) hlength).1 le_rfl
      calc d.coefficient * 10 ^ d.exponent.toNat
          < 10 ^ (Nat.toDigits 10 d.coefficient).length * 10 ^ d.exponent.toNat :=
            Nat.mul_lt_mul_of_pos_right hdigits (Nat.pow_pos (by decide))
        _ ≤ 10 ^ 16 := by
            rw [← pow_add]
            exact Nat.pow_le_pow_right (by decide) (by omega)
    rw [Json.Numeral.float?_eq (e := 0) ?_ rfl, Option.isSome_map]
    · refine Json.isSome_scale?_of_neg _ ?_
      dsimp only
      rw [List.length_singleton]
      decide
    · rw [Json.digitsValue_append, Json.digitsValue_append, hvalue, List.length_replicate,
        Json.digitsValue_zeros]
      have hlast : digitsValue ['0'] = 0 := rfl
      rw [hlast, List.length_singleton]
      omega
  · have hdrop := drop_toDigits_ne_nil (n := d.coefficient)
      (k := (((Nat.toDigits 10 d.coefficient).length : ℤ) + d.exponent).toNat) (by omega)
    have hpos := List.length_pos_iff.2 hdrop
    rw [Json.Numeral.float?_eq (e := 0) ?_ rfl, Option.isSome_map]
    · exact Json.isSome_scale?_of_neg _ (by dsimp only; omega)
    · rw [List.take_append_drop, hvalue]
      exact h.digits.trans hword
  · rw [Json.Numeral.float?_eq (e := 0) ?_ rfl, Option.isSome_map]
    · refine Json.isSome_scale?_of_neg _ ?_
      dsimp only
      rw [List.length_append]
      omega
    · rw [Json.digitsValue_append, Json.digitsValue_append, hvalue, Json.digitsValue_zeros]
      have hfirst : digitsValue ['0'] = 0 := rfl
      rw [hfirst]
      have := h.digits
      omega
  · rw [Json.Numeral.float?_eq ?_ (Json.exponentValue?_toDigits (by omega)), Option.isSome_map]
    · have hexponent : ((Nat.toDigits 10 d.coefficient).length : ℤ) - 1 + d.exponent -
          ((Nat.toDigits 10 d.coefficient).drop 1).length = d.exponent := by
        rw [List.length_drop]
        omega
      dsimp only
      rw [hexponent, List.take_append_drop, hvalue]
      exact h.scaled
    · dsimp only
      rw [List.take_append_drop, hvalue]
      exact h.digits.trans hword

end Shortest

/-! ### Doubles -/

/-- A decimal that makes no more than the upper end of the second greatest double can be read. -/
theorem Shortest.isReadable_of_le {d : Shortest} (hdigits : d.coefficient ≤ 10 ^ 17)
    (hzero : d.coefficient = 0 → d.exponent = 0) (hlow : -417 ≤ d.exponent)
    (hvalue : d.value ≤ secondTop) : d.IsReadable := by
  have htop : secondTop < 10 ^ 309 := by decide +kernel
  have hwhole (hnonneg : 0 ≤ d.exponent) :
      d.coefficient * 10 ^ d.exponent.toNat ≤ secondTop := by
    have hpower : (10 : ℚ) ^ d.exponent = 10 ^ d.exponent.toNat := by
      rw [← zpow_natCast, Int.toNat_of_nonneg hnonneg]
    rw [Shortest.value, hpower] at hvalue
    exact_mod_cast hvalue
  have hhigh : d.exponent ≤ 308 := by
    rcases Nat.eq_zero_or_pos d.coefficient with hnone | hsome
    · rw [hzero hnone]
      decide
    · by_contra hlarge
      have hle := (Nat.le_mul_of_pos_left (10 ^ d.exponent.toNat) hsome).trans (hwhole (by omega))
      have := (Nat.pow_lt_pow_iff_right (a := 10) (by decide)).1 (hle.trans_lt htop)
      omega
  refine ⟨hdigits, hzero, hlow, hhigh, ?_⟩
  rcases lt_or_ge d.exponent 0 with hneg | hnonneg
  · exact Json.isSome_scale?_of_neg _ hneg
  · exact Json.isSome_scale?_of_isFinite hnonneg hhigh
      (isFinite_ofNat_mul_powerOfTen hdigits (by omega) (hwhole hnonneg))

/-- What is written for a double can be read as a double again. -/
theorem Binary.Canonical.isReadable_shortest {b : Binary} (h : b.Canonical) :
    b.shortest.IsReadable := by
  by_cases htop : b.mantissa = 2 ^ 53 - 1 ∧ b.exponent = 971
  · have hgreatest : b = greatest b.negative := by
      obtain ⟨negative, mantissa, exponent⟩ := b
      obtain ⟨rfl, rfl⟩ := htop
      rfl
    rw [hgreatest, shortest_greatest]
    exact ⟨by decide, by decide, by decide, by decide, by decide +kernel⟩
  · obtain ⟨hdigits, hzero, hlow, hvalue⟩ := b.shortest_spec
    exact Shortest.isReadable_of_le hdigits hzero hlow
      (hvalue.trans (le_secondTop h.wide h.high htop))

def Binary.numeral (b : Binary) : Numeral := b.shortest.numeral b.negative

theorem numeral_spec {x : Float} {b : Binary} (h : read x = .finite b) :
    b.numeral.WellFormed ∧ b.numeral.float?.isSome = true ∧
      (data x).toList = (if b.numeral.negative then ['-'] else []) ++ b.numeral.text := by
  have hreadable := (canonical_of_read h).isReadable_shortest
  refine ⟨Shortest.wellFormed_numeral hreadable.zero _,
    Shortest.isSome_float?_numeral hreadable _, ?_⟩
  have hnegative : b.numeral.negative = b.negative := by
    rw [Binary.numeral, Shortest.numeral]
    split_ifs <;> rfl
  rw [data, format, h, hnegative]
  dsimp only
  rw [String.toList_append, Shortest.toList_format _ b.negative, minus, Binary.numeral]
  congr 1
  cases b.negative <;> rfl

theorem data_of_not_isFinite {x : Float} (hx : x.isFinite = false) : data x = "null" := by
  rw [data, format]
  cases hread : read x with
  | finite b =>
      rw [isFinite_of_read hread] at hx
      cases hx
  | infinite negative => rfl
  | nan => rfl

end Decimal

end Recommendation
