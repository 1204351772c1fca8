import Recommendation.ModelVersion
import Recommendation.Proofs.Doubles.Sizes
import Recommendation.Proofs.Json.Distinct
import Recommendation.Proofs.Settings

/-!
What the fingerprint in the name of a model is taken of. Settings and weights that have passed their
checks have finite doubles only, so each of them has a text of its own, and the text of the settings
ends where that of the weights begins.
-/

namespace Recommendation

open Json (Value)

/-! ### Bytes -/

theorem toList_loop_eq (bytes : ByteArray) (i : ℕ) (before : List UInt8) :
    ByteArray.toList.loop bytes i before = before.reverse ++ bytes.data.toList.drop i := by
  fun_induction ByteArray.toList.loop bytes i before with
  | case1 i before h ih =>
      have hi : i < bytes.data.toList.length := h
      have hbyte : bytes.get! i = bytes.data.toList[i] := getElem!_pos bytes.data i h
      rw [ih, List.drop_eq_getElem_cons hi, List.reverse_cons, List.append_assoc, hbyte]
      rfl
  | case2 i before h =>
      have hi : bytes.data.toList.length ≤ i := Nat.le_of_not_lt h
      rw [List.drop_eq_nil_of_le hi, List.append_nil]

theorem eq_of_bytes_eq {s t : String} (h : s.toUTF8.toList = t.toUTF8.toList) : s = t := by
  rw [ByteArray.toList, ByteArray.toList, toList_loop_eq, toList_loop_eq] at h
  exact String.toByteArray_inj.1 (ByteArray.ext (Array.toList_inj.1 h))

/-! ### Settings and weights as values -/

namespace Settings

variable {s t : Settings}

theorem IsShare.isFinite {x : Float} (h : IsShare x) : x.isFinite = true :=
  Doubles.isFinite_of_le (by decide) h.1 h.2

/-- The doubles among settings that have passed their check are finite. -/
theorem IsSound.isFinite_toValue (h : s.IsSound) : s.toValue.IsFinite := by
  have hfloat {x : Float} : (Value.float x).IsFinite ↔ x.isFinite = true :=
    ⟨fun h => by cases h; assumption, .float⟩
  have hcodes (xs : List ℤ) : (Value.array (xs.map .int)).IsFinite :=
    .array (List.forall_mem_map.2 fun n _ => .int n)
  have htexts (xs : List String) : (Value.texts xs).IsFinite :=
    .array (List.forall_mem_map.2 fun text _ => .text text)
  refine .object (List.forall_mem_map.2 ?_)
  simp only [fields, List.forall_mem_cons, fieldValue, hfloat, Value.IsFinite.int,
    Value.IsFinite.bool, hcodes, htexts, true_and, List.not_mem_nil, false_imp_iff, implies_true,
    and_true]
  exact ⟨h.halfLife.1, h.popularityWindow.1, h.coVisitationWindow.1, h.balance.isFinite,
    h.purchasedWindow.1, h.profileWindow.1, h.profileBoost.1, h.coldStart.isFinite,
    h.weights.finite .popularity, h.weights.finite .coVisitation, h.weights.finite .profile⟩

/-- Every setting is among the fields, so different settings are different values. -/
theorem toValue_injective : Function.Injective toValue := by
  intro s t h
  have hcodes : Function.Injective (List.map Value.int) :=
    List.map_injective_iff.2 fun _ _ => Value.int.inj
  have htexts : Function.Injective Value.texts :=
    fun _ _ h => List.map_injective_iff.2 (fun _ _ => Value.text.inj) (Value.array.inj h)
  simp only [toValue, Value.object.injEq, fields, List.map_cons, List.map_nil, List.cons.injEq,
    Prod.mk.injEq, true_and, and_true, fieldValue, Value.float.injEq, Value.int.injEq,
    Nat.cast_inj, Value.bool.injEq, Value.array.injEq, hcodes.eq_iff, htexts.eq_iff] at h
  obtain ⟨_, _, _, _, _, _, _, _, _, _, _, _, _, _, _, _, _, _, _, _, _, ⟨_, _, _⟩, _⟩ := s
  obtain ⟨_, _, _, _, _, _, _, _, _, _, _, _, _, _, _, _, _, _, _, _, _, ⟨_, _, _⟩, _⟩ := t
  obtain ⟨rfl, rfl, rfl, rfl, rfl, rfl, rfl, rfl, rfl, rfl, rfl, rfl, rfl, rfl, rfl, rfl, rfl, rfl,
    rfl, rfl, rfl, rfl, rfl, rfl, rfl⟩ := h
  rfl

end Settings

theorem Weights.IsSound.isFinite_toValue {w : Weights Float} (h : w.IsSound) :
    w.toValue.IsFinite := by
  refine .object ?_
  simp only [List.forall_mem_cons, List.not_mem_nil, false_imp_iff, implies_true, and_true]
  exact ⟨.float (h.finite .popularity), .float (h.finite .coVisitation),
    .float (h.finite .profile)⟩

theorem Weights.toValue_injective : Function.Injective (toValue : Weights Float → Value) := by
  intro w v h
  simp only [toValue, Value.object.injEq, List.cons.injEq, Prod.mk.injEq, true_and, and_true,
    Value.float.injEq] at h
  obtain ⟨popularity, coVisitation, profile⟩ := w
  obtain ⟨rfl, rfl, rfl⟩ := h
  rfl

/-! ### What is hashed -/

/-- The bytes that the fingerprint is taken of are the same if and only if all settings and all
weights are the same, doubles bit for bit. -/
theorem fingerprintText_bytes_eq_iff {s t : Settings} {w v : Weights Float}
    (hs : s.validate = .ok ()) (ht : t.validate = .ok ()) (hw : w.validate = .ok ())
    (hv : v.validate = .ok ()) :
    (fingerprintText s w).toUTF8.toList = (fingerprintText t v).toUTF8.toList ↔ s = t ∧ w = v := by
  constructor
  · intro h
    have htext : s.toValue.compact ++ w.toValue.compact = t.toValue.compact ++ v.toValue.compact :=
      eq_of_bytes_eq h
    have hsvalue := (Settings.validate_eq_ok_iff.1 hs).isFinite_toValue
    have htvalue := (Settings.validate_eq_ok_iff.1 ht).isFinite_toValue
    have hwvalue := (Weights.validate_eq_ok_iff.1 hw).isFinite_toValue
    have hvvalue := (Weights.validate_eq_ok_iff.1 hv).isFinite_toValue
    obtain ⟨hfields, hrest⟩ := Value.eq_of_compact_append_eq hsvalue htvalue htext
    exact ⟨Settings.toValue_injective (congrArg Value.object hfields),
      Weights.toValue_injective (Value.eq_of_compact_eq hwvalue hvvalue hrest)⟩
  · rintro ⟨rfl, rfl⟩
    rfl

/-- Two starts of brands, and one that looks like them when it stands between quotes. -/
def listedStarts : Settings := { brandStarts := ["brand:", "maker:"] }

def joinedStarts : Settings := { brandStarts := ["brand:\",\"maker:"] }

/-- A boost that changes nothing, with either sign. -/
def signedBoost (boost : Float) : Settings := { profileBoost := boost }

theorem fingerprintText_bytes_ne_joinedStarts :
    listedStarts.validate = .ok () ∧ joinedStarts.validate = .ok () ∧
      (signedBoost 0.0).validate = .ok () ∧ (signedBoost (-0.0)).validate = .ok () ∧
      listedStarts.weights.validate = .ok () ∧
      (fingerprintText listedStarts listedStarts.weights).toUTF8.toList ≠
        (fingerprintText joinedStarts listedStarts.weights).toUTF8.toList ∧
      (fingerprintText (signedBoost 0.0) listedStarts.weights).toUTF8.toList ≠
        (fingerprintText (signedBoost (-0.0)) listedStarts.weights).toUTF8.toList := by
  have hlisted : listedStarts.validate = .ok () := rfl
  have hjoined : joinedStarts.validate = .ok () := rfl
  have hpositive : (signedBoost 0.0).validate = .ok () := rfl
  have hnegative : (signedBoost (-0.0)).validate = .ok () := rfl
  have hweights : listedStarts.weights.validate = .ok () := rfl
  refine ⟨hlisted, hjoined, hpositive, hnegative, hweights, fun h => ?_, fun h => ?_⟩
  · obtain ⟨hsettings, -⟩ :=
      (fingerprintText_bytes_eq_iff hlisted hjoined hweights hweights).1 h
    exact absurd (congrArg Settings.brandStarts hsettings) (by decide)
  · obtain ⟨hsettings, -⟩ :=
      (fingerprintText_bytes_eq_iff hpositive hnegative hweights hweights).1 h
    exact absurd (congrArg (fun s => s.profileBoost.toBits) hsettings) (by decide)

end Recommendation
