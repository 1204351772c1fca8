import Recommendation.Proofs.Doubles.Laws
import Recommendation.Proofs.Results
import Recommendation.Settings

/-!
What settings are like that pass their check, and weights that pass theirs. Both checks go
through what they look at one by one, so what passes has every one of the properties.
-/

namespace Recommendation

open Doubles

/-- What comes after a fault that would end it is reached without the fault alone. -/
theorem pass_then_eq_ok_iff {ε α : Type} {p : Prop} [Decidable p] {fault : ε} {u : α}
    {rest : Except ε α} :
    (if p then rest else do
      (throw fault : Except ε Unit)
      rest) = .ok u ↔ p ∧ rest = .ok u := by
  split
  · exact (and_iff_right ‹p›).symm
  · exact ⟨nofun, fun h => absurd h.1 ‹¬p›⟩

theorem pass_or_throw_eq_ok_iff {ε : Type} {p : Prop} [Decidable p] {fault : ε} {u : Unit} :
    (if p then pure () else throw fault : Except ε Unit) = .ok u ↔ p := by
  split
  · exact ⟨fun _ => ‹p›, fun _ => rfl⟩
  · exact ⟨nofun, fun h => absurd h ‹¬p›⟩

/-! ### Weights -/

namespace Weights

structure IsSound (weights : Weights Float) : Prop where
  finite : ∀ signal, (weights.get signal).isFinite = true
  nonneg : ∀ signal, 0.0 ≤ weights.get signal
  positive : ∃ signal, 0.0 < weights.get signal

theorem check_eq_ok_iff {name : String} {x : Float} {u : Unit} :
    check name x = .ok u ↔ x.isFinite = true ∧ 0.0 ≤ x := by
  rw [check]
  change (if (!x.isFinite) = true then _ else if decide (x < 0.0) = true then _ else _) = _ ↔ _
  cases hx : x.isFinite with
  | false => exact ⟨nofun, fun h => nomatch h.1⟩
  | true =>
      have hnumber := (isFinite_iff.1 hx).1
      have hle : ¬x < 0.0 ↔ 0.0 ≤ x := by
        rw [lt_iff, zero_le_iff, height_zero.2]
        simp only [hnumber, height_zero.1, true_and, Int.not_lt]
      simp only [Bool.not_true, Bool.false_eq_true, if_false, decide_eq_true_eq, true_and, ← hle]
      rw [← ite_not, pass_or_throw_eq_ok_iff]

theorem validate_eq_ok_iff {weights : Weights Float} {u : Unit} :
    weights.validate = .ok u ↔ weights.IsSound := by
  have hpositive : (Signal.all.any fun s => Score.isPositive (weights.get s)) = true ↔
      ∃ signal, 0.0 < weights.get signal := by
    rw [List.any_eq_true]
    constructor
    · rintro ⟨signal, -, hsignal⟩
      exact ⟨signal, of_decide_eq_true hsignal⟩
    · rintro ⟨signal, hsignal⟩
      exact ⟨signal, by cases signal <;> decide, decide_eq_true hsignal⟩
  simp only [validate, Except.bind_eq_ok_iff, check_eq_ok_iff, pass_or_throw_eq_ok_iff, hpositive,
    exists_const]
  constructor
  · rintro ⟨hpopularity, hcoVisitation, hprofile, hsome⟩
    refine ⟨fun signal => ?_, fun signal => ?_, hsome⟩ <;> cases signal
    · exact hpopularity.1
    · exact hcoVisitation.1
    · exact hprofile.1
    · exact hpopularity.2
    · exact hcoVisitation.2
    · exact hprofile.2
  · intro h
    exact ⟨⟨h.finite .popularity, h.nonneg .popularity⟩,
      ⟨h.finite .coVisitation, h.nonneg .coVisitation⟩, ⟨h.finite .profile, h.nonneg .profile⟩,
      h.positive⟩

end Weights

/-! ### Settings -/

namespace Settings

def IsSpan (days : Float) : Prop := days.isFinite = true ∧ 0.0 < days

theorem IsSpan.nonneg {days : Float} (h : IsSpan days) : 0.0 ≤ days := by
  obtain ⟨hnumber, hpos⟩ := zero_lt_iff.1 h.2
  exact zero_le_iff.2 ⟨hnumber, hpos.le⟩

def IsShare (x : Float) : Prop := 0.0 ≤ x ∧ x ≤ 1.0

structure IsSound (s : Settings) : Prop where
  halfLife : IsSpan s.halfLife
  popularityWindow : IsSpan s.popularityWindow
  coVisitationWindow : IsSpan s.coVisitationWindow
  purchasedWindow : IsSpan s.purchasedWindow
  profileWindow : IsSpan s.profileWindow
  balance : IsShare s.balance
  coldStart : IsShare s.coldStart
  counts : ∀ n ∈ [s.maxListLength, s.popularityFanout, s.coVisitationFanout, s.profileFanout,
    s.profileTags, s.maxPinSlots], n ≠ 0
  profileBoost : s.profileBoost.isFinite = true ∧ 0.0 ≤ s.profileBoost
  weights : s.weights.IsSound

theorem checkPositive_eq_ok_iff {name : String} {x : Float} {u : Unit} :
    checkPositive name x = .ok u ↔ IsSpan x := by
  rw [checkPositive, pass_or_throw_eq_ok_iff, Bool.and_eq_true, decide_eq_true_eq, IsSpan]

theorem checkUnit_eq_ok_iff {name : String} {x : Float} {u : Unit} :
    checkUnit name x = .ok u ↔ IsShare x := by
  rw [checkUnit, pass_or_throw_eq_ok_iff, Bool.and_eq_true, decide_eq_true_eq, decide_eq_true_eq,
    IsShare]

theorem checkCount_eq_ok_iff {name : String} {n : Nat} {u : Unit} :
    checkCount name n = .ok u ↔ n ≠ 0 := by
  rw [checkCount, ← ite_not, pass_or_throw_eq_ok_iff]

theorem validate_eq_ok_iff {s : Settings} {u : Unit} : s.validate = .ok u ↔ s.IsSound := by
  simp only [validate, Except.bind_eq_ok_iff, checkPositive_eq_ok_iff, checkUnit_eq_ok_iff,
    checkCount_eq_ok_iff, pass_then_eq_ok_iff, Except.mapError_eq_ok_iff,
    Weights.validate_eq_ok_iff, Bool.and_eq_true, decide_eq_true_eq, exists_const]
  constructor
  · rintro ⟨hhalfLife, hpopularity, hcoVisitation, hpurchased, hprofile, hbalance, hcoldStart,
      hlength, hpopular, hvisitors, hinterests, htags, hslots, hboost, hweights⟩
    refine ⟨hhalfLife, hpopularity, hcoVisitation, hpurchased, hprofile, hbalance, hcoldStart, ?_,
      hboost, hweights⟩
    simp only [List.forall_mem_cons, List.not_mem_nil, false_imp_iff, implies_true]
    exact ⟨hlength, hpopular, hvisitors, hinterests, htags, hslots, trivial⟩
  · intro h
    have hcounts := h.counts
    simp only [List.forall_mem_cons] at hcounts
    obtain ⟨hlength, hpopular, hvisitors, hinterests, htags, hslots, -⟩ := hcounts
    exact ⟨h.halfLife, h.popularityWindow, h.coVisitationWindow, h.purchasedWindow,
      h.profileWindow, h.balance, h.coldStart, hlength, hpopular, hvisitors, hinterests, htags,
      hslots, h.profileBoost, h.weights⟩

end Settings

end Recommendation
