import Recommendation.Engine
import Recommendation.Proofs.Results

/-!
What a request must be like to get to the store. Each check is characterized by the
requests that it lets through, and whatever a check says against a request counts as
a fault of the caller.
-/

namespace Recommendation

theorem Blend.validate_of_resolve {α : Type} [Score α] {blend : Blend α}
    {requested : Option (Weights α)} {weights : Weights α}
    (h : blend.resolve requested = .ok weights) : weights.validate = .ok () := by
  rw [resolve] at h
  cases hvalid : (requested.getD blend.defaults).validate with
  | error fault =>
      rw [hvalid] at h
      cases h
  | ok u =>
      rw [hvalid] at h
      rw [← Except.ok.inj h]
      exact hvalid

namespace Engine

variable {σ α : Type} [Score α] {e : Engine σ}

theorem contextOf_org (ctx : Context) (asOf : Option Time.Instant) :
    (contextOf ctx asOf).org = ctx.org := by
  cases asOf <;> rfl

theorem checkSpace_eq_ok_iff {space trimmed : String} :
    checkSpace space = .ok trimmed ↔ Text.trim space ≠ "" ∧ trimmed = Text.trim space := by
  rw [checkSpace]
  split
  · rename_i hblank
    exact ⟨nofun, fun h => absurd (beq_iff_eq.1 hblank) h.1⟩
  · rename_i hname
    rw [beq_iff_eq] at hname
    constructor
    · rintro ⟨⟩
      exact ⟨hname, rfl⟩
    · rintro ⟨-, rfl⟩
      rfl

theorem checkLength_eq_ok_iff {k : Int} {n : Nat} :
    e.checkLength k = .ok n ↔ 0 < k ∧ k ≤ e.settings.maxListLength ∧ n = k.toNat := by
  rw [checkLength]
  split
  · exact ⟨nofun, fun h => by omega⟩
  · split
    · rename_i hpos hmost
      constructor
      · rintro ⟨⟩
        exact ⟨Int.not_le.1 hpos, hmost, rfl⟩
      · rintro ⟨-, -, rfl⟩
        rfl
    · exact ⟨nofun, fun h => by omega⟩

theorem checkConstraints_eq_ok_iff {c : Option Constraints} {u : Unit} :
    checkConstraints c = .ok u ↔ c.all (·.hasValidPrices) = true := by
  rw [checkConstraints]
  split
  · rename_i hvalid
    exact ⟨fun _ => hvalid, fun _ => rfl⟩
  · rename_i hinvalid
    exact ⟨nofun, fun h => absurd h hinvalid⟩

/-- A request for a user that passes names a user and a namespace, asks for a list that
is not too long, has a range of prices that makes sense and weights that can be used. -/
theorem check_eq_ok_iff {r : RecommendRequest α} {checked : Checked α} :
    e.check r = .ok checked ↔
      Text.trim r.userId ≠ "" ∧ Text.trim r.space ≠ "" ∧
        (0 < r.k ∧ r.k ≤ e.settings.maxListLength) ∧
        r.constraints.all (·.hasValidPrices) = true ∧
        (e.blend : Blend α).resolve r.blend = .ok checked.weights ∧
        checked = ⟨Text.trim r.userId, Text.trim r.space, r.k.toNat, checked.weights⟩ := by
  rw [check]
  dsimp only
  split
  · rename_i hblank
    exact ⟨nofun, fun h => absurd (beq_iff_eq.1 hblank) h.1⟩
  · rename_i huser
    rw [beq_iff_eq] at huser
    simp only [Except.bind_eq_ok_iff, checkSpace_eq_ok_iff, checkLength_eq_ok_iff,
      checkConstraints_eq_ok_iff, Except.mapError_eq_ok_iff]
    constructor
    · rintro ⟨_, ⟨hspace, rfl⟩, _, ⟨hpos, hmost, rfl⟩, _, hprices, weights, hweights, ⟨⟩⟩
      exact ⟨huser, hspace, ⟨hpos, hmost⟩, hprices, hweights, rfl⟩
    · rintro ⟨-, hspace, ⟨hpos, hmost⟩, hprices, hweights, heq⟩
      exact ⟨_, ⟨hspace, rfl⟩, _, ⟨hpos, hmost, rfl⟩, (), hprices, _, hweights,
        congrArg Except.ok heq.symm⟩

theorem length_of_check {r : RecommendRequest α} {checked : Checked α}
    (h : e.check r = .ok checked) : (checked.k : Int) = r.k := by
  obtain ⟨-, -, ⟨hpos, -⟩, -, -, heq⟩ := check_eq_ok_iff.1 h
  rw [heq]
  exact Int.toNat_of_nonneg (Int.le_of_lt hpos)

theorem checkSimilar_eq_ok_iff {r : SimilarRequest} {checked : CheckedSimilar} :
    e.checkSimilar r = .ok checked ↔
      Text.trim r.itemId ≠ "" ∧ Text.trim r.space ≠ "" ∧
        (0 < r.k ∧ r.k ≤ e.settings.maxListLength) ∧
        checked = ⟨Text.trim r.itemId, Text.trim r.space, r.k.toNat⟩ := by
  rw [checkSimilar]
  dsimp only
  split
  · rename_i hblank
    exact ⟨nofun, fun h => absurd (beq_iff_eq.1 hblank) h.1⟩
  · rename_i hseed
    rw [beq_iff_eq] at hseed
    simp only [Except.bind_eq_ok_iff, checkSpace_eq_ok_iff, checkLength_eq_ok_iff]
    constructor
    · rintro ⟨_, ⟨hspace, rfl⟩, _, ⟨hpos, hmost, rfl⟩, ⟨⟩⟩
      exact ⟨hseed, hspace, ⟨hpos, hmost⟩, rfl⟩
    · rintro ⟨-, hspace, ⟨hpos, hmost⟩, rfl⟩
      exact ⟨_, ⟨hspace, rfl⟩, _, ⟨hpos, hmost, rfl⟩, rfl⟩

theorem length_of_checkSimilar {r : SimilarRequest} {checked : CheckedSimilar}
    (h : e.checkSimilar r = .ok checked) : (checked.k : Int) = r.k := by
  obtain ⟨-, -, ⟨hpos, -⟩, rfl⟩ := checkSimilar_eq_ok_iff.1 h
  exact Int.toNat_of_nonneg (Int.le_of_lt hpos)

/-! ### Faults of the caller -/

theorem status_of_checkSpace {space : String} {f : Failure} (h : checkSpace space = .error f) :
    f.status = 400 := by
  rw [checkSpace] at h
  split at h <;> cases h
  rfl

theorem status_of_checkLength {k : Int} {f : Failure} (h : e.checkLength k = .error f) :
    f.status = 400 := by
  rw [checkLength] at h
  split at h
  · cases h
    rfl
  · split at h <;> cases h
    rfl

theorem status_of_checkConstraints {c : Option Constraints} {f : Failure}
    (h : checkConstraints c = .error f) : f.status = 400 := by
  rw [checkConstraints] at h
  split at h <;> cases h
  rfl

theorem status_of_check {r : RecommendRequest α} {f : Failure} (h : e.check r = .error f) :
    f.status = 400 := by
  rw [check] at h
  dsimp only at h
  split at h
  · cases h
    rfl
  · simp only [Except.bind_eq_error_iff] at h
    obtain h | ⟨_, -, h | ⟨_, -, h | ⟨_, -, h | ⟨_, -, h⟩⟩⟩⟩ := h
    · exact status_of_checkSpace h
    · exact status_of_checkLength h
    · exact status_of_checkConstraints h
    · cases hweights : (e.blend : Blend α).resolve r.blend with
      | ok weights =>
          rw [hweights] at h
          cases h
      | error fault =>
          rw [hweights] at h
          cases h
          rfl
    · cases h

theorem status_of_checkSimilar {r : SimilarRequest} {f : Failure}
    (h : e.checkSimilar r = .error f) : f.status = 400 := by
  rw [checkSimilar] at h
  dsimp only at h
  split at h
  · cases h
    rfl
  · simp only [Except.bind_eq_error_iff] at h
    obtain h | ⟨_, -, h | ⟨_, -, h⟩⟩ := h
    · exact status_of_checkSpace h
    · exact status_of_checkLength h
    · cases h

end Engine

end Recommendation
