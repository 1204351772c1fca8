import Recommendation.Proofs.Candidates
import Recommendation.Proofs.Diversity.Worth
import Recommendation.Proofs.Doubles.Shares
import Recommendation.Proofs.Settings
import Recommendation.Proofs.Signals

/-!
How large the score of a candidate can be. The entries of a set are shares of its largest raw score.
A raw score that has overflowed leaves entries that are no numbers, and no candidate is made of such
an entry. So a weighted sum does not exceed the sum of the weights, and the profile multiplies it by
one and its boost at most.
-/

namespace Recommendation

open Doubles Settings

/-! ### Sets -/

namespace CandidateSet

variable {scores : List (RawScore Float)} {set : CandidateSet Float}
  {sets : List (CandidateSet Float)} {id : String}

/-- Entries that are numbers are shares, and so is what a profile keeps of its boost. -/
structure IsScaled (set : CandidateSet Float) : Prop where
  entries : ∀ id entry, set.get? id = some entry → entry.score.isNaN = false → IsShare entry.score
  attenuation : ∀ profile, set.profile = some profile → IsShare profile.attenuation

theorem nonneg_of_get?_gather {sum : Float} {kept : Option String}
    (h : (gather scores).get? id = some (sum, kept)) : 0.0 ≤ sum := by
  rw [gather] at h
  revert h
  refine List.foldlRecOn (motive := fun d : Dictionary (Float × Option String) =>
    ∀ id sum kept, d.get? id = some (sum, kept) → 0.0 ≤ sum) scores _
    (fun _ _ _ h => by cases h) ?_ id sum kept
  rintro d hd ⟨id', score, detail⟩ - id sum kept hget
  dsimp only at hget
  split at hget
  · rename_i hcounts
    have hpos : 0.0 < score := of_decide_eq_true (Bool.and_eq_true_iff.1 hcounts).2
    rw [Dictionary.get?_alter] at hget
    split at hget
    · rcases hold : d.get? id' with _ | ⟨sum₀, kept₀⟩
      · rw [hold] at hget
        cases hget
        exact add_nonneg (by decide) (le_of_lt hpos)
      · rw [hold] at hget
        cases hget
        exact add_nonneg (hd _ _ _ hold) (le_of_lt hpos)
    · exact hd _ _ _ hget
  · exact hd _ _ _ hget

theorem share_of_get?_ofRaw {signal : Signal} {entry : SignalEntry Float}
    (h : (ofRaw signal scores).get? id = some entry) (hnumber : entry.score.isNaN = false) :
    IsShare entry.score := by
  rw [ofRaw] at h
  dsimp only at h
  split at h
  · rename_i hpositive
    rw [get?, Dictionary.get?_map, Option.map_eq_some_iff] at h
    obtain ⟨⟨raw, detail⟩, hget, rfl⟩ := h
    have hnonneg : 0.0 ≤ raw := nonneg_of_get?_gather hget
    have hlargest := (isLargest_largest ((gather scores).entries.map (·.2.1))).bound raw
      (List.mem_cons_of_mem _ (List.mem_map_of_mem (Dictionary.mem_entries_iff.2 hget)))
    generalize Score.largest ((gather scores).entries.map (·.2.1)) = largest at *
    have hpos : 0.0 < largest := of_decide_eq_true hpositive
    have hle : raw ≤ largest := by
      rw [lt_iff] at hlargest
      have hraw := (zero_le_iff.1 hnonneg).1
      have hnumber' := isNaN_of_lt hpos
      exact le_of_height_le hraw hnumber' (not_lt.1 fun hlt => hlargest ⟨hnumber', hraw, hlt⟩)
    exact share_bounds_of_number hpos hnonneg hle hnumber
  · rw [get?_empty] at h
    cases h

theorem isScaled_empty (signal : Signal) : (empty signal : CandidateSet Float).IsScaled :=
  ⟨nofun, nofun⟩

theorem isScaled_ofRaw (signal : Signal) : (ofRaw signal scores).IsScaled where
  entries _ _ := share_of_get?_ofRaw
  attenuation profile h := by
    rw [profile_ofRaw] at h
    cases h

theorem IsScaled.withRecency (h : set.IsScaled) (times : List (String × Time.Instant)) :
    (set.withRecency times).IsScaled where
  entries id entry hget hnumber := by
    obtain ⟨entry', hget', hscore⟩ := get?_of_withRecency hget
    rw [← hscore] at hnumber ⊢
    exact h.entries id entry' hget' hnumber
  attenuation := h.attenuation

theorem isScaled_withProfile {signal : Signal} {profile : TagProfile Float}
    (h : IsShare profile.attenuation) : ((ofRaw signal scores).withProfile profile).IsScaled where
  entries := (isScaled_ofRaw signal).entries
  attenuation profile' hprofile := by
    cases hprofile
    exact h

theorem isScaled_of_mem_widen (h : ∀ set ∈ sets, set.IsScaled) {items : Dictionary Item}
    (hset : set ∈ widen sets items) : set.IsScaled := by
  cases hprofile : (ofSignal sets .profile).profile with
  | none =>
      rw [widen_of_no_profile items hprofile] at hset
      exact h set hset
  | some profile =>
      rw [widen_of_profile items hprofile] at hset
      rcases mem_replaceFirst hset with rfl | hmem
      · rcases ofSignal_eq_empty_or_mem sets .profile with hempty | ⟨hmem, -⟩
        · rw [hempty] at hprofile
          cases hprofile
        · exact isScaled_withProfile ((h _ hmem).attenuation profile hprofile)
      · exact h set hmem

theorem isScaled_ofSignal (h : ∀ set ∈ sets, set.IsScaled) (signal : Signal) :
    (ofSignal sets signal).IsScaled := by
  rcases ofSignal_eq_empty_or_mem sets signal with hempty | ⟨hmem, -⟩
  · rw [hempty]
    exact isScaled_empty signal
  · exact h _ hmem

end CandidateSet

/-! ### Signals -/

theorem Time.isShare_unitInterval {x : Float} (h : IsShare x) : IsShare (Time.unitInterval x) := by
  rw [unitInterval]
  split
  · exact ⟨by decide, by decide⟩
  · split
    · exact ⟨by decide, by decide⟩
    · exact h

/-- What a signal returns is scaled, whatever the store has answered. -/
theorem Proposals.isScaled_of_returns_ask {σ : Type} {settings : Settings}
    (hsettings : settings.IsSound) {store : Store σ} {ctx : Context} {input : SignalInput}
    {signal : Signal} {w w' : World σ} {set : CandidateSet Float}
    (h : Returns (ask settings store ctx input signal) w set w') : set.IsScaled := by
  cases signal with
  | popularity =>
      obtain ⟨items, -, rfl⟩ := Signal.returns_popular_iff.1 h
      exact (CandidateSet.isScaled_ofRaw _).withRecency _
  | coVisitation =>
      obtain ⟨_, _, -, ⟨-, rfl, -⟩ | ⟨-, visitors, -, rfl⟩⟩ := Signal.returns_coVisited_iff.1 h
      · exact CandidateSet.isScaled_empty _
      · exact CandidateSet.isScaled_ofRaw _
  | profile =>
      refine ⟨?_, fun profile hprofile => ?_⟩
      · cases huser : input.user with
        | none =>
            rw [ask, Signal.interesting, huser] at h
            obtain ⟨rfl, -⟩ := returns_pure_iff.1 h
            exact (CandidateSet.isScaled_empty _).entries
        | some user =>
            obtain ⟨_, _, -, rfl | ⟨_, _, rfl⟩⟩ := Signal.of_returns_interesting huser h
            · exact (CandidateSet.isScaled_empty _).entries
            · exact (CandidateSet.isScaled_ofRaw .profile).entries
      · obtain ⟨x, hx, hattenuation⟩ := Signal.attenuation_of_returns_interesting h hprofile
        rw [hattenuation]
        rcases hx with rfl | rfl
        · exact ⟨by decide, by decide⟩
        · exact Time.isShare_unitInterval hsettings.coldStart

/-! ### Candidates -/

namespace Blend

/-- The most that a candidate can score: what all three signals at their best come to, with all of
the boost. -/
def scoreLimit (blend : Blend Float) (weights : Weights Float) : Float :=
  (weights.popularity + weights.coVisitation + weights.profile) * (Score.one + blend.profileBoost)

variable {blend : Blend Float} {weights : Weights Float} {attenuation : Float}
  {sets : List (CandidateSet Float)} {c : Candidate Float}

def HasShares (c : Candidate Float) : Prop := ∀ signal, IsShare (c.signal signal)

theorem isShare_zero : IsShare (Score.zero : Float) := ⟨by decide, by decide⟩

theorem isShare_scoreOf {e : Option (SignalEntry Float)}
    (h : ∀ entry, e = some entry → entry.score.isNaN = false → IsShare entry.score)
    (hnumber : (scoreOf e).isNaN = false) : IsShare (scoreOf e) := by
  cases e with
  | none => exact isShare_zero
  | some entry => exact h entry rfl hnumber

theorem hasShares_ofEntries (hsets : ∀ set ∈ sets, set.IsScaled) {id : String}
    (hpos : 0.0 < combined weights (ofEntries id (entriesOf sets id))) :
    HasShares (ofEntries id (entriesOf sets id)) := by
  have hsum := isNaN_of_lt hpos
  have hpair := isNaN_of_add_left hsum
  have hscaled (signal : Signal) (entry : SignalEntry Float) :=
    (CandidateSet.isScaled_ofSignal hsets signal).entries id entry
  rw [entriesOf_eq] at *
  intro signal
  cases signal with
  | popularity =>
      exact isShare_scoreOf (hscaled .popularity) (isNaN_of_mul (isNaN_of_add_left hpair))
  | coVisitation =>
      exact isShare_scoreOf (hscaled .coVisitation) (isNaN_of_mul (isNaN_of_add hpair))
  | profile => exact isShare_scoreOf (hscaled .profile) (isNaN_of_mul (isNaN_of_add hsum))

theorem isShare_attenuationOf (hsets : ∀ set ∈ sets, set.IsScaled) :
    IsShare (attenuationOf sets) := by
  rw [attenuationOf_eq]
  cases hprofile : (CandidateSet.ofSignal sets .profile).profile with
  | none => exact ⟨by decide, by decide⟩
  | some profile => exact (CandidateSet.isScaled_ofSignal hsets _).attenuation profile hprofile

/-- A weighted sum of shares is not below nought and does not exceed the sum of the weights. -/
theorem combined_bounds (hweights : weights.IsSound) (h : HasShares c) :
    0.0 ≤ combined weights c ∧
      combined weights c ≤ weights.popularity + weights.coVisitation + weights.profile := by
  have hpart (signal : Signal) := mul_share_bounds (hweights.finite signal) (hweights.nonneg signal)
    (h signal).1 (h signal).2
  have hpopularity := hpart .popularity
  have hcoVisitation := hpart .coVisitation
  have hprofile := hpart .profile
  exact ⟨add_nonneg (add_nonneg hpopularity.1 hcoVisitation.1) hprofile.1,
    add_mono (add_nonneg hpopularity.1 hcoVisitation.1) hprofile.1
      (add_mono hpopularity.1 hcoVisitation.1 hpopularity.2 hcoVisitation.2) hprofile.2⟩

theorem multiplier_bounds (hboost : blend.profileBoost.isFinite = true)
    (hnonneg : 0.0 ≤ blend.profileBoost) (h : HasShares c) (hattenuation : IsShare attenuation) :
    1.0 ≤ blend.multiplier attenuation c ∧
      blend.multiplier attenuation c ≤ Score.one + blend.profileBoost := by
  have hone : (0.0 : Float) < Score.one := by decide
  obtain ⟨hshare, hshare'⟩ := mul_share_bounds hboost hnonneg (h .profile).1 (h .profile).2
  have hfinite := isFinite_of_le hboost hshare hshare'
  obtain ⟨hpart, hpart'⟩ := mul_share_bounds hfinite hshare hattenuation.1 hattenuation.2
  exact ⟨le_add hone hpart, add_mono (le_of_lt hone) hpart (le_refl rfl)
    (le_of_le_of_le hpart' hshare')⟩

theorem score_boosted_bounds (hweights : weights.IsSound)
    (hboost : blend.profileBoost.isFinite = true) (hnonneg : 0.0 ≤ blend.profileBoost)
    (h : HasShares c) (hscore : c.score = combined weights c) (hattenuation : IsShare attenuation) :
    0.0 ≤ (blend.boosted attenuation c).score ∧
      (blend.boosted attenuation c).score ≤ blend.scoreLimit weights := by
  obtain ⟨hlow, hhigh⟩ := combined_bounds hweights h
  obtain ⟨hfinite, hlarge⟩ := isFinite_one_add hboost hnonneg
  have hsum := le_of_le_of_le hlow hhigh
  rw [boosted]
  split
  · dsimp only
    obtain ⟨hfactor, hfactor'⟩ := multiplier_bounds hboost hnonneg h hattenuation
    have hpos : 0.0 < blend.multiplier attenuation c := pos_of_le (by decide) hfactor
    rw [hscore]
    exact ⟨le_of_le_of_le hlow (le_mul_of_one_le hlow (isFinite_of_le hfinite (le_of_lt hpos)
      hfactor') hfactor), mul_mono hlow (le_of_lt hpos) hhigh hfactor' hfinite (.inr hpos)⟩
  · rw [hscore]
    exact ⟨hlow, le_of_le_of_le hhigh (le_mul_of_one_le hsum hfinite hlarge)⟩

/-- No candidate of a blend of scaled sets scores more than the limit. -/
theorem score_bounds_of_mem_candidates (hweights : weights.IsSound)
    (hboost : blend.profileBoost.isFinite = true) (hnonneg : 0.0 ≤ blend.profileBoost)
    (hsets : ∀ set ∈ sets, set.IsScaled) (hc : c ∈ blend.candidates weights sets) :
    0.0 ≤ c.score ∧ c.score ≤ blend.scoreLimit weights := by
  rw [(candidates_perm sets).mem_iff, List.mem_filterMap] at hc
  obtain ⟨id, -, hc⟩ := hc
  rw [candidate?_eq, Option.ite_none_right_eq_some] at hc
  obtain ⟨hpositive, hc⟩ := hc
  cases hc
  have hpos : 0.0 < combined weights (ofEntries id (entriesOf sets id)) :=
    of_decide_eq_true hpositive
  have hshares := hasShares_ofEntries hsets hpos
  exact score_boosted_bounds hweights hboost hnonneg (c := summed weights _) hshares rfl
    (isShare_attenuationOf hsets)

/-! ### The best candidates -/

/-- Every signal that counts has the item for its best one, and nothing is kept of the boost. -/
structure IsBest (blend : Blend Float) (weights : Weights Float) (sets : List (CandidateSet Float))
    (id : String) : Prop where
  shares : HasShares (ofEntries id (entriesOf sets id))
  best : ∀ signal, 0.0 < weights.get signal →
    (ofEntries id (entriesOf sets id)).signal signal = 1.0
  boosted : 0.0 < blend.profileBoost →
    (ofEntries id (entriesOf sets id)).profile = 1.0 ∧ attenuationOf sets = 1.0

theorem sum_pos (hweights : weights.IsSound) :
    0.0 < weights.popularity + weights.coVisitation + weights.profile := by
  have hnonneg := hweights.nonneg
  have hfinite := hweights.finite
  have hpair : 0.0 ≤ weights.popularity + weights.coVisitation :=
    add_nonneg (hnonneg .popularity) (hnonneg .coVisitation)
  obtain ⟨signal, hpos⟩ := hweights.positive
  cases signal with
  | popularity =>
      have hsum := pos_of_le hpos (le_add hpos (hnonneg .coVisitation))
      exact pos_of_le hsum (le_add hsum (hnonneg .profile))
  | coVisitation =>
      have hsum := pos_of_le hpos
        (le_add_of_nonneg (hnonneg .popularity) (hfinite .coVisitation) (hnonneg .coVisitation))
      exact pos_of_le hsum (le_add hsum (hnonneg .profile))
  | profile =>
      exact pos_of_le hpos (le_add_of_nonneg hpair (hfinite .profile) (hnonneg .profile))

theorem scoreLimit_nonneg (hweights : weights.IsSound) (hboost : blend.profileBoost.isFinite = true)
    (hnonneg : 0.0 ≤ blend.profileBoost) : 0.0 ≤ blend.scoreLimit weights := by
  have hsum := le_of_lt (sum_pos hweights)
  obtain ⟨hfinite, hlarge⟩ := isFinite_one_add hboost hnonneg
  exact le_of_le_of_le hsum (le_mul_of_one_le hsum hfinite hlarge)

/-- What is best by every signal that counts has been proposed by one of them. -/
theorem IsBest.mem_union (hweights : weights.IsSound) {id : String}
    (h : IsBest blend weights sets id) : id ∈ CandidateSet.union sets := by
  obtain ⟨signal, hpos⟩ := hweights.positive
  have hbest := h.best signal hpos
  have hentry : ∃ entry, (CandidateSet.ofSignal sets signal).get? id = some entry := by
    by_contra hnone
    rw [not_exists, ← Option.eq_none_iff_forall_ne_some] at hnone
    have hzero : (ofEntries id (entriesOf sets id)).signal signal = 0.0 := by
      rw [entriesOf_eq]
      cases signal with
      | popularity => exact congrArg scoreOf hnone
      | coVisitation => exact congrArg scoreOf hnone
      | profile => exact congrArg scoreOf hnone
    have hheight := congrArg height (hzero.symm.trans hbest)
    rw [height_zero.2, height_one] at hheight
    exact absurd hheight (by decide)
  obtain ⟨entry, hentry⟩ := hentry
  obtain ⟨set, hset, -, hget⟩ := CandidateSet.exists_mem_of_get?_ofSignal hentry
  exact CandidateSet.mem_union_iff.2 ⟨set, hset, CandidateSet.mem_ids_iff.2 ⟨entry, hget⟩⟩

theorem sum_le_combined (hweights : weights.IsSound) (hshares : HasShares c)
    (h : ∀ signal, 0.0 < weights.get signal → c.signal signal = 1.0) :
    weights.popularity + weights.coVisitation + weights.profile ≤ combined weights c := by
  have hnonneg := hweights.nonneg
  have hpart (signal : Signal) : weights.get signal ≤ weights.get signal * c.signal signal := by
    by_cases hpos : 0.0 < weights.get signal
    · rw [h signal hpos]
      exact le_mul_of_one_le (hnonneg signal) rfl (le_refl rfl)
    · exact le_of_le_of_le (le_zero_of_not_pos (hnonneg signal) hpos)
        (mul_share_bounds (hweights.finite signal) (hnonneg signal) (hshares signal).1
          (hshares signal).2).1
  exact add_mono (add_nonneg (hnonneg .popularity) (hnonneg .coVisitation)) (hnonneg .profile)
    (add_mono (hnonneg .popularity) (hnonneg .coVisitation) (hpart .popularity)
      (hpart .coVisitation)) (hpart .profile)

theorem scoreLimit_le_score_boosted (hweights : weights.IsSound)
    (hboost : blend.profileBoost.isFinite = true) (hnonneg : 0.0 ≤ blend.profileBoost)
    (hshares : HasShares c)
    (hbest : ∀ signal, 0.0 < weights.get signal → c.signal signal = 1.0)
    (hboosted : 0.0 < blend.profileBoost → c.profile = 1.0 ∧ attenuation = 1.0)
    (hscore : c.score = combined weights c) :
    blend.scoreLimit weights ≤ (blend.boosted attenuation c).score := by
  have hone : (0.0 : Float) < Score.one := by decide
  have hsum := le_of_lt (sum_pos hweights)
  have hle := sum_le_combined hweights hshares hbest
  obtain ⟨hfinite, hlarge⟩ := isFinite_one_add hboost hnonneg
  have hpos := pos_of_le hone hlarge
  rw [scoreLimit, boosted]
  split
  · rename_i hboosts
    obtain ⟨hprofile, rfl⟩ := hboosted (of_decide_eq_true (Bool.and_eq_true_iff.1 hboosts).1)
    dsimp only
    have hwhole : IsShare 1.0 := ⟨by decide, by decide⟩
    obtain ⟨hfactor, hfactor'⟩ := multiplier_bounds hboost hnonneg hshares hwhole
    have hfull : Score.one + blend.profileBoost ≤ blend.multiplier 1.0 c := by
      have honce := le_mul_of_one_le hnonneg rfl (le_refl (x := 1.0) rfl)
      have htwice := le_mul_of_one_le (le_of_le_of_le hnonneg honce) rfl (le_refl (x := 1.0) rfl)
      rw [multiplier, hprofile]
      exact add_mono (le_of_lt hone) hnonneg (le_refl rfl) (le_of_le_of_le honce htwice)
    rw [hscore]
    exact mul_mono hsum (le_of_lt hpos) hle hfull
      (isFinite_of_le hfinite (le_of_lt (pos_of_le hone hfactor)) hfactor') (.inr hpos)
  · rename_i hidle
    -- Without a boost the limit is the sum of the weights.
    have hnone : blend.profileBoost ≤ 0.0 := by
      refine le_zero_of_not_pos hnonneg fun hboosts => hidle (Bool.and_eq_true_iff.2
        ⟨decide_eq_true hboosts, ?_⟩)
      rw [(hboosted hboosts).1]
      decide
    have hfactor : Score.one + blend.profileBoost ≤ 1.0 :=
      le_of_le_of_le (add_mono (le_of_lt hone) hnonneg (le_refl rfl) hnone) (by decide)
    obtain ⟨hnumber, hheight⟩ := height_mul_one hsum
    have hself := le_of_height_le hnumber (zero_le_iff.1 hsum).1 hheight.le
    rw [hscore]
    exact le_of_le_of_le (mul_mono hsum (le_of_lt hpos) (le_refl (zero_le_iff.1 hsum).1) hfactor
      rfl (.inr hpos)) (le_of_le_of_le hself hle)

/-- The best item scores as much as the limit. -/
theorem exists_candidate_at_limit (hweights : weights.IsSound)
    (hboost : blend.profileBoost.isFinite = true) (hnonneg : 0.0 ≤ blend.profileBoost) {id : String}
    (h : IsBest blend weights sets id) : ∃ c ∈ blend.candidates weights sets,
      c.id = id ∧ blend.scoreLimit weights ≤ c.score := by
  have hpositive := pos_of_le (sum_pos hweights) (sum_le_combined hweights h.shares h.best)
  refine ⟨credited (entriesOf sets id) (blend.boosted (attenuationOf sets)
    (summed weights (ofEntries id (entriesOf sets id)))), ?_, id_boosted _ _, ?_⟩
  · rw [(candidates_perm sets).mem_iff, List.mem_filterMap]
    refine ⟨id, h.mem_union hweights, ?_⟩
    rw [candidate?_eq]
    exact if_pos (decide_eq_true hpositive)
  · exact scoreLimit_le_score_boosted (c := summed weights _) hweights hboost hnonneg h.shares
      h.best h.boosted rfl

/-- A boot for a user whose whole history is about shoes. -/
example : IsBest ⟨⟨1.0, 1.0, 1.0⟩, 0.5⟩ ⟨0.0, 0.0, 1.0⟩
    [CandidateSet.ofProfile ⟨.ofList [("shoes", 1.0)], 1.0⟩ [{ id := "boot", tags := ["shoes"] }]]
    "boot" where
  shares signal := by cases signal <;> exact ⟨by decide +kernel, by decide +kernel⟩
  best signal hpos := by
    cases signal with
    | popularity => exact absurd hpos (by decide)
    | coVisitation => exact absurd hpos (by decide)
    | profile => rfl
  boosted _ := ⟨rfl, rfl⟩

end Blend

end Recommendation
