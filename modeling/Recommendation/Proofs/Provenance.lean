import Recommendation.Proofs.Blending

/-!
What the signals that a candidate names have to do with its score. A signal adds to a
score by its weight, and the profile also by its boost, as far as the boost applies to
the user. Every signal that adds to the score is named. But a boost names the profile
even if it does not apply to the user at all, and that is the one case in which a signal
is named that adds nothing.
-/

namespace Recommendation.Blend

variable {α : Type} [Score α] {blend : Blend α} {weights : Weights α}
  {sets : List (CandidateSet α)} {c : Candidate α} {s : Signal}

/-- A signal adds to the score of a candidate: it says something about the item, and it has a
weight, or it is the profile and its boost applies to the user. -/
def Contributes (blend : Blend α) (weights : Weights α) (attenuation : α) (c : Candidate α)
    (s : Signal) : Prop :=
  Score.isPositive (c.signal s) = true ∧
    (Score.isPositive (weights.get s) = true ∨
      s = .profile ∧ Score.isPositive blend.profileBoost = true ∧
        Score.isPositive attenuation = true)

/-- The profile has no weight, and its boost does not apply to the user. -/
structure BoostsInVain (blend : Blend α) (weights : Weights α) (attenuation : α)
    (c : Candidate α) : Prop where
  matched : Score.isPositive (c.signal .profile) = true
  weightless : Score.isPositive (weights.get .profile) = false
  boost : Score.isPositive blend.profileBoost = true
  attenuated : Score.isPositive attenuation = false

theorem mem_provenance_iff (h : c ∈ blend.candidates weights sets) :
    s ∈ c.provenance ↔ Score.isPositive (c.signal s) = true ∧
      (Score.isPositive (weights.get s) = true ∨
        s = .profile ∧ Score.isPositive blend.profileBoost = true) := by
  have hmerges := merges_of_mem_candidates h
  rw [hmerges.provenance, Names, hmerges.signal]

theorem mem_provenance_of_contributes {attenuation : α} (h : c ∈ blend.candidates weights sets)
    (hs : blend.Contributes weights attenuation c s) : s ∈ c.provenance := by
  obtain ⟨hscore, hweight | ⟨rfl, hboost, -⟩⟩ := hs
  · exact (mem_provenance_iff h).2 ⟨hscore, .inl hweight⟩
  · exact (mem_provenance_iff h).2 ⟨hscore, .inr ⟨rfl, hboost⟩⟩

/-- A signal that is named and adds nothing is the profile with a boost in vain. -/
theorem contributes_or_boostsInVain {attenuation : α} (h : c ∈ blend.candidates weights sets)
    (hs : s ∈ c.provenance) : blend.Contributes weights attenuation c s ∨
      s = .profile ∧ blend.BoostsInVain weights attenuation c := by
  obtain ⟨hscore, hnamed⟩ := (mem_provenance_iff h).1 hs
  cases hweight : Score.isPositive (weights.get s) with
  | true => exact .inl ⟨hscore, .inl hweight⟩
  | false =>
      obtain ⟨rfl, hboost⟩ := hnamed.resolve_left (by simp [hweight])
      cases hattenuation : Score.isPositive attenuation with
      | true => exact .inl ⟨hscore, .inr ⟨rfl, hboost, hattenuation⟩⟩
      | false => exact .inr ⟨rfl, hscore, hweight, hboost, hattenuation⟩

theorem BoostsInVain.not_contributes {attenuation : α}
    (h : blend.BoostsInVain weights attenuation c) :
    ¬blend.Contributes weights attenuation c .profile := by
  rintro ⟨-, hweight | ⟨-, -, hattenuation⟩⟩
  · rw [h.weightless] at hweight
    cases hweight
  · rw [h.attenuated] at hattenuation
    cases hattenuation

theorem BoostsInVain.named {attenuation : α} (hc : c ∈ blend.candidates weights sets)
    (h : blend.BoostsInVain weights attenuation c) : .profile ∈ c.provenance :=
  (mem_provenance_iff hc).2 ⟨h.matched, .inr ⟨rfl, h.boost⟩⟩

/-- A candidate of a blend names each signal once at most, in their order: those that say something
about its item and have a weight, and the profile also if there is a boost. So it names every signal
that adds to its score, and no other one unless the profile boosts it in vain. -/
theorem provenance_names_contributors (h : c ∈ blend.candidates weights sets) :
    c.provenance.Sublist Signal.all ∧
      (∀ s, c.signal s = scoreOf ((entriesOf sets c.id).get s)) ∧
      (∀ s, s ∈ c.provenance ↔ Score.isPositive (c.signal s) = true ∧
        (Score.isPositive (weights.get s) = true ∨
          s = .profile ∧ Score.isPositive blend.profileBoost = true)) ∧
      (∀ s, blend.Contributes weights (attenuationOf sets) c s → s ∈ c.provenance) ∧
      ((∀ s ∈ c.provenance, blend.Contributes weights (attenuationOf sets) c s) ↔
        ¬blend.BoostsInVain weights (attenuationOf sets) c) := by
  have hmerges := merges_of_mem_candidates h
  refine ⟨hmerges.inOrder, hmerges.signal, fun s => mem_provenance_iff h,
    fun s => mem_provenance_of_contributes h, fun hall hvain => ?_, fun hvain s hs => ?_⟩
  · exact hvain.not_contributes (hall _ (hvain.named h))
  · exact (contributes_or_boostsInVain h hs).resolve_right fun hprofile => hvain hprofile.2

/-- A boot is popular and bears a tag that the user has met. How far the boost of the profile
applies depends on how much else the user has met. -/
def bootSets (attenuation : Float) : List (CandidateSet Float) :=
  [.ofRaw .popularity [("boot", 1.0, none)],
    .ofProfile ⟨.ofList [("shoes", 1.0)], attenuation⟩ [{ id := "boot", tags := ["shoes"] }]]

def byPopularity : Weights Float := ⟨1.0, 0.0, 0.0⟩

def boostingBlend : Blend Float := ⟨byPopularity, 0.5⟩

theorem provenance_names_contributors_boot :
    ∃ c ∈ boostingBlend.candidates byPopularity (bootSets 1.0),
      c.provenance = [.popularity, .profile] ∧
      ∀ s ∈ c.provenance, boostingBlend.Contributes byPopularity 1.0 c s := by
  have hnamed : (boostingBlend.candidates byPopularity (bootSets 1.0)).map (·.provenance) =
      [[.popularity, .profile]] := by decide +kernel
  have happlies : Score.isPositive (attenuationOf (bootSets 1.0)) = true := by decide +kernel
  obtain ⟨c, hc, hprovenance⟩ := List.mem_map.1 (hnamed ▸ List.mem_singleton_self _)
  obtain ⟨-, -, -, -, hall⟩ := provenance_names_contributors hc
  refine ⟨c, hc, hprovenance, hall.2 fun hvain => ?_⟩
  rw [hvain.attenuated] at happlies
  cases happlies

/-- The boost does not apply to a new user here, but the boot names the profile and its tag, with a
score that the profile has not changed. -/
theorem boot_names_profile_in_vain :
    byPopularity.validate = .ok () ∧ CandidateSet.HaveDistinctSignals (bootSets 0.0) ∧
      attenuationOf (bootSets 0.0) = 0.0 ∧
      ∃ c ∈ boostingBlend.candidates byPopularity (bootSets 0.0),
        c.provenance = [.popularity, .profile] ∧ c.topTag = some "shoes" ∧ c.score = 1.0 ∧
        ¬boostingBlend.Contributes byPopularity (attenuationOf (bootSets 0.0)) c .profile := by
  have hnamed : (boostingBlend.candidates byPopularity (bootSets 0.0)).map
      (fun c => (c.provenance, c.topTag, c.score)) =
        [([.popularity, .profile], some "shoes", 1.0)] := by decide +kernel
  have hvalid : byPopularity.validate = .ok () := by decide +kernel
  have hdistinct : CandidateSet.HaveDistinctSignals (bootSets 0.0) := by
    unfold CandidateSet.HaveDistinctSignals
    decide +kernel
  have hweightless : Score.isPositive (byPopularity.get .profile) = false := by decide +kernel
  have hattenuated : Score.isPositive (attenuationOf (bootSets 0.0)) = false := by decide +kernel
  obtain ⟨c, hc, heq⟩ := List.mem_map.1 (hnamed ▸ List.mem_singleton_self _)
  obtain ⟨hprovenance, htag, hscore⟩ : c.provenance = _ ∧ c.topTag = _ ∧ c.score = _ := by
    simpa only [Prod.mk.injEq] using heq
  have hnotes : .profile ∈ c.provenance := by
    rw [hprovenance]
    decide
  obtain ⟨hmatched, -⟩ := (mem_provenance_iff hc).1 hnotes
  have hvain : boostingBlend.BoostsInVain byPopularity (attenuationOf (bootSets 0.0)) c :=
    ⟨hmatched, hweightless, by decide +kernel, hattenuated⟩
  exact ⟨hvalid, hdistinct, rfl, c, hc, hprovenance, htag, hscore, hvain.not_contributes⟩

end Recommendation.Blend
