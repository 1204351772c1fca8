import Recommendation.Proofs.Engine.Explanations
import Recommendation.Proofs.ScoreBounds
import Recommendation.Proofs.Wire.Responses

/-!
The scores in a list for a user, and the text of the list. What the signals return is scaled,
whatever the store has answered, so no score exceeds the limit that the weights and the boost of the
profile set, unless a rule multiplies it. Weights that are accepted one by one can set an infinite
limit. The best item then has an infinite score, and a response with such a score cannot be read
again.
-/

namespace Recommendation

open Doubles

variable {σ : Type}

/-! ### Stores without boosts -/

def Rule.IsBoost (rule : Rule) : Prop := ∃ strength, rule.action = .boost strength

def Tenants.HaveNoBoosts (tenants : Tenants) : Prop :=
  ∀ tenant ∈ tenants, ∀ rule ∈ tenant.2.rules, ¬rule.IsBoost

def Store.GivesNoBoosts (store : Store σ) : Prop :=
  ∀ ctx scope surface w rules w', Returns (store.rulesFor ctx scope surface) w rules w' →
    ∀ rule ∈ rules, ¬rule.IsBoost

theorem Tenants.HaveNoBoosts.snapshot {tenants : Tenants} (h : tenants.HaveNoBoosts)
    (scope : Scope) : ∀ rule ∈ (tenants.snapshot scope).rules, ¬rule.IsBoost := by
  rw [Tenants.snapshot]
  split
  · rename_i tenant hfind
    exact h tenant (List.mem_reverse.1 (List.mem_of_find?_eq_some hfind))
  · exact List.forall_mem_nil _

theorem Store.givesNoBoosts_memory {tenants : Tenants} (h : tenants.HaveNoBoosts) :
    (memory tenants : Store σ).GivesNoBoosts := by
  intro ctx scope surface w rules w' hreturns rule hrule
  obtain ⟨_, _, -, hpure⟩ := returns_bind_iff.1 hreturns
  obtain ⟨rfl, -⟩ := returns_pure_iff.1 hpure
  exact h.snapshot scope rule (List.mem_of_mem_filter ((mem_sortWith Rule.order).1 hrule))

theorem Ranked.exists_returns_rulesFor {α : Type} [Score α] {settings : Settings} {store : Store σ}
    {ctx : Context} {input : RankInput α} {sets : List (CandidateSet α)} {w w' : World σ}
    {reads : Reads} (h : Returns (read settings store ctx input sets) w reads w') :
    ∃ w₁, Returns (store.rulesFor ctx input.scope input.surface) w reads.rules w₁ := by
  simp only [read, readRules, returns_bind_iff, returns_step_iff, returns_pure_iff] at h
  obtain ⟨rules, _, ⟨rules', w₁, hrules, hstray⟩, _, _, _, _, _, _, rfl, -⟩ := h
  split at hstray
  · cases hstray
  · obtain ⟨rfl, -⟩ := returns_pure_iff.1 hstray
    exact ⟨w₁, hrules⟩

theorem Policy.score_attach {policy : Policy} {input : PolicyInput} {cs : List (Candidate Float)}
    (h : ∀ rule ∈ input.rules, ¬rule.IsBoost) (c : Candidate Float) :
    ((policy.effects input cs).attach c).score = c.score := by
  rw [RuleEffects.attach]
  cases hboost : (policy.effects input cs).boost? c.id with
  | none => rfl
  | some factor =>
      obtain ⟨rule, hrule, _, -, -, hboosts, -⟩ := RuleEffects.isSome_boost?_ofRules_iff.1
        (Option.isSome_iff_exists.2 ⟨factor, hboost⟩)
      exact absurd hboosts (h rule hrule)

namespace Engine

variable {e : Engine σ} {ctx : Context} {r : RecommendRequest Float} {w w' : World σ}

/-! ### Weights and sets of a run -/

theorem weights_isSound_of_check {checked : Checked Float} (h : e.check r = .ok checked) :
    checked.weights.IsSound := by
  obtain ⟨-, -, -, -, hresolve, -⟩ := check_eq_ok_iff.1 h
  exact Weights.validate_eq_ok_iff.1 (Blend.validate_of_resolve hresolve)

theorem profileBoost_bounds (h : e.settings.IsSound) :
    (e.blend : Blend Float).profileBoost.isFinite = true ∧
      0.0 ≤ (e.blend : Blend Float).profileBoost :=
  h.profileBoost

namespace RecommendRun

variable {run : RecommendRun e ctx r w w'} {c : Candidate Float}

theorem isScaled_of_mem_sets (hsettings : e.settings.IsSound) {set : CandidateSet Float}
    (hset : set ∈ run.proposals.sets) : set.IsScaled := by
  obtain ⟨_, _, -, hreturns⟩ := exists_asked_of_mem_sets hset
  exact Proposals.isScaled_of_returns_ask hsettings hreturns

theorem score_bounds_of_mem_candidates (hsettings : e.settings.IsSound) (hc : c ∈ run.candidates) :
    0.0 ≤ c.score ∧ c.score ≤ e.blend.scoreLimit run.checked.weights := by
  have hweights := weights_isSound_of_check run.passes
  obtain ⟨hboost, hnonneg⟩ := profileBoost_bounds hsettings
  rw [candidates, Ranked.candidates] at hc
  rcases List.mem_append.1 hc with hblended | hnamed
  · refine Blend.score_bounds_of_mem_candidates hweights hboost hnonneg ?_ hblended
    intro set hset
    exact CandidateSet.isScaled_of_mem_widen (fun _ => isScaled_of_mem_sets hsettings) hset
  · obtain ⟨id, -, rfl⟩ := List.mem_map.1 hnamed
    exact ⟨le_refl rfl, Blend.scoreLimit_nonneg hweights hboost hnonneg⟩

/-- Rules without boosts leave the scores in the list as the blend has made them. -/
theorem score_bounds_of_mem_list (hsettings : e.settings.IsSound) (hrules : e.store.GivesNoBoosts)
    (hc : c ∈ run.ranked.list) :
    0.0 ≤ c.score ∧ c.score ≤ e.blend.scoreLimit run.checked.weights := by
  obtain ⟨c₀, hc₀, -, rfl⟩ := Ranked.exists_candidate_of_mem_list _ _ _ _ hc
  obtain ⟨w₁, hreturns⟩ := Ranked.exists_returns_rulesFor run.ranks
  have hnone : ∀ rule ∈ run.policyInput.rules, ¬rule.IsBoost := hrules _ _ _ _ _ _ hreturns
  have hscore : (run.outcome.effects.attach c₀).score = c₀.score := Policy.score_attach hnone c₀
  change 0.0 ≤ (run.outcome.effects.attach c₀).score ∧
    (run.outcome.effects.attach c₀).score ≤ _
  rw [hscore]
  exact score_bounds_of_mem_candidates hsettings hc₀

/-- An item is a candidate at the limit if every signal that counts has it for its best one. -/
theorem exists_candidate_at_limit (hsettings : e.settings.IsSound) {id : String}
    (h : Blend.IsBest e.blend run.checked.weights
      (CandidateSet.widen run.proposals.sets run.reads.items) id) :
    ∃ c ∈ run.candidates, c.id = id ∧ e.blend.scoreLimit run.checked.weights ≤ c.score := by
  obtain ⟨hboost, hnonneg⟩ := profileBoost_bounds hsettings
  obtain ⟨c, hc, hbest⟩ := Blend.exists_candidate_at_limit (weights_isSound_of_check run.passes)
    hboost hnonneg h
  exact ⟨c, List.mem_append.2 (.inl hc), hbest⟩

end RecommendRun

/-! ### Lists for users -/

/-- Without boosts the scores in a list for a user are not below nought, and they are not above the
limit that the weights of the list and the boost of the profile set; so they are finite as long as
the limit is. A score is written as a number if and only if it is finite, and the text of the
response can be read again if and only if all scores are finite; what is read differs from the
response in its scores at most. No smaller limit would do: an item that every signal with a weight
has for its best one, with all of the boost, is a candidate that scores as much, and so its score is
infinite if the limit is. -/
theorem scores_finite_within_limit {tenants : Tenants} (hstore : e.store = .memory tenants)
    (htenants : tenants.HaveNoBoosts) (hvalid : e.settings.validate = .ok ()) {a : Answer Float}
    (hok : (e.recommend ctx r w).1.answer = .ok a) :
    (∀ shown ∈ a.items, 0.0 ≤ shown.score ∧ shown.score ≤ e.blend.scoreLimit a.weights) ∧
      ((e.blend.scoreLimit a.weights).isFinite = true →
        ∀ shown ∈ a.items, shown.score.isFinite = true) ∧
      (∀ shown ∈ a.items,
        (∃ n, Json.floatNode shown.score = .number n) ↔ shown.score.isFinite = true) ∧
      ((Wire.reread (e.response a)).isSome = true ↔
        ∀ shown ∈ a.items, shown.score.isFinite = true) ∧
      (∀ r', Wire.reread (e.response a) = some r' → Wire.AgreesButScores (e.response a) r') ∧
      ∃ run : RecommendRun e ctx r w (e.recommend ctx r w).2,
        ∀ id, Blend.IsBest e.blend a.weights
            (CandidateSet.widen run.proposals.sets run.reads.items) id →
          ∃ c ∈ run.candidates, c.id = id ∧ e.blend.scoreLimit a.weights ≤ c.score := by
  have hsettings := Settings.validate_eq_ok_iff.1 hvalid
  have hrules : e.store.GivesNoBoosts := by
    rw [hstore]
    exact Store.givesNoBoosts_memory htenants
  rcases e.recommend_cases ctx r w with ⟨w₁, run, hrun⟩ | ⟨f, w₁, -, hrun⟩
  · rw [hrun] at hok ⊢
    have hsound := Ranked.sound_ofReads e.settings run.input run.proposals.sets run.reads
    dsimp only at hok
    rw [RecommendRun.served] at hok
    have hbounds : ∀ shown ∈ a.items,
        0.0 ≤ shown.score ∧ shown.score ≤ e.blend.scoreLimit a.weights := by
      intro shown hshown
      rw [items_of_finish hsound.fault hok] at hshown
      obtain ⟨c, hc, rfl⟩ := List.mem_map.1 hshown
      rw [weights_of_finish hok]
      exact RecommendRun.score_bounds_of_mem_list hsettings hrules hc
    refine ⟨hbounds, fun hlimit shown hshown => ?_,
      fun shown _ => Json.exists_floatNode_eq_number_iff shown.score, Wire.isSome_reread_iff _,
      fun _ => Wire.agrees_of_reread, run, fun id hbest => ?_⟩
    · obtain ⟨hlow, hhigh⟩ := hbounds shown hshown
      exact isFinite_of_le hlimit hlow hhigh
    · rw [weights_of_finish hok] at hbest ⊢
      exact RecommendRun.exists_candidate_at_limit hsettings hbest
  · rw [hrun] at hok
    cases hok

def plainRack : Tenants := [(⟨.none, "shop"⟩, { shoeRack with rules := [] })]

def plainEngine : Engine Unit := { rackEngine with store := .memory plainRack }

theorem plainEngine_valid : plainEngine.settings.validate = .ok () := rfl

theorem plainRack_haveNoBoosts : plainRack.HaveNoBoosts :=
  List.forall_mem_singleton.2 (List.forall_mem_nil _)

theorem recommend_plainRack :
    ∃ a, (plainEngine.recommend rackContext rackRequest ⟨0, ()⟩).1.answer = .ok a ∧
      (a.items.map (·.itemId), (plainEngine.blend.scoreLimit a.weights).isFinite) =
        (["boot", "clog"], true) :=
  Except.exists_ok_of_map_toOption (by decide +kernel)

theorem scores_finite_plainRack : plainEngine.store = .memory plainRack ∧
    plainRack.HaveNoBoosts ∧ plainEngine.settings.validate = .ok () ∧
    ∃ a, (plainEngine.recommend rackContext rackRequest ⟨0, ()⟩).1.answer = .ok a ∧
      (∀ shown ∈ a.items, 0.0 ≤ shown.score ∧ shown.score.isFinite = true) ∧
      (Wire.reread (plainEngine.response a)).isSome = true := by
  have hvalid := plainEngine_valid
  obtain ⟨a, hok, hshown⟩ := recommend_plainRack
  obtain ⟨hbounds, hfinite, -, hreread, -⟩ :=
    scores_finite_within_limit rfl plainRack_haveNoBoosts hvalid hok
  have hall := hfinite (congrArg Prod.snd hshown)
  exact ⟨rfl, plainRack_haveNoBoosts, hvalid, a, hok,
    fun shown h => ⟨(hbounds shown h).1, hall shown h⟩, hreread.2 hall⟩

/-- The user asks for items by the profile alone, with nearly the greatest weight there is. -/
def heavyWeights : Weights Float := ⟨0.0, 0.0, 1.7e308⟩

def heavyRequest : RecommendRequest Float := { rackRequest with blend := some heavyWeights }

theorem recommend_heavyRequest :
    ∃ a, (plainEngine.recommend rackContext heavyRequest ⟨0, ()⟩).1.answer = .ok a ∧
      a.items.map (fun shown => (shown.itemId, shown.score.isFinite)) =
        [("boot", false), ("clog", false)] :=
  Except.exists_ok_of_map_toOption (by decide +kernel)

/-- The settings and the weights are accepted, and no rule multiplies anything, but the boost of the
profile lifts the scores beyond all doubles, and the response cannot be read again. -/
theorem heavyRequest_not_reread : plainRack.HaveNoBoosts ∧
    plainEngine.settings.validate = .ok () ∧ heavyWeights.validate = .ok () ∧
    ∃ a, (plainEngine.recommend rackContext heavyRequest ⟨0, ()⟩).1.answer = .ok a ∧
      (∃ shown ∈ a.items, shown.score.isFinite = false ∧
        Json.floatNode shown.score = .null) ∧
      Wire.reread (plainEngine.response a) = none := by
  obtain ⟨a, hok, hitems⟩ := recommend_heavyRequest
  have hmem : ("boot", false) ∈ a.items.map fun shown => (shown.itemId, shown.score.isFinite) := by
    rw [hitems]
    exact List.mem_cons_self
  obtain ⟨shown, hshown, heq⟩ := List.mem_map.1 hmem
  have hinfinite : shown.score.isFinite = false := congrArg Prod.snd heq
  refine ⟨plainRack_haveNoBoosts, plainEngine_valid, by decide +kernel, a, hok,
    ⟨shown, hshown, hinfinite, Json.floatNode_of_not_isFinite hinfinite⟩, ?_⟩
  rw [← Option.not_isSome_iff_eq_none, Wire.isSome_reread_iff]
  exact fun hall => Bool.false_ne_true (hinfinite.symm.trans (hall shown hshown))

end Engine

end Recommendation
