import Recommendation.Proofs.Engine.Checks
import Recommendation.Proofs.Engine.Runs
import Recommendation.Proofs.Regions

/-!
How far a request reaches. All that a request does to the world, it does by reads in one
scope, of which those about a user are about one user. So whatever these reads keep, the
request keeps, and whatever is true of their failures is true of the request's: a request
stays in every region of worlds that these reads stay in.
-/

namespace Recommendation

variable {σ α : Type}

/-- Reads in a scope, and about no other user than the given one, stay in a region, and
what becomes of their failures, of a cancellation and of a stray rule satisfies `P`. -/
structure Store.StaysFor (store : Store σ) (region : Region σ) (P : Failure → Prop) (ctx : Context)
    (scope : Scope) (user : Option String) : Prop where
  eventTypes : Stays region (fun err => P (.ofStore err)) (store.eventTypes ctx scope)
  topPopular : ∀ q, Stays region (fun err => P (.ofStore err)) (store.topPopular ctx scope q)
  coVisitors : ∀ seed since limit,
    Stays region (fun err => P (.ofStore err)) (store.coVisitors ctx scope seed since limit)
  recentItems : ∀ u since limit types, user = some u →
    Stays region (fun err => P (.ofStore err)) (store.recentItems ctx scope u since limit types)
  tagProfile : ∀ u since types, user = some u →
    Stays region (fun err => P (.ofStore err)) (store.tagProfile ctx scope u since types)
  itemsByIds : ∀ ids, Stays region (fun err => P (.ofStore err)) (store.itemsByIds ctx scope ids)
  itemsWithAnyTag : ∀ tags limit,
    Stays region (fun err => P (.ofStore err)) (store.itemsWithAnyTag ctx scope tags limit)
  rulesFor : ∀ surface,
    Stays region (fun err => P (.ofStore err)) (store.rulesFor ctx scope surface)
  recentEventItems : ∀ u kinds since, user = some u →
    Stays region (fun err => P (.ofStore err)) (store.recentEventItems ctx scope u kinds since)
  stop : ∀ clock stop, region.clock clock → ctx.stop? = some stop → stop ≤ clock →
    region.clock stop
  canceled : ∀ clock, region.clock clock → ctx.isCanceledBy clock = true → P .canceled
  stray : ∀ surface w rules w', region.Has w →
    Returns (store.rulesFor ctx scope surface) w rules w' → ∀ rule ∈ rules,
      ¬(rule.space = scope.space ∧ rule.holdsAt ctx.now = true ∧ rule.holdsOn surface = true) →
        ∀ detail, P (.broken .strayRule detail)

variable [Score α] {store : Store σ} {region : Region σ} {P : Failure → Prop} {ctx : Context}
  {settings : Settings}

/-! ### Signals -/

section Signals

variable {input : SignalInput} (h : store.StaysFor region P ctx input.scope input.user)
include h

theorem Signal.stays_popular : Stays region (fun err => P (.ofStore err))
    (popular settings store ctx input : Read σ (CandidateSet α)) :=
  (h.topPopular _).bind fun _ => stays_pure _

theorem Signal.stays_seeds : Stays region (fun err => P (.ofStore err))
    (seeds settings store ctx input : Read σ (List (Seed α))) := by
  rw [seeds]
  split
  · exact stays_pure _
  · exact stays_pure _
  · rename_i user _ huser
    exact (h.recentItems _ _ _ _ huser).bind fun _ => stays_pure _

theorem Signal.stays_coVisited : Stays region (fun err => P (.ofStore err))
    (coVisited settings store ctx input : Read σ (CandidateSet α)) := by
  refine (stays_seeds h).bind fun seeds => ?_
  split
  · exact stays_pure _
  · exact (Read.stays_all (fun _ => h.coVisitors _ _ _) seeds).bind fun _ => stays_pure _

theorem Signal.stays_attenuation {user : String} (huser : input.user = some user) :
    Stays region (fun err => P (.ofStore err))
      (attenuation settings store ctx input user) := by
  rw [attenuation]
  split
  · exact stays_pure _
  · exact (h.recentItems _ _ _ _ huser).bind fun _ => stays_pure _

theorem Signal.stays_interesting : Stays region (fun err => P (.ofStore err))
    (interesting settings store ctx input : Read σ (CandidateSet α)) := by
  rw [interesting]
  split
  · exact stays_pure _
  · rename_i user huser
    refine (h.tagProfile _ _ _ huser).bind fun history => ?_
    dsimp only
    split
    · exact stays_pure _
    · refine (stays_attenuation h huser).bind fun _ => ?_
      exact (h.itemsWithAnyTag _ _).bind fun _ => stays_pure _

theorem Proposals.stays_ask (signal : Signal) : Stays region (fun err => P (.ofStore err))
    (ask settings store ctx input signal : Read σ (CandidateSet α)) := by
  cases signal with
  | popularity => exact Signal.stays_popular h
  | coVisitation => exact Signal.stays_coVisited h
  | profile => exact Signal.stays_interesting h

variable (input) in
theorem Proposals.stays_askAll (signals : List Signal) :
    Stays region P (askAll settings store ctx input signals : Step σ (Proposals α)) := by
  rw [askAll_eq_collect]
  exact stays_collect (stays_ask h) (fun _ hQ => hQ) h.stop h.canceled signals

end Signals

/-! ### Rankings -/

section Rankings

variable {input : RankInput α} (h : store.StaysFor region P ctx input.scope input.user)
include h

omit [Score α] in
theorem Ranked.stays_readRules : Stays region P (readRules store ctx input) := by
  refine ((h.rulesFor _).step fun _ hQ => hQ).bind_of_returns fun w rules w' hw hrules => ?_
  rw [returns_step_iff] at hrules
  cases hstray : rules.find? (isStray ctx input) with
  | none => exact stays_pure _
  | some rule =>
      -- What the engine takes for stray is what `stray` answers for.
      refine stays_throw (h.stray _ _ _ _ hw hrules rule (List.mem_of_find?_eq_some hstray) ?_ _)
      rintro ⟨hspace, hactive, hsurface⟩
      have hpos := List.find?_some hstray
      simp [isStray, hspace, hactive, hsurface] at hpos

omit [Score α] in
theorem Ranked.stays_readItems (ids : List String) :
    Stays region (fun err => P (.ofStore err)) (readItems store ctx input.scope ids) := by
  rw [readItems]
  split
  · exact stays_pure _
  · exact h.itemsByIds _

omit [Score α] in
theorem Ranked.stays_readRecent :
    Stays region (fun err => P (.ofStore err)) (readRecent settings store ctx input) := by
  rw [readRecent]
  split
  · exact stays_pure _
  · rename_i user huser
    split
    · have hread (kinds : List Int) (days : Float) : Stays region (fun err => P (.ofStore err))
          (if kinds.isEmpty then return []
            else store.recentEventItems ctx input.scope user kinds (ctx.now.minusDays days) :
              Read σ (List String)) := by
        split
        · exact stays_pure _
        · exact h.recentEventItems _ _ _ huser
      exact (hread _ _).bind fun _ => (hread _ _).bind fun _ => stays_pure _
    · exact stays_pure _

variable (input) in
theorem Ranked.stays_ofProposals (sets : List (CandidateSet α)) :
    Stays region P (ofProposals settings store ctx input sets) := by
  refine Stays.bind ?_ fun _ => stays_pure _
  refine (stays_readRules h).bind fun rules => ?_
  refine ((stays_readItems h _).step fun _ hQ => hQ).bind fun items => ?_
  exact ((stays_readRecent h).step fun _ hQ => hQ).bind fun recent => stays_pure _

end Rankings

/-! ### Requests -/

namespace Engine

variable {e : Engine σ} {w w' : World σ}

theorem stays_rankProposals {r : RecommendRequest α} {checked : Checked α}
    (h : e.store.StaysFor region P ctx ⟨ctx.org, checked.space⟩ (some checked.user))
    (types : EventTypes) (proposals : Proposals α) :
    Stays region P (e.rankProposals ctx r checked types proposals) :=
  (Ranked.stays_ofProposals (e.rankInput ctx r checked types) h _).bind fun _ => stays_pure _

theorem stays_recommendSteps {r : RecommendRequest α}
    (h : e.store.StaysFor region P (contextOf ctx r.asOf) ⟨ctx.org, Text.trim r.space⟩
      (some (Text.trim r.userId)))
    (hcheck : ∀ f, e.check r = .error f → P f) : Stays region P (e.recommendSteps ctx r) := by
  refine (stays_liftM hcheck).bind_of_returns fun _ checked _ _ hpasses => ?_
  obtain ⟨-, -, -, -, -, hchecked⟩ := check_eq_ok_iff.1 (returns_liftM_iff.1 hpasses).1
  have hspace : checked.space = Text.trim r.space := by rw [hchecked]
  have huser : checked.user = Text.trim r.userId := by rw [hchecked]
  rw [← contextOf_org ctx r.asOf, ← hspace, ← huser] at h
  refine (h.eventTypes.step fun _ hQ => hQ).bind fun types => ?_
  exact (Proposals.stays_askAll (signalInput (contextOf ctx r.asOf) checked types) h _).bind
    (stays_rankProposals h types)

theorem stays_similarSteps {r : SimilarRequest}
    (h : e.store.StaysFor region P ctx ⟨ctx.org, Text.trim r.space⟩ none)
    (hcheck : ∀ f, e.checkSimilar r = .error f → P f)
    (hfind : ∀ w items w', region.Has w →
      Returns (e.store.itemsByIds ctx ⟨ctx.org, Text.trim r.space⟩ [Text.trim r.itemId]) w items w' →
        items.contains (Text.trim r.itemId) = false →
          P (.notFound ("item " ++ Text.trim r.itemId))) :
    Stays region P (e.similarSteps ctx r : Step σ (Served α)) := by
  refine (stays_liftM hcheck).bind_of_returns fun _ checked _ _ hpasses => ?_
  obtain ⟨-, -, -, hchecked⟩ := checkSimilar_eq_ok_iff.1 (returns_liftM_iff.1 hpasses).1
  have hspace : checked.space = Text.trim r.space := by rw [hchecked]
  have hseed : checked.seed = Text.trim r.itemId := by rw [hchecked]
  rw [← hspace] at h
  rw [← hspace, ← hseed] at hfind
  refine Stays.bind ?_ fun _ => ?_
  · refine ((h.itemsByIds _).step fun _ hQ => hQ).bind_of_returns fun w items w' hw hitems => ?_
    split
    · exact stays_pure _
    · rename_i hmissing
      exact stays_throw (hfind w items w' hw (returns_step_iff.1 hitems)
        (Bool.eq_false_iff.2 hmissing))
  · refine (h.eventTypes.step fun _ hQ => hQ).bind fun types => ?_
    refine (Proposals.stays_askAll (similarSignalInput ctx checked types) h _).bind
      fun proposals => ?_
    exact (Ranked.stays_ofProposals (similarRankInput ctx r checked types) h _).bind
      fun _ => stays_pure _

omit [Score α] in
/-- A request that is answered whenever its steps return ends in the region, and fails only
as its steps do. -/
theorem serve_stays {steps : Step σ (Served α)} (h : Stays region P steps) (hw : region.Has w)
    (hanswers : ∀ served w', Returns steps w served w' → ∃ a, served.answer = .ok a) :
    region.Has (serve steps w).2 ∧ ∀ f, (serve steps w).1.answer = .error f → P f := by
  have hends := h.ends w hw
  have hfails := h.fails w hw
  rcases serve_cases steps w with ⟨served, w', hreturns, hserve⟩ | ⟨f, w', hsteps, hserve⟩
  · obtain ⟨a, ha⟩ := hanswers served w' hreturns
    rw [hreturns] at hends
    rw [hserve]
    refine ⟨hends, fun f hf => ?_⟩
    cases ha.symm.trans hf
  · rw [hsteps] at hends hfails
    rw [hserve]
    refine ⟨hends, ?_⟩
    rintro _ ⟨⟩
    exact hfails f rfl

theorem recommend_stays_from_proposals {r : RecommendRequest α} {checked : Checked α}
    {types : EventTypes} {w₁ : World σ} (hcheck : e.check r = .ok checked)
    (htypes : Returns (e.store.eventTypes (contextOf ctx r.asOf)
      ⟨(contextOf ctx r.asOf).org, checked.space⟩) w types w₁)
    (h : e.store.StaysFor region P (contextOf ctx r.asOf)
      ⟨(contextOf ctx r.asOf).org, checked.space⟩ (some checked.user))
    (hproposed : region.Has ((Proposals.collect (contextOf ctx r.asOf)
      ((e.activeSignals checked).map (e.askSignal (contextOf ctx r.asOf) checked types))).run
        w₁).2) : region.Has (e.recommend ctx r w).2 := by
  rw [recommend, run_serve, recommendSteps_eq, run_recommendStepsFrom hcheck htypes]
  generalize (Proposals.collect (contextOf ctx r.asOf) _).run w₁ = proposed at hproposed ⊢
  rcases proposed with ⟨f | proposals, w₂⟩
  · exact hproposed
  · have hranked := (stays_rankProposals (r := r) h types proposals).ends w₂ hproposed
    dsimp only
    generalize (e.rankProposals _ r checked types proposals).run w₂ = ranked at hranked ⊢
    rcases ranked with ⟨f | served, w₃⟩ <;> exact hranked

theorem recommend_stays_from_types {r : RecommendRequest α} {checked : Checked α}
    {types : EventTypes} {w₁ : World σ} (hcheck : e.check r = .ok checked)
    (htypes : Returns (e.store.eventTypes (contextOf ctx r.asOf)
      ⟨(contextOf ctx r.asOf).org, checked.space⟩) w types w₁)
    (h : e.store.StaysFor region P (contextOf ctx r.asOf)
      ⟨(contextOf ctx r.asOf).org, checked.space⟩ (some checked.user))
    (hw : region.Has w₁) : region.Has (e.recommend ctx r w).2 := by
  have hasks : Stays region P (Proposals.collect (contextOf ctx r.asOf)
      ((e.activeSignals checked).map (e.askSignal (contextOf ctx r.asOf) checked types))) :=
    Proposals.stays_askAll (signalInput (contextOf ctx r.asOf) checked types) h _
  exact recommend_stays_from_proposals hcheck htypes h (hasks.ends w₁ hw)

end Engine

end Recommendation
