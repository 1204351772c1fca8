import Recommendation.Proofs.Steps

/-!
What a request has gone through when its list has been ranked. A run holds what each
step has returned and the worlds between the steps, so that a statement about an
answer can name the reads that the answer comes from. A request ends with the list of
a run or with the failure of one of its steps.
-/

namespace Recommendation

variable {σ α : Type}

namespace Engine

theorem run_serve (steps : Step σ (Served α)) (w : World σ) :
    serve steps w =
      match steps.run w with
      | (.ok served, w') => (served, w')
      | (.error f, w') => ({ answer := .error f }, w') := by
  simp only [serve, bind, StateT.bind]
  rcases steps.run w with ⟨_ | _, _⟩ <;> rfl

theorem serve_cases (steps : Step σ (Served α)) (w : World σ) :
    (∃ served w', Returns steps w served w' ∧ serve steps w = (served, w')) ∨
      ∃ f w', steps.run w = (.error f, w') ∧ serve steps w = ({ answer := .error f }, w') := by
  rw [run_serve]
  rcases hrun : steps.run w with ⟨f | served, w'⟩
  · exact .inr ⟨f, w', rfl, rfl⟩
  · exact .inl ⟨served, w', hrun, rfl⟩

theorem items_of_finish {kind : ListKind} {weights : Weights α} {withReasons degraded : Bool}
    {space surface : String} {ranked : Ranked α} {a : Answer α} (hfault : ranked.fault = none)
    (hok : (finish kind weights withReasons degraded space surface ranked).answer = .ok a) :
    a.items = ranked.list.map (·.shown withReasons) := by
  rw [finish, hfault] at hok
  cases hok
  rfl

theorem weights_of_finish {kind : ListKind} {weights : Weights α} {withReasons degraded : Bool}
    {space surface : String} {ranked : Ranked α} {a : Answer α}
    (hok : (finish kind weights withReasons degraded space surface ranked).answer = .ok a) :
    a.weights = weights := by
  rw [finish] at hok
  split at hok <;> cases hok
  rfl

end Engine

variable [Score α]

theorem Ranked.returns_ofProposals_iff {settings : Settings} {store : Store σ} {ctx : Context}
    {input : RankInput α} {sets : List (CandidateSet α)} {w w' : World σ} {ranked : Ranked α} :
    Returns (ofProposals settings store ctx input sets) w ranked w' ↔
      ∃ reads, Returns (read settings store ctx input sets) w reads w' ∧
        ranked = ofReads settings input sets reads := by
  simp only [ofProposals, returns_bind_iff, returns_pure_iff]
  constructor
  · rintro ⟨reads, w₁, hread, hranked, rfl⟩
    exact ⟨reads, hread, hranked⟩
  · rintro ⟨reads, hread, hranked⟩
    exact ⟨reads, w', hread, hranked, rfl⟩

namespace Engine

structure RecommendRun (e : Engine σ) (ctx : Context) (r : RecommendRequest α)
    (w w' : World σ) where
  checked : Checked α
  types : EventTypes
  proposals : Proposals α
  reads : Ranked.Reads
  /-- The worlds after the kinds of events, and after the proposals, have been read. -/
  worldOfTypes : World σ
  worldOfProposals : World σ
  passes : e.check r = .ok checked
  readsTypes : Returns (e.store.eventTypes (contextOf ctx r.asOf)
    ⟨(contextOf ctx r.asOf).org, checked.space⟩) w types worldOfTypes
  asks : Returns (Proposals.askAll e.settings e.store (contextOf ctx r.asOf)
    (signalInput (contextOf ctx r.asOf) checked types)
    (Signal.all.filter (Proposals.isActive e.blend checked.weights)))
    worldOfTypes proposals worldOfProposals
  ranks : Returns (Ranked.read e.settings e.store (contextOf ctx r.asOf)
    (e.rankInput (contextOf ctx r.asOf) r checked types) proposals.sets)
    worldOfProposals reads w'

structure SimilarRun (α : Type) [Score α] (e : Engine σ) (ctx : Context) (r : SimilarRequest)
    (w w' : World σ) where
  checked : CheckedSimilar
  types : EventTypes
  proposals : Proposals α
  reads : Ranked.Reads
  /-- The worlds after the item, the kinds of events, and the proposals have been read. -/
  worldOfSeed : World σ
  worldOfTypes : World σ
  worldOfProposals : World σ
  passes : e.checkSimilar r = .ok checked
  finds : Returns (e.findSeed ctx checked) w () worldOfSeed
  readsTypes : Returns (e.store.eventTypes ctx ⟨ctx.org, checked.space⟩) worldOfSeed types
    worldOfTypes
  asks : Returns (Proposals.askAll e.settings e.store ctx (similarSignalInput ctx checked types)
    [.coVisitation]) worldOfTypes proposals worldOfProposals
  ranks : Returns (Ranked.read e.settings e.store ctx
    (similarRankInput ctx r checked types : RankInput α) proposals.sets) worldOfProposals reads w'

variable {e : Engine σ} {ctx : Context} {w w' : World σ}

namespace RecommendRun

variable {r : RecommendRequest α} (run : RecommendRun e ctx r w w')

def input : RankInput α := e.rankInput (contextOf ctx r.asOf) r run.checked run.types

def outcome : PolicyOutcome α :=
  Ranked.outcome e.settings run.input run.proposals.sets run.reads

def ranked : Ranked α := Ranked.ofReads e.settings run.input run.proposals.sets run.reads

def served : Served α :=
  finish (listKind run.checked.weights) run.checked.weights r.includeReasons
    run.proposals.degraded run.checked.space (surfaceOf r.surface) run.ranked

end RecommendRun

namespace SimilarRun

variable {r : SimilarRequest} (run : SimilarRun α e ctx r w w')

def input : RankInput α := similarRankInput ctx r run.checked run.types

def outcome : PolicyOutcome α :=
  Ranked.outcome e.settings run.input run.proposals.sets run.reads

def ranked : Ranked α := Ranked.ofReads e.settings run.input run.proposals.sets run.reads

def served : Served α :=
  finish .similar coVisitationOnly r.includeReasons false run.checked.space (surfaceOf r.surface)
    run.ranked

end SimilarRun

theorem returns_recommendSteps_iff {r : RecommendRequest α} {served : Served α} :
    Returns (e.recommendSteps ctx r) w served w' ↔
      ∃ run : RecommendRun e ctx r w w', served = run.served := by
  simp only [recommendSteps, returns_bind_iff, returns_liftM_iff, returns_step_iff,
    returns_pure_iff, Ranked.returns_ofProposals_iff]
  constructor
  · rintro ⟨checked, _, ⟨hcheck, rfl⟩, types, w₁, htypes, proposals, w₂, hask, ranked, _,
      ⟨reads, hreads, hranked⟩, hserved, rfl⟩
    rw [hranked] at hserved
    exact ⟨⟨checked, types, proposals, reads, w₁, w₂, hcheck, htypes, hask, hreads⟩, hserved⟩
  · rintro ⟨run, hserved⟩
    exact ⟨run.checked, w, ⟨run.passes, rfl⟩, run.types, _, run.readsTypes, run.proposals, _,
      run.asks, run.ranked, w', ⟨run.reads, run.ranks, rfl⟩, hserved, rfl⟩

theorem returns_similarSteps_iff {r : SimilarRequest} {served : Served α} :
    Returns (e.similarSteps ctx r) w served w' ↔
      ∃ run : SimilarRun α e ctx r w w', served = run.served := by
  simp only [similarSteps, returns_bind_iff, returns_liftM_iff, returns_step_iff,
    returns_pure_iff, Ranked.returns_ofProposals_iff]
  constructor
  · rintro ⟨checked, _, ⟨hcheck, rfl⟩, _, w₀, hfind, types, w₁, htypes, proposals, w₂, hask,
      ranked, _, ⟨reads, hreads, hranked⟩, hserved, rfl⟩
    rw [hranked] at hserved
    exact ⟨⟨checked, types, proposals, reads, w₀, w₁, w₂, hcheck, hfind, htypes, hask, hreads⟩,
      hserved⟩
  · rintro ⟨run, hserved⟩
    exact ⟨run.checked, w, ⟨run.passes, rfl⟩, (), _, run.finds, run.types, _, run.readsTypes,
      run.proposals, _, run.asks, run.ranked, w', ⟨run.reads, run.ranks, rfl⟩, hserved, rfl⟩

/-! ### How requests end -/

theorem recommend_cases (e : Engine σ) (ctx : Context) (r : RecommendRequest α) (w : World σ) :
    (∃ w', ∃ run : RecommendRun e ctx r w w', e.recommend ctx r w = (run.served, w')) ∨
      ∃ f w', (e.recommendSteps ctx r).run w = (.error f, w') ∧
        e.recommend ctx r w = ({ answer := .error f }, w') := by
  rcases serve_cases (e.recommendSteps ctx r) w with ⟨served, w', hreturns, hserve⟩ | hfails
  · obtain ⟨run, hserved⟩ := returns_recommendSteps_iff.1 hreturns
    rw [hserved] at hserve
    exact .inl ⟨w', run, hserve⟩
  · exact .inr hfails

theorem similar_cases (α : Type) [Score α] (e : Engine σ) (ctx : Context) (r : SimilarRequest)
    (w : World σ) :
    (∃ w', ∃ run : SimilarRun α e ctx r w w', e.similar ctx r w = (run.served, w')) ∨
      ∃ f w', (e.similarSteps ctx r : Step σ (Served α)).run w = (.error f, w') ∧
        e.similar ctx r w = (({ answer := .error f } : Served α), w') := by
  rcases serve_cases (e.similarSteps ctx r : Step σ (Served α)) w with
    ⟨served, w', hreturns, hserve⟩ | hfails
  · obtain ⟨run, hserved⟩ := returns_similarSteps_iff.1 hreturns
    rw [hserved] at hserve
    exact .inl ⟨w', run, hserve⟩
  · exact .inr hfails

end Engine

end Recommendation
