import Recommendation.Proofs.Engine.Checks
import Recommendation.Proofs.Engine.Proposals
import Recommendation.Proofs.Engine.Runs
import Recommendation.Store.Memory

/-!
A request that has been canceled is not answered. The wait for the signals notices a
cancellation by itself; before and after it, the reads of the store do. How the reads of
the signals and the cancellation fall in time is left open by a schedule: any answers of
the signals, whenever they come, and any time that passes before and after the wait.
-/

namespace Recommendation

variable {σ α β : Type}

/-! ### Reads that heed cancellation -/

/-- The read fails as canceled if the request is canceled when it begins. -/
def Read.Heeds (ctx : Context) (read : Read σ β) : Prop :=
  ∀ w, ctx.isCanceledBy w.clock = true → (read.run w).1 = .error .canceled

/-- Every read of the store fails as canceled if the request is canceled when it begins. -/
structure Store.HeedsCancellation (store : Store σ) : Prop where
  eventTypes : ∀ ctx scope, (store.eventTypes ctx scope).Heeds ctx
  topPopular : ∀ ctx scope query, (store.topPopular ctx scope query).Heeds ctx
  coVisitors : ∀ ctx scope seed since limit, (store.coVisitors ctx scope seed since limit).Heeds ctx
  recentItems : ∀ ctx scope user since limit types,
    (store.recentItems ctx scope user since limit types).Heeds ctx
  tagProfile : ∀ ctx scope user since types,
    (store.tagProfile ctx scope user since types).Heeds ctx
  itemsByIds : ∀ ctx scope ids, (store.itemsByIds ctx scope ids).Heeds ctx
  itemsWithAnyTag : ∀ ctx scope tags limit, (store.itemsWithAnyTag ctx scope tags limit).Heeds ctx
  rulesFor : ∀ ctx scope surface, (store.rulesFor ctx scope surface).Heeds ctx
  recentEventItems : ∀ ctx scope user kinds since,
    (store.recentEventItems ctx scope user kinds since).Heeds ctx
  holdoutSamples : ∀ ctx scope since minEvents limit,
    (store.holdoutSamples ctx scope since minEvents limit).Heeds ctx

theorem Read.run_checkCanceled (ctx : Context) (w : World σ) :
    (checkCanceled ctx).run w =
      (if ctx.isCanceledBy w.clock then .error .canceled else .ok (), w) := by
  have hget : (get : Read σ (World σ)).run w = (.ok w, w) := rfl
  rw [checkCanceled, run_bind, hget]
  dsimp only
  split <;> rfl

theorem Store.heeds_answer (tenants : Tenants) (ctx : Context) (scope : Scope)
    (f : Snapshot → β) : (answer tenants ctx scope f : Read σ β).Heeds ctx := by
  intro w hcanceled
  rw [answer, run_bind, Read.run_checkCanceled, if_pos hcanceled]

theorem Store.heedsCancellation_memory (tenants : Tenants) :
    (memory tenants : Store σ).HeedsCancellation where
  eventTypes ctx scope := heeds_answer tenants ctx scope (·.types)
  topPopular ctx scope q := heeds_answer tenants ctx scope (·.topPopular q ctx.now)
  coVisitors ctx scope seed since limit :=
    heeds_answer tenants ctx scope (·.coVisitors seed since ctx.now limit)
  recentItems ctx scope user since limit types :=
    heeds_answer tenants ctx scope (·.recentItems user since ctx.now limit types)
  tagProfile ctx scope user since types :=
    heeds_answer tenants ctx scope (·.tagProfile user since ctx.now types)
  itemsByIds ctx scope ids := heeds_answer tenants ctx scope (·.itemsByIds ids)
  itemsWithAnyTag ctx scope tags limit :=
    heeds_answer tenants ctx scope (·.itemsWithAnyTag tags limit)
  rulesFor ctx scope surface :=
    heeds_answer tenants ctx scope (·.rulesFor scope.space surface ctx.now)
  recentEventItems ctx scope user kinds since :=
    heeds_answer tenants ctx scope (·.recentEventItems user kinds since ctx.now)
  holdoutSamples ctx scope since minEvents limit :=
    heeds_answer tenants ctx scope (·.holdoutSamples since ctx.now minEvents limit)

/-- A ranking fails if the rules cannot be read, since nothing is read before them. -/
theorem Ranked.fst_run_ofProposals_of_error [Score α] (settings : Settings) {store : Store σ}
    {ctx : Context} {input : RankInput α} (sets : List (CandidateSet α)) {w : World σ}
    {err : StoreError}
    (h : ((store.rulesFor ctx input.scope input.surface).run w).1 = .error err) :
    ((ofProposals settings store ctx input sets).run w).1 = .error (.ofStore err) := by
  have hrules : ((readRules store ctx input).run w).1 = .error (.ofStore err) := by
    rw [readRules]
    exact fst_run_bind_of_error (fst_run_step_of_error h)
  have hread : ((read settings store ctx input sets).run w).1 = .error (.ofStore err) := by
    rw [read]
    exact fst_run_bind_of_error hrules
  rw [ofProposals]
  exact fst_run_bind_of_error hread

/-! ### Schedules -/

def World.later (w : World σ) (millis : Nat) : World σ := { w with clock := w.clock + millis }

/-- How the signals of a request answer, and what time passes around them. -/
structure Schedule (σ α : Type) where
  /-- How long it takes until the signals are asked. -/
  before : Nat
  /-- The answers of the signals, each in its own time. -/
  asked : Engine.Checked α → EventTypes → List (Timed σ (Except StoreError (CandidateSet α)))
  /-- How long it takes until their answers are looked at further. -/
  after : Nat

namespace Schedule

def propose (schedule : Schedule σ α) (ctx : Context) (checked : Engine.Checked α)
    (types : EventTypes) : Step σ (Proposals α) := do
  ExceptT.lift (Timed.sleep schedule.before)
  let proposals ← Proposals.collect ctx (schedule.asked checked types)
  ExceptT.lift (Timed.sleep schedule.after)
  return proposals

theorem returns_sleep_iff {ε : Type} {millis : Nat} {u : Unit} {w w' : World σ} :
    Returns (ExceptT.lift (Timed.sleep millis) : ExceptT ε (StateM (World σ)) Unit) w u w' ↔
      w' = w.later millis := by
  constructor
  · rintro ⟨⟩
    rfl
  · rintro rfl
    rfl

theorem returns_propose_iff {schedule : Schedule σ α} {ctx : Context} {checked : Engine.Checked α}
    {types : EventTypes} {w w' : World σ} {p : Proposals α} :
    Returns (schedule.propose ctx checked types) w p w' ↔ ∃ w₁,
      Returns (Proposals.collect ctx (schedule.asked checked types)) (w.later schedule.before) p w₁ ∧
        w' = w₁.later schedule.after := by
  simp only [propose, returns_bind_iff, returns_sleep_iff, returns_pure_iff]
  constructor
  · rintro ⟨_, _, rfl, _, w₁, hcollect, _, _, rfl, rfl, rfl⟩
    exact ⟨w₁, hcollect, rfl⟩
  · rintro ⟨w₁, hcollect, rfl⟩
    exact ⟨(), _, rfl, p, w₁, hcollect, (), _, rfl, rfl, rfl⟩

end Schedule

namespace Engine

variable [Score α]

/-- The signals of a request answer as the store does, and no other time passes. -/
def schedule (e : Engine σ) (ctx : Context) : Schedule σ α where
  before := 0
  asked checked types := (e.activeSignals checked).map (e.askSignal ctx checked types)
  after := 0

def recommendUnder (e : Engine σ) (schedule : Schedule σ α) (ctx : Context)
    (r : RecommendRequest α) : Timed σ (Served α) :=
  serve (e.recommendStepsFrom ctx r (schedule.propose (contextOf ctx r.asOf)))

theorem recommendUnder_schedule (e : Engine σ) (ctx : Context) (r : RecommendRequest α) :
    e.recommendUnder (e.schedule (contextOf ctx r.asOf)) ctx r = e.recommend ctx r := by
  have hpropose (checked : Checked α) (types : EventTypes) :
      (e.schedule (contextOf ctx r.asOf)).propose (contextOf ctx r.asOf) checked types =
        Proposals.collect (contextOf ctx r.asOf)
          ((e.activeSignals checked).map (e.askSignal (contextOf ctx r.asOf) checked types)) := by
    have hsleep : (ExceptT.lift (Timed.sleep 0) : Step σ Unit) = pure () := rfl
    simp only [Schedule.propose, schedule, hsleep, pure_bind, bind_pure]
  rw [recommendUnder, recommend, recommendSteps_eq, funext₂ hpropose]

/-- A request for a user whose rules are being read. -/
structure RulesIssued (e : Engine σ) (schedule : Schedule σ α) (ctx : Context)
    (r : RecommendRequest α) (w : World σ) where
  checked : Checked α
  types : EventTypes
  proposals : Proposals α
  worldOfTypes : World σ
  /-- The world in which the rules are read. -/
  world : World σ
  passes : e.check r = .ok checked
  readsTypes : Returns (e.store.eventTypes (contextOf ctx r.asOf)
    ⟨(contextOf ctx r.asOf).org, checked.space⟩) w types worldOfTypes
  proposes : Returns (schedule.propose (contextOf ctx r.asOf) checked types) worldOfTypes proposals
    world

variable {e : Engine σ} {schedule : Schedule σ α} {ctx : Context} {r : RecommendRequest α}
  {w : World σ}

def RulesIssued.results (issued : RulesIssued e schedule ctx r w) :
    List (Except StoreError (CandidateSet α)) :=
  (Timed.all (schedule.asked issued.checked issued.types)
    (issued.worldOfTypes.later schedule.before)).1

theorem RulesIssued.canceled_not_mem_results (issued : RulesIssued e schedule ctx r w) :
    .error .canceled ∉ issued.results := by
  intro hmem
  obtain ⟨_, hcollect, -⟩ := Schedule.returns_propose_iff.1 issued.proposes
  obtain ⟨-, hresults, -⟩ := Proposals.returns_collect_iff.1 hcollect
  cases (Proposals.ofResults_eq_ok_iff.1 hresults).1 .canceled hmem

omit [Score α] in
theorem isCanceledBy_contextOf (ctx : Context) (asOf : Option Time.Instant) (clock : Nat) :
    (contextOf ctx asOf).isCanceledBy clock = ctx.isCanceledBy clock := by
  cases asOf <;> rfl

/-- The read of the rules fails, and everything behind it is left out. -/
theorem answer_of_canceled_at_rules (hstore : e.store.HeedsCancellation)
    (issued : RulesIssued e schedule ctx r w)
    (hcanceled : ctx.isCanceledBy issued.world.clock = true) :
    (e.recommendUnder schedule ctx r w).1.answer = .error .canceled := by
  have hranked : ((e.rankProposals (contextOf ctx r.asOf) r issued.checked issued.types
      issued.proposals).run issued.world).1 = .error .canceled := by
    have hrules := hstore.rulesFor (contextOf ctx r.asOf)
      (e.rankInput (contextOf ctx r.asOf) r issued.checked issued.types).scope
      (e.rankInput (contextOf ctx r.asOf) r issued.checked issued.types).surface issued.world
      ((isCanceledBy_contextOf ctx r.asOf _).trans hcanceled)
    have hfails :=
      Ranked.fst_run_ofProposals_of_error e.settings issued.proposals.sets hrules
    rw [rankProposals]
    exact fst_run_bind_of_error hfails
  have hproposes := issued.proposes
  rw [Returns] at hproposes
  rw [recommendUnder, run_serve, run_recommendStepsFrom issued.passes issued.readsTypes, hproposes]
  dsimp only
  generalize (e.rankProposals (contextOf ctx r.asOf) r issued.checked issued.types
    issued.proposals).run issued.world = ended at hranked
  obtain ⟨_, w'⟩ := ended
  cases hranked
  rfl

/-- A request is answered only if it has got as far as to its rules. -/
theorem exists_rulesIssued {a : Answer α}
    (hok : (e.recommendUnder schedule ctx r w).1.answer = .ok a) :
    Nonempty (RulesIssued e schedule ctx r w) := by
  rcases serve_cases (e.recommendStepsFrom ctx r (schedule.propose (contextOf ctx r.asOf))) w with
    ⟨served, w', hreturns, -⟩ | ⟨f, w', -, hserve⟩
  · simp only [recommendStepsFrom, returns_bind_iff, returns_liftM_iff, returns_step_iff]
      at hreturns
    obtain ⟨checked, _, ⟨hcheck, rfl⟩, types, w₁, htypes, proposals, w₂, hpropose, -⟩ := hreturns
    exact ⟨⟨checked, types, proposals, w₁, w₂, hcheck, htypes, hpropose⟩⟩
  · rw [recommendUnder, hserve] at hok
    cases hok

/-- A canceled request is not answered. However the answers of the signals and the
cancellation fall in time, a request that has been called off, or whose deadline has
passed, when its rules are read fails as canceled; and a list, be it degraded or not, is
one of a request that was still wanted then. A signal that fails as canceled is never
left out. The engine's own requests are those under its own schedule. -/
theorem canceled_never_answered (hstore : e.store.HeedsCancellation) (schedule : Schedule σ α)
    (ctx : Context) (r : RecommendRequest α) (w : World σ) :
    (∀ issued : RulesIssued e schedule ctx r w,
        (∃ t, (ctx.canceledAt = some t ∨ ctx.deadline = some t) ∧ t ≤ issued.world.clock) →
          (e.recommendUnder schedule ctx r w).1.answer = .error .canceled) ∧
      (∀ a, (e.recommendUnder schedule ctx r w).1.answer = .ok a →
        ∃ issued : RulesIssued e schedule ctx r w, .error .canceled ∉ issued.results ∧
          ∀ t, ctx.canceledAt = some t ∨ ctx.deadline = some t → issued.world.clock < t) ∧
      (∀ results : List (Except StoreError (CandidateSet α)), .error .canceled ∈ results →
        ∀ p, Proposals.ofResults results ≠ .ok p) ∧
      e.recommend ctx r = e.recommendUnder (e.schedule (contextOf ctx r.asOf)) ctx r := by
  refine ⟨fun issued hcanceled => ?_, fun a hok => ?_, fun results hmem p hok => ?_, ?_⟩
  · exact answer_of_canceled_at_rules hstore issued (Context.isCanceledBy_iff.2 hcanceled)
  · obtain ⟨issued⟩ := exists_rulesIssued hok
    refine ⟨issued, issued.canceled_not_mem_results, fun t ht => Nat.lt_of_not_le fun hle => ?_⟩
    have hcanceled := answer_of_canceled_at_rules hstore issued
      (Context.isCanceledBy_iff.2 ⟨t, ht, hle⟩)
    cases hcanceled.symm.trans hok
  · cases (Proposals.ofResults_eq_ok_iff.1 hok).1 .canceled hmem
  · rw [recommendUnder_schedule]

def emptyEngine : Engine Unit := { settings := {}, store := .memory [] }

def briefContext : Context := { org := .none, now := ⟨1000, 0⟩, canceledAt := some 5 }

def plainRequest : RecommendRequest Float := { userId := "ann", space := "shop", k := 2 }

/-- Ten milliseconds pass between the answers of the signals and the read of the rules. -/
def slowSchedule : Schedule Unit Float := { emptyEngine.schedule briefContext with after := 10 }

def lateIssued : RulesIssued emptyEngine slowSchedule briefContext plainRequest ⟨0, ()⟩ where
  checked := ⟨Text.trim "ann", Text.trim "shop", 2, ⟨1.0, 0.1, 0.1⟩⟩
  types := Snapshot.types {}
  proposals := ⟨[.empty .popularity, .empty .coVisitation, .empty .profile], false⟩
  worldOfTypes := ⟨0, ()⟩
  world := ⟨10, ()⟩
  passes := by
    have hvalid : (⟨1.0, 0.1, 0.1⟩ : Weights Float).validate = .ok () := by decide +kernel
    exact check_eq_ok_iff.2 ⟨by decide +kernel, by decide +kernel, by decide, rfl,
      congrArg (Except.map fun _ => _) hvalid, rfl⟩
  readsTypes := rfl
  proposes := rfl

theorem canceled_never_answered_slowSchedule : emptyEngine.store.HeedsCancellation ∧
    (∃ t, (briefContext.canceledAt = some t ∨ briefContext.deadline = some t) ∧
      t ≤ lateIssued.world.clock) ∧
    (emptyEngine.recommendUnder slowSchedule briefContext plainRequest ⟨0, ()⟩).1.answer =
      .error .canceled := by
  have hstore : emptyEngine.store.HeedsCancellation := Store.heedsCancellation_memory []
  have hcanceled : ∃ t, (briefContext.canceledAt = some t ∨ briefContext.deadline = some t) ∧
      t ≤ lateIssued.world.clock := ⟨5, .inl rfl, by decide⟩
  exact ⟨hstore, hcanceled,
    (canceled_never_answered hstore slowSchedule briefContext plainRequest ⟨0, ()⟩).1 lateIssued
      hcanceled⟩

end Engine

end Recommendation
