import Recommendation.Proofs.Candidates
import Recommendation.Proofs.Diversity.Filling
import Recommendation.Proofs.Engine.Reach
import Recommendation.Proofs.Policy

/-!
The engine checks its own work before it hands out a list. None of these checks can
fail: a survivor has nothing against it, the list is made of survivors, and the
identifiers of candidates have been distinct since the blend. So `Ranked.ofReads_eq`
says what a ranking is without any of the checks, and no request ends with an alarm.
-/

namespace Recommendation

theorem eraseDups_of_nodup {xs : List String} (h : xs.Nodup) : xs.eraseDups = xs := by
  induction xs with
  | nil => rfl
  | cons x rest ih =>
      obtain ⟨hx, hrest⟩ := List.nodup_cons.1 h
      have hkeep : rest.filter (fun y => !y == x) = rest := by
        refine List.filter_eq_self.2 fun y hy => ?_
        simp only [Bool.not_eq_true', beq_eq_false_iff_ne]
        rintro rfl
        exact hx hy
      rw [List.eraseDups_cons, hkeep, ih hrest]

variable {σ α : Type} [Score α]

namespace Ranked

section Reads

variable (settings : Settings) (input : RankInput α) (sets : List (CandidateSet α)) (reads : Reads)

def proposedList : List (Candidate α) :=
  (diversity settings).list reads.items input.k (outcome settings input sets reads).survivors

theorem nodup_survivors_outcome :
    ((outcome settings input sets reads).survivors.map (·.id)).Nodup :=
  Policy.nodup_survivors (nodup_candidates input reads.items reads.rules sets)

theorem proposedList_subperm : (proposedList settings input sets reads).Subperm
    (outcome settings input sets reads).survivors :=
  Diversity.list_subperm _ _ _ _

theorem nodup_proposedList : ((proposedList settings input sets reads).map (·.id)).Nodup := by
  obtain ⟨list, hperm, hsublist⟩ := proposedList_subperm settings input sets reads
  rw [← (hperm.map _).nodup_iff]
  exact (nodup_survivors_outcome settings input sets reads).sublist (hsublist.map _)

theorem leaks_proposedList : (outcome settings input sets reads).leaks
    ((proposedList settings input sets reads).map (·.id)) = [] :=
  Policy.leaks_eq_nil fun c hc =>
    ⟨c, (proposedList_subperm settings input sets reads).subset hc, rfl⟩

/-- A ranking is the list of the survivors and what the policy has done for it; no
check stops it. -/
theorem ofReads_eq : ofReads settings input sets reads =
    { list := proposedList settings input sets reads
      summary := ((outcome settings input sets reads).withExposure
        (proposedList settings input sets reads)).summary
      overrun := Diversity.overruns input.k (outcome settings input sets reads).survivors } := by
  have hleakCount : ¬0 < (outcome settings input sets reads).summary.constraintLeakCount := by
    rw [outcome, Policy.constraintLeakCount_outcome]
    exact Nat.lt_irrefl 0
  have hlength : ¬input.k < (proposedList settings input sets reads).length :=
    Nat.not_lt.2 (Diversity.length_list_le _ _ _ _)
  have hleaks := leaks_proposedList settings input sets reads
  have hdistinct := eraseDups_of_nodup (nodup_proposedList settings input sets reads)
  -- None of the three tests of the engine holds, so the last branch is left.
  rw [proposedList] at hlength hleaks hdistinct
  simp only [ofReads, conclude, if_neg hleakCount, hleaks, hdistinct, List.length_map, hlength,
    List.isEmpty_nil, Bool.not_true, Bool.false_eq_true, bne_self_eq_false, decide_false,
    Bool.or_self, if_false, proposedList]

/-- A candidate that is listed comes from one of the request that the policy lets through,
and has the marks of the rules. -/
theorem exists_candidate_of_mem_list {c : Candidate α}
    (hc : c ∈ (ofReads settings input sets reads).list) :
    ∃ c₀ ∈ candidates input reads.items (pinnedIds reads.rules input.seeds) sets,
      Policy.survives ⟨input.constraints, reads.recent, reads.rules, reads.items⟩
          (outcome settings input sets reads).effects c₀ = true ∧
        (outcome settings input sets reads).effects.attach c₀ = c := by
  rw [ofReads_eq] at hc
  exact Policy.mem_survivors_iff.1 ((proposedList_subperm settings input sets reads).subset hc)

/-- Nothing that is shown has a reason against it, the list is bounded and has no item
twice, and the engine has found nothing wrong. -/
structure Sound (ranked : Ranked α) (outcome : PolicyOutcome α) (k : Nat) : Prop where
  survivors : ∀ c ∈ outcome.survivors, outcome.dropReason? c.id = none
  list : ∀ c ∈ ranked.list, outcome.dropReason? c.id = none
  survivorLeaks : outcome.summary.constraintLeakCount = 0
  leaks : ranked.summary.constraintLeakCount = 0
  length : ranked.list.length ≤ k
  nodup : (ranked.list.map (·.id)).Nodup
  fault : ranked.fault = none

/-- Whatever is read, the ranking is sound. -/
theorem sound_ofReads :
    (ofReads settings input sets reads).Sound (outcome settings input sets reads) input.k := by
  have hsurvivors : ∀ c ∈ (outcome settings input sets reads).survivors,
      (outcome settings input sets reads).dropReason? c.id = none :=
    fun c hc => Policy.dropReason?_of_mem_survivors hc
  rw [ofReads_eq]
  exact
    { survivors := hsurvivors
      list := fun c hc => hsurvivors c ((proposedList_subperm settings input sets reads).subset hc)
      survivorLeaks := Policy.constraintLeakCount_outcome
      leaks := Policy.constraintLeakCount_outcome
      length := Diversity.length_list_le _ _ _ _
      nodup := nodup_proposedList settings input sets reads
      fault := rfl }

end Reads

end Ranked

/-! ### Alarms -/

def Failure.IsAlarm (f : Failure) : Prop :=
  ∃ detail, f = .broken .leak detail ∨ f = .broken .listBound detail

theorem Failure.not_isAlarm_ofStore (e : StoreError) : ¬(ofStore e).IsAlarm := by
  rintro ⟨detail, h | h⟩ <;> cases e <;> cases h

theorem Failure.not_isAlarm_of_status {f : Failure} (h : f.status = 400) : ¬f.IsAlarm := by
  rintro ⟨detail, rfl | rfl⟩ <;> cases h

/-- Wherever a request goes, and whatever its store does, no alarm is raised. -/
theorem Store.staysFor_unalarmed (store : Store σ) (ctx : Context) (scope : Scope)
    (user : Option String) : store.StaysFor .anywhere (fun f => ¬f.IsAlarm) ctx scope user := by
  have hread {β : Type} (read : Read σ β) :
      Stays .anywhere (fun err => ¬(Failure.ofStore err).IsAlarm) read :=
    ⟨fun _ _ => ⟨trivial, trivial⟩, fun _ _ err _ => Failure.not_isAlarm_ofStore err⟩
  exact
    { eventTypes := hread _
      topPopular := fun _ => hread _
      coVisitors := fun _ _ _ => hread _
      recentItems := fun _ _ _ _ _ => hread _
      tagProfile := fun _ _ _ _ => hread _
      itemsByIds := fun _ => hread _
      itemsWithAnyTag := fun _ _ => hread _
      rulesFor := fun _ => hread _
      recentEventItems := fun _ _ _ _ => hread _
      stop := fun _ _ _ _ _ => trivial
      canceled := by rintro _ - - ⟨_, h | h⟩ <;> cases h
      stray := by rintro _ _ _ _ - - _ - - _ ⟨_, h | h⟩ <;> cases h }

namespace Engine

variable (e : Engine σ) (ctx : Context)

theorem failsOnly_recommendSteps (r : RecommendRequest α) :
    FailsOnly (fun f => ¬f.IsAlarm) (e.recommendSteps ctx r) :=
  (stays_recommendSteps (e.store.staysFor_unalarmed _ _ _)
    fun _ hf => Failure.not_isAlarm_of_status (status_of_check hf)).failsOnly

theorem failsOnly_similarSteps (r : SimilarRequest) :
    FailsOnly (fun f => ¬f.IsAlarm) (e.similarSteps ctx r : Step σ (Served α)) := by
  refine (stays_similarSteps (e.store.staysFor_unalarmed _ _ _)
    (fun _ hf => Failure.not_isAlarm_of_status (status_of_checkSimilar hf)) ?_).failsOnly
  rintro _ _ _ - - - ⟨_, h | h⟩ <;> cases h

/-- The request has ended without an alarm and nothing that it reports has leaked; the
list that it answers is as long as asked for at most and has no item twice. -/
structure Unalarmed (k : Int) (served : Served α) : Prop where
  answer : ∀ f, served.answer = .error f → ¬f.IsAlarm
  observed : ∀ o, served.observed = some o → o.summary.constraintLeakCount = 0
  leaks : ∀ a, served.answer = .ok a → a.summary.constraintLeakCount = 0
  length : ∀ a, served.answer = .ok a → (a.items.length : Int) ≤ k
  nodup : ∀ a, served.answer = .ok a → (a.items.map (·.itemId)).Nodup

omit [Score α] in
theorem unalarmed_error {f : Failure} (h : ¬f.IsAlarm) (k : Int) :
    Unalarmed k ({ answer := .error f } : Served α) := by
  refine ⟨?_, nofun, nofun, nofun, nofun⟩
  rintro _ ⟨⟩
  exact h

omit [Score α] in
theorem unalarmed_finish {ranked : Ranked α} {outcome : PolicyOutcome α} {n : Nat} {k : Int}
    (h : ranked.Sound outcome n) (hk : (n : Int) ≤ k) (kind : ListKind) (weights : Weights α)
    (withReasons degraded : Bool) (space surface : String) :
    Unalarmed k (finish kind weights withReasons degraded space surface ranked) := by
  rw [finish, h.fault]
  refine ⟨?_, ?_, ?_, ?_, ?_⟩
  · rintro _ ⟨⟩
  · rintro _ ⟨⟩
    exact h.leaks
  · rintro _ ⟨⟩
    exact h.leaks
  · rintro _ ⟨⟩
    have hlength := h.length
    rw [List.length_map]
    omega
  · rintro _ ⟨⟩
    rw [List.map_map]
    exact h.nodup

variable {e ctx} {w w' : World σ}

theorem RecommendRun.unalarmed {r : RecommendRequest α} (run : RecommendRun e ctx r w w') :
    Unalarmed r.k run.served := by
  rw [served]
  exact unalarmed_finish (Ranked.sound_ofReads e.settings run.input _ _)
    (Int.le_of_eq (length_of_check run.passes)) _ _ _ _ _ _

theorem SimilarRun.unalarmed {r : SimilarRequest} (run : SimilarRun α e ctx r w w') :
    Unalarmed r.k run.served := by
  rw [served]
  exact unalarmed_finish (Ranked.sound_ofReads e.settings run.input _ _)
    (Int.le_of_eq (length_of_checkSimilar run.passes)) _ _ _ _ _ _

/-- The checks of the engine on its own work never fail: every ranking is sound,
whatever is read for it, and so no request ends with an alarm. -/
theorem self_checks_never_fail (e : Engine σ) (ctx : Context) (w : World σ) :
    (∀ (input : RankInput α) (sets : List (CandidateSet α)) (reads : Ranked.Reads),
        (Ranked.ofReads e.settings input sets reads).Sound
          (Ranked.outcome e.settings input sets reads) input.k) ∧
      (∀ r : RecommendRequest α, Unalarmed r.k (e.recommend ctx r w).1) ∧
      (∀ r : SimilarRequest, Unalarmed r.k (e.similar ctx r w : Served α × World σ).1) := by
  refine ⟨Ranked.sound_ofReads e.settings, fun r => ?_, fun r => ?_⟩
  · rcases e.recommend_cases ctx r w with ⟨w', run, hrun⟩ | ⟨f, w', hfails, hrun⟩
    · rw [hrun]
      dsimp only
      exact run.unalarmed
    · rw [hrun]
      exact unalarmed_error (e.failsOnly_recommendSteps ctx r w f w' hfails) _
  · rcases similar_cases α e ctx r w with ⟨w', run, hrun⟩ | ⟨f, w', hfails, hrun⟩
    · rw [hrun]
      dsimp only
      exact run.unalarmed
    · rw [hrun]
      exact unalarmed_error (e.failsOnly_similarSteps ctx r w f w' hfails) _

/-! ### Requests whose steps return -/

omit [Score α] in
/-- A ranking in which the engine has found nothing wrong is handed out. -/
theorem exists_answer_of_finish {ranked : Ranked α} (h : ranked.fault = none) (kind : ListKind)
    (weights : Weights α) (withReasons degraded : Bool) (space surface : String) :
    ∃ a, (finish kind weights withReasons degraded space surface ranked).answer = .ok a := by
  rw [finish, h]
  exact ⟨_, rfl⟩

theorem RecommendRun.exists_answer {r : RecommendRequest α} (run : RecommendRun e ctx r w w') :
    ∃ a, run.served.answer = .ok a :=
  exists_answer_of_finish (Ranked.sound_ofReads e.settings run.input _ _).fault _ _ _ _ _ _

theorem SimilarRun.exists_answer {r : SimilarRequest} (run : SimilarRun α e ctx r w w') :
    ∃ a, run.served.answer = .ok a :=
  exists_answer_of_finish (Ranked.sound_ofReads e.settings run.input _ _).fault _ _ _ _ _ _

theorem exists_run_of_answer {r : RecommendRequest α} {a : Answer α}
    (hok : (e.recommend ctx r w).1.answer = .ok a) :
    ∃ run : RecommendRun e ctx r w (e.recommend ctx r w).2,
      a.items = run.ranked.list.map (·.shown r.includeReasons) := by
  rcases e.recommend_cases ctx r w with ⟨w₁, run, hrun⟩ | ⟨f, w₁, -, hrun⟩
  · rw [hrun] at hok ⊢
    have hsound := Ranked.sound_ofReads e.settings run.input run.proposals.sets run.reads
    exact ⟨run, items_of_finish hsound.fault hok⟩
  · rw [hrun] at hok
    cases hok

theorem recommend_stays {region : Region σ} {P : Failure → Prop} {r : RecommendRequest α}
    (h : Stays region P (e.recommendSteps ctx r)) (hw : region.Has w) :
    region.Has (e.recommend ctx r w).2 ∧ ∀ f, (e.recommend ctx r w).1.answer = .error f → P f := by
  rw [recommend]
  refine serve_stays h hw fun served w' hreturns => ?_
  obtain ⟨run, hserved⟩ := returns_recommendSteps_iff.1 hreturns
  rw [hserved]
  exact run.exists_answer

theorem similar_stays {region : Region σ} {P : Failure → Prop} {r : SimilarRequest}
    (h : Stays region P (e.similarSteps ctx r : Step σ (Served α))) (hw : region.Has w) :
    region.Has (e.similar ctx r w : Served α × World σ).2 ∧
      ∀ f, (e.similar ctx r w : Served α × World σ).1.answer = .error f → P f := by
  rw [similar]
  refine serve_stays h hw fun served w' hreturns => ?_
  obtain ⟨run, hserved⟩ := returns_similarSteps_iff.1 hreturns
  rw [hserved]
  exact run.exists_answer

end Engine

end Recommendation
