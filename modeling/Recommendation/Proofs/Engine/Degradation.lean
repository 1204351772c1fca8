import Recommendation.Proofs.Engine.Checks
import Recommendation.Proofs.Engine.Proposals
import Recommendation.Proofs.Engine.Runs
import Recommendation.Proofs.Signals
import Recommendation.Store.Memory

/-!
What a request loses with signals that the store cannot answer. A set without proposals
is as good as none, so a request whose signals have failed in part goes on as if the
failed ones had proposed nothing, and differs from such a request only in that it says
so. `rescued` makes a signal without proposals out of a failed one.
-/

namespace Recommendation

variable {σ α : Type}

/-! ### Outages -/

/-- The store is out of reach and may be back: the read has taken too long, may go
through if it is tried again, or has been given up. -/
def StoreError.IsOutage : StoreError → Prop
  | .timeout _ | .transient _ | .unavailable _ _ _ => True
  | .permanent _ | .canceled => False

theorem StoreError.isUnavailable_iff_isOutage {err : StoreError} :
    err.isUnavailable = true ↔ err.IsOutage := by
  cases err <;> simp [isUnavailable, IsOutage]

theorem StoreError.isUnavailable_eq_false_iff {err : StoreError} :
    err.isUnavailable = false ↔ ¬err.IsOutage := by
  rw [← isUnavailable_iff_isOutage, Bool.not_eq_true]

theorem Failure.ofStore_of_isOutage {err : StoreError} (h : err.IsOutage) :
    ofStore err = .storeUnavailable err.message := by
  cases err with
  | timeout millis => rfl
  | transient detail => rfl
  | unavailable operation attempts last => rfl
  | permanent detail => exact h.elim
  | canceled => exact h.elim

/-! ### Sets of failed signals -/

namespace Proposals

open CandidateSet

/-- A signal that the store could not answer proposes nothing. -/
def rescued (signal : Signal) :
    Except StoreError (CandidateSet α) → Except StoreError (CandidateSet α)
  | .ok set => .ok set
  | .error (.permanent detail) => .error (.permanent detail)
  | .error .canceled => .error .canceled
  | .error _ => .ok (.empty signal)

theorem rescued_of_isOutage {signal : Signal} {err : StoreError} (h : err.IsOutage) :
    (rescued signal (.error err) : Except StoreError (CandidateSet α)) = .ok (.empty signal) := by
  cases err with
  | timeout millis => rfl
  | transient detail => rfl
  | unavailable operation attempts last => rfl
  | permanent detail => exact h.elim
  | canceled => exact h.elim

theorem rescued_of_not_isOutage {signal : Signal} {err : StoreError} (h : ¬err.IsOutage) :
    (rescued signal (.error err) : Except StoreError (CandidateSet α)) = .error err := by
  cases err with
  | timeout millis => exact absurd trivial h
  | transient detail => exact absurd trivial h
  | unavailable operation attempts last => exact absurd trivial h
  | permanent detail => rfl
  | canceled => rfl

abbrev SignalAnswer (α : Type) := Signal × Except StoreError (CandidateSet α)

def setsOf (answers : List (SignalAnswer α)) : List (CandidateSet α) :=
  (answers.map (·.2)).filterMap Except.toOption

theorem setsOf_cons_ok (signal : Signal) (set : CandidateSet α) (rest : List (SignalAnswer α)) :
    setsOf ((signal, .ok set) :: rest) = set :: setsOf rest := rfl

theorem setsOf_cons_error (signal : Signal) (err : StoreError) (rest : List (SignalAnswer α)) :
    setsOf ((signal, .error err) :: rest) = setsOf rest := rfl

/-- The answers are those of distinct signals, and each set is one of its signal. -/
structure Distinct (answers : List (SignalAnswer α)) : Prop where
  nodup : (answers.map (·.1)).Nodup
  own : ∀ a ∈ answers, ∀ set, a.2 = .ok set → set.signal = a.1

variable {answers : List (SignalAnswer α)}

theorem Distinct.tail {a : SignalAnswer α} (h : Distinct (a :: answers)) : Distinct answers :=
  ⟨(List.nodup_cons.1 h.nodup).2, fun b hb => h.own b (List.mem_cons_of_mem _ hb)⟩

theorem signal_mem_of_mem_setsOf (h : Distinct answers) {set : CandidateSet α}
    (hset : set ∈ setsOf answers) : set.signal ∈ answers.map (·.1) := by
  obtain ⟨a, ha, hok⟩ := List.mem_map.1 (mem_filterMap_toOption.1 hset)
  rw [h.own a ha set hok]
  exact List.mem_map_of_mem ha

theorem Distinct.haveDistinctSignals (h : Distinct answers) :
    HaveDistinctSignals (setsOf answers) := by
  induction answers with
  | nil => exact List.nodup_nil
  | cons a rest ih =>
      obtain ⟨signal, answer⟩ := a
      cases answer with
      | error err => exact ih h.tail
      | ok set =>
          have hsignal : set.signal = signal := h.own _ List.mem_cons_self set rfl
          refine List.nodup_cons.2 ⟨fun hmem => ?_, ih h.tail⟩
          obtain ⟨set', hset', heq⟩ := List.mem_map.1 hmem
          have hrest := signal_mem_of_mem_setsOf h.tail hset'
          exact (List.nodup_cons.1 h.nodup).1 (heq.trans hsignal ▸ hrest)

def rescueAll (answers : List (SignalAnswer α)) : List (SignalAnswer α) :=
  answers.map fun a => (a.1, rescued a.1 a.2)

theorem rescueAll_cons (a : SignalAnswer α) (rest : List (SignalAnswer α)) :
    rescueAll (a :: rest) = (a.1, rescued a.1 a.2) :: rescueAll rest := rfl

theorem Distinct.rescueAll (h : Distinct answers) : Distinct (rescueAll answers) := by
  constructor
  · rw [Proposals.rescueAll, List.map_map]
    exact h.nodup
  · intro a ha set hok
    obtain ⟨⟨signal, answer⟩, hmem, rfl⟩ := List.mem_map.1 ha
    dsimp only at hok ⊢
    cases answer with
    | ok set' =>
        cases hok
        exact h.own _ hmem set rfl
    | error err =>
        by_cases herr : err.IsOutage
        · rw [rescued_of_isOutage herr] at hok
          cases hok
          rfl
        · rw [rescued_of_not_isOutage herr] at hok
          cases hok

/-- The set of a signal is the same whether the failed signals are left out or propose
nothing. -/
theorem ofSignal_setsOf_rescueAll (h : Distinct answers) (signal : Signal) :
    ofSignal (setsOf (rescueAll answers)) signal = ofSignal (setsOf answers) signal := by
  induction answers with
  | nil => rfl
  | cons a rest ih =>
      obtain ⟨failed, answer⟩ := a
      rw [rescueAll_cons]
      cases answer with
      | ok set =>
          rw [rescued, setsOf_cons_ok, setsOf_cons_ok, ofSignal_cons, ofSignal_cons, ih h.tail]
      | error err =>
          by_cases herr : err.IsOutage
          · rw [rescued_of_isOutage herr, setsOf_cons_ok, setsOf_cons_error, ofSignal_cons,
              ih h.tail]
            split
            · rename_i hsignal
              -- No other set is one of the failed signal.
              have hnone : ∀ set ∈ setsOf rest, set.signal ≠ failed := by
                rintro set hset rfl
                exact (List.nodup_cons.1 h.nodup).1 (signal_mem_of_mem_setsOf h.tail hset)
              cases hsignal
              exact (ofSignal_eq_empty hnone).symm
            · rfl
          · rw [rescued_of_not_isOutage herr, setsOf_cons_error, setsOf_cons_error, ih h.tail]

/-- If signals have failed because the store was out of reach, the sets of the others are
blended. -/
theorem ofResults_of_outages (houtages : ∀ err, .error err ∈ answers.map (·.2) → err.IsOutage)
    (hfailed : ∃ err, .error err ∈ answers.map (·.2))
    (hanswered : ∃ set, .ok set ∈ answers.map (·.2)) :
    ofResults (answers.map (·.2)) = .ok ⟨setsOf answers, true⟩ := by
  have hskippable : Skippable (answers.map (·.2)) := fun err herr =>
    StoreError.isUnavailable_iff_isOutage.2 (houtages err herr)
  exact ofResults_eq_ok_iff.2
    ⟨hskippable, rfl, ⟨fun _ => hfailed, fun _ => rfl⟩, fun _ => hanswered⟩

theorem ofResults_rescueAll (houtages : ∀ err, .error err ∈ answers.map (·.2) → err.IsOutage) :
    ofResults ((rescueAll answers).map (·.2)) = .ok ⟨setsOf (rescueAll answers), false⟩ := by
  have hnone : ∀ err, .error err ∉ (rescueAll answers).map (·.2) := by
    intro err herr
    rw [rescueAll, List.map_map] at herr
    obtain ⟨⟨signal, answer⟩, hmem, heq⟩ := List.mem_map.1 herr
    cases answer with
    | ok set => cases heq
    | error err' =>
        have houtage := houtages err' (List.mem_map.2 ⟨_, hmem, rfl⟩)
        cases (rescued_of_isOutage houtage).symm.trans heq
  exact ofResults_eq_ok_iff.2 ⟨fun err herr => absurd herr (hnone err), rfl,
    ⟨nofun, fun ⟨err, herr⟩ => absurd herr (hnone err)⟩, nofun⟩

end Proposals

/-! ### Rankings of proposals -/

namespace Ranked

open CandidateSet

variable [Score α] {sets sets' : List (CandidateSet α)}

/-- A ranking sees nothing of several sets but the set of each signal. -/
theorem ofProposals_congr_sets (hdistinct : HaveDistinctSignals sets)
    (hdistinct' : HaveDistinctSignals sets')
    (h : ∀ signal, ofSignal sets signal = ofSignal sets' signal) (settings : Settings)
    (store : Store σ) (ctx : Context) (input : RankInput α) :
    ofProposals settings store ctx input sets = ofProposals settings store ctx input sets' := by
  have hunion : union sets = union sets' := union_congr hdistinct hdistinct' h
  have hids (rules : List Rule) : idsInQuestion input rules sets = idsInQuestion input rules sets' := by
    rw [idsInQuestion, idsInQuestion, hunion]
  have hcandidates (items : Dictionary Item) (pinned : List String) :
      candidates input items pinned sets = candidates input items pinned sets' := by
    have hwidened := ofSignal_widen_congr items hunion h
    have hunion' := union_congr (haveDistinctSignals_widen items hdistinct)
      (haveDistinctSignals_widen items hdistinct') hwidened
    rw [candidates, candidates, input.blend.candidates_congr input.weights hunion' hwidened]
  have hofReads (reads : Reads) :
      ofReads settings input sets reads = ofReads settings input sets' reads := by
    rw [ofReads, ofReads, outcome, outcome, hcandidates]
  simp only [ofProposals, read, hids, hofReads]

end Ranked

/-! ### Requests without failed signals -/

def Served.degrade (served : Served α) : Served α :=
  { served with answer := served.answer.map fun a => { a with degraded := true } }

namespace Engine

open CandidateSet

variable [Score α] {e : Engine σ} {ctx : Context} {r : RecommendRequest α} {w : World σ}

omit [Score α] in
theorem degrade_finish (kind : ListKind) (weights : Weights α) (withReasons : Bool)
    (space surface : String) (ranked : Ranked α) :
    (finish kind weights withReasons false space surface ranked).degrade =
      finish kind weights withReasons true space surface ranked := by
  rw [finish, finish]
  split <;> rfl

omit [Score α] in
theorem degraded_finish {kind : ListKind} {weights : Weights α} {withReasons degraded : Bool}
    {space surface : String} {ranked : Ranked α} {a : Answer α}
    (h : (finish kind weights withReasons degraded space surface ranked).answer = .ok a) :
    a.degraded = degraded := by
  rw [finish] at h
  split at h <;> cases h
  rfl

theorem exists_isPositive_of_resolve {blend : Blend α} {requested : Option (Weights α)}
    {weights : Weights α} (h : blend.resolve requested = .ok weights) :
    ∃ signal ∈ Signal.all, Score.isPositive (weights.get signal) = true := by
  have hvalid := Blend.validate_of_resolve h
  simp only [Weights.validate, Except.bind_eq_ok_iff] at hvalid
  obtain ⟨_, -, _, -, _, -, hsome⟩ := hvalid
  split at hsome
  · rename_i hany
    exact List.any_eq_true.1 hany
  · cases hsome

/-- The steps of a request for a user whose signals propose nothing where they would fail
because the store is out of reach. -/
def rescuedSteps (e : Engine σ) (ctx : Context) (r : RecommendRequest α) : Step σ (Served α) :=
  e.recommendStepsFrom ctx r fun checked types =>
    Proposals.collect (contextOf ctx r.asOf) ((e.activeSignals checked).map fun signal =>
      Proposals.rescued signal <$> e.askSignal (contextOf ctx r.asOf) checked types signal)

def recommendRescued (e : Engine σ) (ctx : Context) (r : RecommendRequest α) :
    Timed σ (Served α) :=
  serve (e.rescuedSteps ctx r)

structure Asked (e : Engine σ) (ctx : Context) (r : RecommendRequest α) (w : World σ) where
  checked : Checked α
  types : EventTypes
  worldOfTypes : World σ
  passes : e.check r = .ok checked
  readsTypes : Returns (e.store.eventTypes (contextOf ctx r.asOf)
    ⟨(contextOf ctx r.asOf).org, checked.space⟩) w types worldOfTypes

namespace Asked

variable (asked : Asked e ctx r w)

def ask : Signal → Timed σ (Except StoreError (CandidateSet α)) :=
  e.askSignal (contextOf ctx r.asOf) asked.checked asked.types

def results : List (Except StoreError (CandidateSet α)) :=
  (Timed.all ((e.activeSignals asked.checked).map asked.ask) asked.worldOfTypes).1

def world : World σ :=
  (Timed.all ((e.activeSignals asked.checked).map asked.ask) asked.worldOfTypes).2

def answers : List (Proposals.SignalAnswer α) :=
  (Timed.begun asked.ask (e.activeSignals asked.checked) asked.worldOfTypes).map fun b =>
    (b.1, (asked.ask b.1 b.2).1)

theorem map_snd_answers : asked.answers.map (·.2) = asked.results := by
  rw [answers, results, Timed.all_map, List.map_map]
  rfl

theorem map_fst_answers : asked.answers.map (·.1) = e.activeSignals asked.checked := by
  rw [answers, List.map_map]
  exact Timed.map_fst_begun _ _ _

theorem distinct_answers : Proposals.Distinct asked.answers := by
  constructor
  · rw [map_fst_answers, activeSignals]
    exact List.Nodup.filter _ (by decide)
  · intro a ha set hok
    obtain ⟨⟨signal, w₁⟩, -, rfl⟩ := List.mem_map.1 ha
    have hreturns : Returns (Proposals.ask e.settings e.store (contextOf ctx r.asOf)
        (signalInput (contextOf ctx r.asOf) asked.checked asked.types) signal) w₁ set
        (asked.ask signal w₁).2 := Prod.ext hok rfl
    exact Proposals.signal_of_returns_ask hreturns

/-- Rescued signals end in the world in which the signals would have ended. -/
theorem all_rescued : Timed.all ((e.activeSignals asked.checked).map fun signal =>
      Proposals.rescued signal <$> asked.ask signal) asked.worldOfTypes =
    ((Proposals.rescueAll asked.answers).map (·.2), asked.world) := by
  rw [Timed.all_map_map, Proposals.rescueAll, answers, List.map_map, List.map_map]
  rfl

end Asked

theorem activeSignals_ne_nil {checked : Checked α} (h : e.check r = .ok checked) :
    e.activeSignals checked ≠ [] := by
  obtain ⟨-, -, -, -, hweights, -⟩ := check_eq_ok_iff.1 h
  obtain ⟨signal, hsignal, hpositive⟩ := exists_isPositive_of_resolve hweights
  refine List.ne_nil_of_mem (List.mem_filter.2 ⟨hsignal, ?_⟩)
  cases signal with
  | popularity => exact hpositive
  | coVisitation => exact hpositive
  | profile => exact Bool.or_eq_true_iff.2 (.inl hpositive)

variable (asked : Asked e ctx r w)

theorem run_recommendSteps
    (h : (contextOf ctx r.asOf).isCanceledBy asked.world.clock = false) :
    (e.recommendSteps ctx r).run w =
      match Proposals.ofResults asked.results with
      | .error f => (.error f, asked.world)
      | .ok p => (e.rankProposals (contextOf ctx r.asOf) r asked.checked asked.types p).run
          asked.world :=
  run_recommendStepsFrom_collect asked.passes asked.readsTypes (fun checked types =>
    (e.activeSignals checked).map (e.askSignal (contextOf ctx r.asOf) checked types)) h

theorem run_rescuedSteps
    (h : (contextOf ctx r.asOf).isCanceledBy asked.world.clock = false) :
    (e.rescuedSteps ctx r).run w =
      match Proposals.ofResults ((Proposals.rescueAll asked.answers).map (·.2)) with
      | .error f => (.error f, asked.world)
      | .ok p => (e.rankProposals (contextOf ctx r.asOf) r asked.checked asked.types p).run
          asked.world := by
  have hall := asked.all_rescued
  rw [Asked.ask] at hall
  have hrun := run_recommendStepsFrom_collect asked.passes asked.readsTypes (fun checked types =>
    (e.activeSignals checked).map fun signal =>
      Proposals.rescued signal <$> e.askSignal (contextOf ctx r.asOf) checked types signal)
    (by rw [hall]; exact h)
  rw [hall] at hrun
  exact hrun

theorem run_rankProposals (ctx : Context) (r : RecommendRequest α) (checked : Checked α)
    (types : EventTypes) (p : Proposals α) (w : World σ) :
    (e.rankProposals ctx r checked types p).run w =
      match (Ranked.ofProposals e.settings e.store ctx (e.rankInput ctx r checked types)
        p.sets).run w with
      | (.ok ranked, w') => (.ok (finish (listKind checked.weights) checked.weights
          r.includeReasons p.degraded checked.space (surfaceOf r.surface) ranked), w')
      | (.error f, w') => (.error f, w') := by
  rw [rankProposals, run_bind]
  rcases (Ranked.ofProposals e.settings e.store ctx (e.rankInput ctx r checked types)
    p.sets).run w with ⟨_ | _, _⟩ <;> rfl

variable {asked}

/-- If some signals have failed, and only because the store was out of reach, the request
is served as if they had proposed nothing. -/
theorem recommend_of_outages
    (h : (contextOf ctx r.asOf).isCanceledBy asked.world.clock = false)
    (houtages : ∀ err, .error err ∈ asked.results → err.IsOutage)
    (hfailed : ∃ err, .error err ∈ asked.results) (hanswered : ∃ set, .ok set ∈ asked.results) :
    e.recommend ctx r w =
      ((e.recommendRescued ctx r w).1.degrade, (e.recommendRescued ctx r w).2) := by
  rw [← asked.map_snd_answers] at houtages hfailed hanswered
  have hresults := Proposals.ofResults_of_outages houtages hfailed hanswered
  rw [asked.map_snd_answers] at hresults
  have hrescued := Proposals.ofResults_rescueAll houtages
  have hranked := Ranked.ofProposals_congr_sets asked.distinct_answers.haveDistinctSignals
    asked.distinct_answers.rescueAll.haveDistinctSignals
    (fun signal => (Proposals.ofSignal_setsOf_rescueAll asked.distinct_answers signal).symm)
    e.settings e.store (contextOf ctx r.asOf)
    (e.rankInput (contextOf ctx r.asOf) r asked.checked asked.types)
  rw [recommend, recommendRescued, run_serve, run_serve, run_recommendSteps asked h,
    run_rescuedSteps asked h, hresults, hrescued]
  dsimp only
  rw [run_rankProposals, run_rankProposals, hranked]
  rcases (Ranked.ofProposals e.settings e.store (contextOf ctx r.asOf)
    (e.rankInput (contextOf ctx r.asOf) r asked.checked asked.types)
    (Proposals.setsOf (Proposals.rescueAll asked.answers))).run asked.world with
    ⟨f | ranked, w'⟩
  · rfl
  · dsimp only
    rw [degrade_finish]

theorem recommend_of_no_proposals {f : Failure}
    (h : (contextOf ctx r.asOf).isCanceledBy asked.world.clock = false)
    (hresults : Proposals.ofResults asked.results = .error f) :
    e.recommend ctx r w = ({ answer := .error f }, asked.world) := by
  rw [recommend, run_serve, run_recommendSteps asked h, hresults]

/-- A list comes from proposals, and says whether these lack a signal. -/
theorem exists_proposals_of_recommend {a : Answer α}
    (h : (contextOf ctx r.asOf).isCanceledBy asked.world.clock = false)
    (hok : (e.recommend ctx r w).1.answer = .ok a) :
    ∃ p, Proposals.ofResults asked.results = .ok p ∧ a.degraded = p.degraded := by
  cases hresults : Proposals.ofResults asked.results with
  | error f =>
      rw [recommend_of_no_proposals h hresults] at hok
      cases hok
  | ok p =>
      refine ⟨p, rfl, ?_⟩
      rw [recommend, run_serve, run_recommendSteps asked h, hresults] at hok
      dsimp only at hok
      rw [run_rankProposals] at hok
      generalize (Ranked.ofProposals e.settings e.store (contextOf ctx r.asOf)
        (e.rankInput (contextOf ctx r.asOf) r asked.checked asked.types) p.sets).run asked.world =
        ended at hok
      rcases ended with ⟨f | ranked, w'⟩
      · cases hok
      · exact degraded_finish hok

/-- What becomes of a request, not canceled meanwhile, whose signals have been asked. If
some have failed, all of them because the store was out of reach, and some have not, it
is served as if the failed ones had proposed nothing, but for the word that it is
degraded. If all have failed so, the first failure counts. Of other failures the first
one ends the request. A list is degraded only if a signal has failed. -/
theorem degraded_as_without_failed (asked : Asked e ctx r w)
    (h : (contextOf ctx r.asOf).isCanceledBy asked.world.clock = false) :
    ((∀ err, .error err ∈ asked.results → err.IsOutage) →
        (∃ err, .error err ∈ asked.results) → (∃ set, .ok set ∈ asked.results) →
          e.recommend ctx r w =
            ((e.recommendRescued ctx r w).1.degrade, (e.recommendRescued ctx r w).2)) ∧
      ((∀ result ∈ asked.results, ∃ err, result = .error err ∧ err.IsOutage) →
        ∃ first rest, asked.results = .error first :: rest ∧
          (e.recommend ctx r w).1.answer = .error (.storeUnavailable first.message)) ∧
      ((∃ err, .error err ∈ asked.results ∧ ¬err.IsOutage) →
        ∃ before first after, asked.results = before ++ .error first :: after ∧
          ¬first.IsOutage ∧ (∀ err, .error err ∈ before → err.IsOutage) ∧
            (e.recommend ctx r w).1.answer = .error (.ofStore first)) ∧
      ∀ a, (e.recommend ctx r w).1.answer = .ok a →
        (a.degraded = true ↔ ∃ err, .error err ∈ asked.results) := by
  refine ⟨fun houtages hfailed hanswered => recommend_of_outages h houtages hfailed hanswered,
    fun houtages => ?_, fun hfatal => ?_, fun a hok => ?_⟩
  · -- There is a first failure, since some signal has a say in every request that passes.
    have hnonempty : asked.results ≠ [] := by
      intro hnil
      have hanswers : asked.answers = [] := by
        rw [← List.map_eq_nil_iff (f := (·.2)), asked.map_snd_answers, hnil]
      refine activeSignals_ne_nil asked.passes ?_
      rw [← asked.map_fst_answers, hanswers]
      rfl
    obtain ⟨result, rest, hresults⟩ := List.exists_cons_of_ne_nil hnonempty
    obtain ⟨first, rfl, houtage⟩ := houtages result (hresults ▸ List.mem_cons_self)
    refine ⟨first, rest, hresults, ?_⟩
    have hnone : Proposals.ofResults asked.results = .error (.ofStore first) := by
      rw [hresults]
      refine Proposals.ofResults_of_unavailable fun result hmem => ?_
      obtain ⟨err, heq, herr⟩ := houtages result (hresults ▸ hmem)
      exact ⟨err, heq, StoreError.isUnavailable_iff_isOutage.2 herr⟩
    rw [recommend_of_no_proposals h hnone, Failure.ofStore_of_isOutage houtage]
  · obtain ⟨err, hmem, herr⟩ := hfatal
    have hnotSkippable : ¬Proposals.Skippable asked.results := by
      intro hskippable
      exact herr (StoreError.isUnavailable_iff_isOutage.1 (hskippable err hmem))
    obtain ⟨before, first, after, hresults, hfirst, hbefore⟩ :=
      Proposals.exists_first_fatal hnotSkippable
    have hnone : Proposals.ofResults asked.results = .error (.ofStore first) := by
      rw [hresults]
      exact Proposals.ofResults_of_fatal hbefore hfirst
    exact ⟨before, first, after, hresults, StoreError.isUnavailable_eq_false_iff.1 hfirst,
      fun err herr => StoreError.isUnavailable_iff_isOutage.1 (hbefore err herr),
      by rw [recommend_of_no_proposals h hnone]⟩
  · obtain ⟨p, hresults, hdegraded⟩ := exists_proposals_of_recommend h hok
    rw [hdegraded]
    exact (Proposals.ofResults_eq_ok_iff.1 hresults).2.2.1

def twoShoes : Snapshot :=
  { items := [{ id := "boot", tags := ["shoes"] }, { id := "clog", tags := ["shoes"] }]
    events := [{ userId := "ann", itemId := "boot", kind := 3, time := ⟨1000000, 0⟩ }] }

def slowEngine : Engine Unit :=
  { settings := { weights := ⟨1.0, 0.0, 0.1⟩ }
    store := { Store.memory [(⟨.none, "shop"⟩, twoShoes)] with
      topPopular := fun _ _ _ => do
        ExceptT.lift (Timed.sleep 500)
        throw (.timeout 500) } }

def shoesRequest : RecommendRequest Float := { userId := "ann", space := "shop", k := 2 }

def shoesContext : Context := { org := .none, now := ⟨1500000, 0⟩ }

def slowlyAsked : Asked slowEngine shoesContext shoesRequest ⟨0, ()⟩ where
  checked := ⟨Text.trim "ann", Text.trim "shop", 2, ⟨1.0, 0.0, 0.1⟩⟩
  types := twoShoes.types
  worldOfTypes := ⟨0, ()⟩
  passes := by
    have hvalid : (⟨1.0, 0.0, 0.1⟩ : Weights Float).validate = .ok () := by decide +kernel
    exact check_eq_ok_iff.2 ⟨by decide +kernel, by decide +kernel, by decide, rfl,
      congrArg (Except.map fun _ => _) hvalid, rfl⟩
  readsTypes := rfl

theorem degraded_as_without_failed_slowEngine :
    (contextOf shoesContext shoesRequest.asOf).isCanceledBy slowlyAsked.world.clock = false ∧
      (∃ err, .error err ∈ slowlyAsked.results) ∧ (∃ set, .ok set ∈ slowlyAsked.results) ∧
      slowEngine.recommend shoesContext shoesRequest ⟨0, ()⟩ =
        ((slowEngine.recommendRescued shoesContext shoesRequest ⟨0, ()⟩).1.degrade,
          (slowEngine.recommendRescued shoesContext shoesRequest ⟨0, ()⟩).2) := by
  have huncanceled :
      (contextOf shoesContext shoesRequest.asOf).isCanceledBy slowlyAsked.world.clock = false := by
    rfl
  have hfatal : slowlyAsked.results.findSome? Proposals.fatal? = none := by decide +kernel
  have hskipped : slowlyAsked.results.filterMap Proposals.skipped? = [.timeout 500] := by
    decide +kernel
  have hsets : (slowlyAsked.results.filterMap Except.toOption).length = 1 := by decide +kernel
  have hskippable := Proposals.findSome?_fatal?_eq_none_iff.1 hfatal
  have hfailed : ∃ err, .error err ∈ slowlyAsked.results := by
    by_contra hnone
    rw [(Proposals.filterMap_skipped?_eq_nil_iff hskippable).2 hnone] at hskipped
    cases hskipped
  have hanswered : ∃ set, .ok set ∈ slowlyAsked.results := by
    obtain ⟨set, hset⟩ := List.exists_mem_of_length_pos (hsets ▸ Nat.one_pos)
    exact ⟨set, Proposals.mem_filterMap_toOption.1 hset⟩
  exact ⟨huncanceled, hfailed, hanswered,
    (degraded_as_without_failed slowlyAsked huncanceled).1
      (fun err herr => StoreError.isUnavailable_iff_isOutage.1 (hskippable err herr))
      hfailed hanswered⟩

end Engine

end Recommendation
