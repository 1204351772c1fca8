import Recommendation.Proofs.SideBySide

/-!
What the answers of all signals come to. `Proposals.ofResults` is opened here once: a
failure that is not one of an unavailable store ends the request, the first of them in
the order of the signals; the others are left out if some signal has answered.
`Proposals.collect` is the wait for the answers by itself, and
`Engine.recommendStepsFrom` a request whose proposals come about in any way, so that
requests can be compared that differ in their proposals alone.
-/

namespace Recommendation

variable {σ α : Type}

namespace Proposals

variable {results : List (Except StoreError (CandidateSet α))}

/-! ### Answers and failures -/

theorem fatal?_eq_some_iff {result : Except StoreError (CandidateSet α)} {err : StoreError} :
    fatal? result = some err ↔ result = .error err ∧ err.isUnavailable = false := by
  cases result with
  | ok set => exact ⟨nofun, nofun⟩
  | error err' => grind [fatal?]

theorem skipped?_eq_some_iff {result : Except StoreError (CandidateSet α)} {err : StoreError} :
    skipped? result = some err ↔ result = .error err ∧ err.isUnavailable = true := by
  cases result with
  | ok set => exact ⟨nofun, nofun⟩
  | error err' => grind [skipped?]

def Skippable (results : List (Except StoreError (CandidateSet α))) : Prop :=
  ∀ err, .error err ∈ results → err.isUnavailable = true

theorem findSome?_fatal?_eq_none_iff : results.findSome? fatal? = none ↔ Skippable results := by
  rw [List.findSome?_eq_none_iff]
  constructor
  · intro h err hmem
    by_contra hfatal
    rw [Bool.not_eq_true] at hfatal
    cases (h _ hmem).symm.trans (fatal?_eq_some_iff.2 ⟨rfl, hfatal⟩)
  · intro h result hmem
    cases hresult : fatal? result with
    | none => rfl
    | some err =>
        obtain ⟨rfl, hfatal⟩ := fatal?_eq_some_iff.1 hresult
        rw [h err hmem] at hfatal
        cases hfatal

theorem exists_first_fatal (h : ¬Skippable results) :
    ∃ before err after, results = before ++ .error err :: after ∧ err.isUnavailable = false ∧
      Skippable before := by
  cases hfirst : results.findSome? fatal? with
  | none => exact absurd (findSome?_fatal?_eq_none_iff.1 hfirst) h
  | some err =>
      obtain ⟨before, result, after, rfl, hfatal, hbefore⟩ := List.findSome?_eq_some_iff.1 hfirst
      obtain ⟨rfl, herr⟩ := fatal?_eq_some_iff.1 hfatal
      exact ⟨before, err, after, rfl, herr,
        findSome?_fatal?_eq_none_iff.1 (List.findSome?_eq_none_iff.2 hbefore)⟩

theorem mem_filterMap_toOption {set : CandidateSet α} :
    set ∈ results.filterMap Except.toOption ↔ .ok set ∈ results := by
  rw [List.mem_filterMap]
  constructor
  · rintro ⟨result, hmem, hok⟩
    cases result with
    | error err => cases hok
    | ok set' =>
        cases hok
        exact hmem
  · exact fun hmem => ⟨_, hmem, rfl⟩

/-- The first failure that is not one of an unavailable store ends the request. -/
theorem ofResults_of_fatal {before after : List (Except StoreError (CandidateSet α))}
    {err : StoreError} (hbefore : Skippable before) (herr : err.isUnavailable = false) :
    ofResults (before ++ .error err :: after) = .error (.ofStore err) := by
  have hfirst : (before ++ .error err :: after).findSome? fatal? = some err := by
    rw [List.findSome?_append, findSome?_fatal?_eq_none_iff.2 hbefore, Option.none_or,
      List.findSome?_cons_of_isSome]
    · exact fatal?_eq_some_iff.2 ⟨rfl, herr⟩
    · rw [fatal?_eq_some_iff.2 ⟨rfl, herr⟩]
      rfl
  rw [ofResults, hfirst]
  rfl

/-- If only the store is unavailable, the first failure counts when no signal has
answered. -/
theorem ofResults_of_unavailable {err : StoreError}
    {rest : List (Except StoreError (CandidateSet α))}
    (h : ∀ result ∈ .error err :: rest, ∃ e, result = .error e ∧ e.isUnavailable = true) :
    ofResults (.error err :: rest) = .error (.ofStore err) := by
  have hskippable : Skippable (.error err :: rest) := by
    intro e hmem
    obtain ⟨e', heq, hunavailable⟩ := h _ hmem
    cases heq
    exact hunavailable
  have hsets : (.error err :: rest).filterMap Except.toOption = ([] : List (CandidateSet α)) := by
    rw [List.filterMap_eq_nil_iff]
    intro result hmem
    obtain ⟨e, rfl, -⟩ := h result hmem
    rfl
  have hfirst : skipped? (.error err : Except StoreError (CandidateSet α)) = some err :=
    skipped?_eq_some_iff.2 ⟨rfl, hskippable err List.mem_cons_self⟩
  rw [ofResults, findSome?_fatal?_eq_none_iff.2 hskippable]
  dsimp only
  rw [hsets, List.filterMap_cons_some hfirst]
  rfl

theorem filterMap_skipped?_eq_nil_iff (h : Skippable results) :
    results.filterMap skipped? = [] ↔ ¬∃ err, .error err ∈ results := by
  rw [List.filterMap_eq_nil_iff]
  constructor
  · rintro hnone ⟨err, hmem⟩
    cases (hnone _ hmem).symm.trans (skipped?_eq_some_iff.2 ⟨rfl, h err hmem⟩)
  · intro hnone result hmem
    cases hresult : skipped? result with
    | none => rfl
    | some err =>
        obtain ⟨rfl, -⟩ := skipped?_eq_some_iff.1 hresult
        exact absurd ⟨err, hmem⟩ hnone

/-- There are proposals if every failure can be left out, and some signal has answered
if there is one to leave out. -/
theorem ofResults_eq_ok_iff {p : Proposals α} : ofResults results = .ok p ↔
    Skippable results ∧ p.sets = results.filterMap Except.toOption ∧
      (p.degraded = true ↔ ∃ err, .error err ∈ results) ∧
      (p.degraded = true → ∃ set, .ok set ∈ results) := by
  obtain ⟨sets, degraded⟩ := p
  rw [ofResults]
  cases hfatal : results.findSome? fatal? with
  | some err =>
      refine ⟨nofun, fun h => ?_⟩
      cases hfatal.symm.trans (findSome?_fatal?_eq_none_iff.2 h.1)
  | none =>
      have hskippable := findSome?_fatal?_eq_none_iff.1 hfatal
      have hnil := filterMap_skipped?_eq_nil_iff hskippable
      dsimp only
      cases hskipped : results.filterMap skipped? with
      | nil =>
          have hnone := hnil.1 hskipped
          constructor
          · rintro ⟨⟩
            exact ⟨hskippable, rfl, ⟨nofun, fun h => absurd h hnone⟩, nofun⟩
          · rintro ⟨-, rfl, hdegraded, -⟩
            rw [Bool.eq_false_iff.2 fun h => hnone (hdegraded.1 h)]
            rfl
      | cons err rest =>
          have hsome : ∃ err, .error err ∈ results := by
            by_contra hnone
            rw [hnil.2 hnone] at hskipped
            cases hskipped
          have hempty : (results.filterMap Except.toOption).isEmpty = true ↔
              ¬∃ set, .ok set ∈ results := by
            simp only [List.isEmpty_iff, List.eq_nil_iff_forall_not_mem, mem_filterMap_toOption,
              not_exists]
          dsimp only
          split
          · rename_i hno
            refine ⟨nofun, fun h => ?_⟩
            exact absurd (h.2.2.2 (h.2.2.1.2 hsome)) (hempty.1 hno)
          · rename_i hsets
            constructor
            · rintro ⟨⟩
              exact ⟨hskippable, rfl, ⟨fun _ => hsome, fun _ => rfl⟩,
                fun _ => not_not.1 fun hno => hsets (hempty.2 hno)⟩
            · rintro ⟨-, rfl, hdegraded, -⟩
              rw [hdegraded.2 hsome]
              rfl

theorem exists_of_ofResults_eq_error {f : Failure} (h : ofResults results = .error f) :
    ∃ err, .error err ∈ results ∧ f = .ofStore err := by
  rw [ofResults] at h
  cases hfatal : results.findSome? fatal? with
  | some err =>
      rw [hfatal] at h
      cases h
      obtain ⟨result, hmem, hresult⟩ := List.exists_of_findSome?_eq_some hfatal
      obtain ⟨rfl, -⟩ := fatal?_eq_some_iff.1 hresult
      exact ⟨err, hmem, rfl⟩
  | none =>
      rw [hfatal] at h
      dsimp only at h
      cases hskipped : results.filterMap skipped? with
      | nil =>
          rw [hskipped] at h
          cases h
      | cons err rest =>
          rw [hskipped] at h
          dsimp only at h
          split at h
          · cases h
            have hfirst : err ∈ results.filterMap skipped? := hskipped ▸ List.mem_cons_self
            obtain ⟨result, hmem, hresult⟩ := List.mem_filterMap.1 hfirst
            obtain ⟨rfl, -⟩ := skipped?_eq_some_iff.1 hresult
            exact ⟨err, hmem, rfl⟩
          · cases h

/-! ### Waiting for the answers -/

def collect (ctx : Context) (asked : List (Timed σ (Except StoreError (CandidateSet α)))) :
    Step σ (Proposals α) := do
  match ← ExceptT.lift (Timed.unlessCanceled ctx (Timed.all asked)) with
  | none => throw .canceled
  | some results => ofResults results

theorem askAll_eq_collect [Score α] (settings : Settings) (store : Store σ) (ctx : Context)
    (input : SignalInput) (signals : List Signal) :
    (askAll settings store ctx input signals : Step σ (Proposals α)) =
      collect ctx (signals.map fun s => (ask settings store ctx input s).run) := rfl

variable {ctx : Context} {asked : List (Timed σ (Except StoreError (CandidateSet α)))}
  {w w' : World σ}

theorem run_collect (ctx : Context) (asked : List (Timed σ (Except StoreError (CandidateSet α))))
    (w : World σ) :
    (collect ctx asked).run w =
      match Timed.unlessCanceled ctx (Timed.all asked) w with
      | (none, w') => (.error .canceled, w')
      | (some results, w') => (ofResults results, w') := by
  have hlift : (ExceptT.lift (Timed.unlessCanceled ctx (Timed.all asked)) : Step σ _).run w =
      (.ok (Timed.unlessCanceled ctx (Timed.all asked) w).1,
        (Timed.unlessCanceled ctx (Timed.all asked) w).2) := rfl
  rw [collect, run_bind, hlift]
  rcases Timed.unlessCanceled ctx (Timed.all asked) w with ⟨_ | results, w'⟩ <;> rfl

theorem run_collect_of_uncanceled (h : ctx.isCanceledBy (Timed.all asked w).2.clock = false) :
    (collect ctx asked).run w = (ofResults (Timed.all asked w).1, (Timed.all asked w).2) := by
  have hbefore := Context.isCanceledBy_of_le (Timed.clock_le_all asked w) h
  rw [run_collect, Timed.unlessCanceled_of_uncanceled (Timed.all asked) hbefore h]

theorem run_collect_of_canceled (h : ctx.isCanceledBy (Timed.all asked w).2.clock = true) :
    ∃ w', (collect ctx asked).run w = (.error .canceled, w') := by
  obtain ⟨w', hrun⟩ := Timed.unlessCanceled_of_canceled (Timed.all asked) (.inr h)
  exact ⟨w', by rw [run_collect, hrun]⟩

/-- There are proposals if the request has not been canceled when all have answered. -/
theorem returns_collect_iff {p : Proposals α} : Returns (collect ctx asked) w p w' ↔
    ctx.isCanceledBy (Timed.all asked w).2.clock = false ∧
      ofResults (Timed.all asked w).1 = .ok p ∧ w' = (Timed.all asked w).2 := by
  rw [Returns]
  cases hcanceled : ctx.isCanceledBy (Timed.all asked w).2.clock with
  | true =>
      obtain ⟨w₁, hrun⟩ := run_collect_of_canceled hcanceled
      rw [hrun]
      constructor
      · rintro ⟨⟩
      · rintro ⟨⟨⟩, -⟩
  | false =>
      rw [run_collect_of_uncanceled hcanceled, Prod.mk.injEq]
      constructor
      · rintro ⟨hok, rfl⟩
        exact ⟨rfl, hok, rfl⟩
      · rintro ⟨-, hok, rfl⟩
        exact ⟨hok, rfl⟩

end Proposals

/-! ### Requests by their proposals -/

namespace Engine

variable [Score α]

def activeSignals (e : Engine σ) (checked : Checked α) : List Signal :=
  Signal.all.filter (Proposals.isActive e.blend checked.weights)

def askSignal (e : Engine σ) (ctx : Context) (checked : Checked α) (types : EventTypes)
    (signal : Signal) : Timed σ (Except StoreError (CandidateSet α)) :=
  (Proposals.ask e.settings e.store ctx (signalInput ctx checked types) signal).run

def rankProposals (e : Engine σ) (ctx : Context) (r : RecommendRequest α) (checked : Checked α)
    (types : EventTypes) (proposals : Proposals α) : Step σ (Served α) := do
  let ranked ← Ranked.ofProposals e.settings e.store ctx (e.rankInput ctx r checked types)
    proposals.sets
  return finish (listKind checked.weights) checked.weights r.includeReasons proposals.degraded
    checked.space (surfaceOf r.surface) ranked

/-- A request for a user whose proposals come about in a given way. -/
def recommendStepsFrom (e : Engine σ) (ctx : Context) (r : RecommendRequest α)
    (propose : Checked α → EventTypes → Step σ (Proposals α)) : Step σ (Served α) := do
  let checked ← e.check r
  let types ← (e.store.eventTypes (contextOf ctx r.asOf)
    ⟨(contextOf ctx r.asOf).org, checked.space⟩).step
  let proposals ← propose checked types
  e.rankProposals (contextOf ctx r.asOf) r checked types proposals

theorem recommendSteps_eq (e : Engine σ) (ctx : Context) (r : RecommendRequest α) :
    e.recommendSteps ctx r = e.recommendStepsFrom ctx r fun checked types =>
      Proposals.collect (contextOf ctx r.asOf)
        ((e.activeSignals checked).map (e.askSignal (contextOf ctx r.asOf) checked types)) := rfl

variable {e : Engine σ} {ctx : Context} {r : RecommendRequest α} {checked : Checked α}
  {types : EventTypes} {w w₁ : World σ}

theorem run_recommendStepsFrom (hcheck : e.check r = .ok checked)
    (htypes : Returns (e.store.eventTypes (contextOf ctx r.asOf)
      ⟨(contextOf ctx r.asOf).org, checked.space⟩) w types w₁)
    (propose : Checked α → EventTypes → Step σ (Proposals α)) :
    (e.recommendStepsFrom ctx r propose).run w =
      match (propose checked types).run w₁ with
      | (.ok p, w₂) => (e.rankProposals (contextOf ctx r.asOf) r checked types p).run w₂
      | (.error f, w₂) => (.error f, w₂) := by
  have hpass : (liftM (e.check r) : Step σ (Checked α)).run w = (.ok checked, w) := by
    rw [hcheck]
    rfl
  have hread := returns_step_iff.2 htypes
  rw [recommendStepsFrom, run_bind, hpass]
  dsimp only
  rw [run_bind, hread]
  dsimp only
  rw [run_bind]
  rcases (propose checked types).run w₁ with ⟨_ | _, _⟩ <;> rfl

/-- If the request is not canceled while its signals answer, it goes on with what the
answers come to. -/
theorem run_recommendStepsFrom_collect (hcheck : e.check r = .ok checked)
    (htypes : Returns (e.store.eventTypes (contextOf ctx r.asOf)
      ⟨(contextOf ctx r.asOf).org, checked.space⟩) w types w₁)
    (asked : Checked α → EventTypes → List (Timed σ (Except StoreError (CandidateSet α))))
    (h : (contextOf ctx r.asOf).isCanceledBy (Timed.all (asked checked types) w₁).2.clock =
      false) :
    (e.recommendStepsFrom ctx r fun checked types =>
        Proposals.collect (contextOf ctx r.asOf) (asked checked types)).run w =
      match Proposals.ofResults (Timed.all (asked checked types) w₁).1 with
      | .error f => (.error f, (Timed.all (asked checked types) w₁).2)
      | .ok p => (e.rankProposals (contextOf ctx r.asOf) r checked types p).run
          (Timed.all (asked checked types) w₁).2 := by
  rw [run_recommendStepsFrom hcheck htypes, Proposals.run_collect_of_uncanceled h]
  cases Proposals.ofResults (Timed.all (asked checked types) w₁).1 <;> rfl

end Engine

end Recommendation
