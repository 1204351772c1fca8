import Recommendation.Proofs.Evaluation.Tallies
import Recommendation.Proofs.Results
import Recommendation.Proofs.SideBySide

/-!
Candidates are judged one after another, each on all samples, and nothing but the clock
and the backend goes from one to the next. So if calls are a function of the requests,
the marks of a candidate are a function of its own weights: `ComesTo` follows a
computation to its result without the worlds that it goes through, and leaves open only
whether a cancellation has come first.
-/

namespace Recommendation

variable {σ α β : Type}

/-! ### Results of computations that may be canceled -/

/-- However long it takes, the computation ends with the result, unless the request has been
canceled by then. -/
structure ComesTo (ctx : Context) (m : Step σ α) (result : Except Failure α) : Prop where
  forward : ∀ w, w.clock ≤ (m.run w).2.clock
  ends : ∀ w, (m.run w).1 = result ∨
    (m.run w).1 = .error .canceled ∧ ctx.isCanceledBy (m.run w).2.clock = true

section Results

variable {ctx : Context}

theorem comesTo_pure (a : α) : ComesTo ctx (pure a : Step σ α) (.ok a) :=
  ⟨fun _ => Nat.le_refl _, fun _ => .inl rfl⟩

theorem ComesTo.bind {m : Step σ α} {x : Except Failure α} {f : α → Step σ β}
    {g : α → Except Failure β} (hm : ComesTo ctx m x) (hf : ∀ a, ComesTo ctx (f a) (g a)) :
    ComesTo ctx (m >>= f) (x >>= g) := by
  constructor
  · intro w
    have hforward := hm.forward w
    rw [run_bind]
    rcases hrun : m.run w with ⟨e | a, w₁⟩
    · rw [hrun] at hforward
      exact hforward
    · rw [hrun] at hforward
      exact Nat.le_trans hforward ((hf a).forward w₁)
  · intro w
    have hends := hm.ends w
    rw [run_bind]
    rcases hrun : m.run w with ⟨e | a, w₁⟩
    · rw [hrun] at hends
      rcases hends with hresult | hcanceled
      · rw [← hresult]
        exact .inl rfl
      · obtain ⟨hfailure, hcanceled⟩ := hcanceled
        cases hfailure
        exact .inr ⟨rfl, hcanceled⟩
    · rw [hrun] at hends
      rcases hends with hresult | ⟨hfailure, -⟩
      · rw [← hresult]
        exact (hf a).ends w₁
      · cases hfailure

theorem ComesTo.mapM {f : α → Step σ β} {g : α → Except Failure β}
    (h : ∀ a, ComesTo ctx (f a) (g a)) (xs : List α) : ComesTo ctx (xs.mapM f) (xs.mapM g) := by
  induction xs with
  | nil =>
      rw [List.mapM_nil, List.mapM_nil]
      exact comesTo_pure []
  | cons x rest ih =>
      rw [List.mapM_cons, List.mapM_cons]
      exact (h x).bind fun b => ih.bind fun bs => comesTo_pure _

end Results

namespace Evaluation

variable {recommend : Recommender σ} {ctx : Context} {options : EvaluationOptions}
  {samples : List HoldoutSample} {lists : RecommendRequest Float → Except Failure (List String)}

/-- The recommender is a function of requests. Whatever time it takes and whatever it does to
its backend, a request gets the same answer. -/
structure Answers (recommend : Recommender σ) (ctx : Context)
    (lists : RecommendRequest Float → Except Failure (List String)) : Prop where
  answer : ∀ r w, (recommend ctx r w).1 = lists r
  forward : ∀ r w, w.clock ≤ (recommend ctx r w).2.clock

def callsFor (lists : RecommendRequest Float → Except Failure (List String))
    (options : EvaluationOptions) (c : BlendCandidate) (s : HoldoutSample) :
    Except Failure (List String) :=
  lists (requestFor options c s)

def judged (call : Except Failure (List String)) (s : HoldoutSample) : Except Failure Outcome :=
  match call with
  | .error .canceled => .error .canceled
  | _ => .ok (s.itemId, call.toOption)

theorem judged_of_ne {call : Except Failure (List String)} (h : call ≠ .error .canceled)
    (s : HoldoutSample) : judged call s = .ok (s.itemId, call.toOption) := by
  rw [judged]
  exact h

theorem run_judgeSample (recommend : Recommender σ) (ctx : Context) (options : EvaluationOptions)
    (c : BlendCandidate) (s : HoldoutSample) (w : World σ) :
    (judgeSample recommend ctx options c s).run w =
      if ctx.isCanceledBy w.clock then (.error .canceled, w)
      else (judged (recommend ctx (requestFor options c s) w).1 s,
        (recommend ctx (requestFor options c s) w).2) := by
  have hclock : (ExceptT.lift Timed.clock : Step σ Nat).run w = (.ok w.clock, w) := rfl
  have hcall : (ExceptT.lift (recommend ctx (requestFor options c s)) : Step σ _).run w =
      (.ok (recommend ctx (requestFor options c s) w).1,
        (recommend ctx (requestFor options c s) w).2) := rfl
  rw [judgeSample, run_bind, hclock]
  dsimp only
  cases ctx.isCanceledBy w.clock with
  | true => rfl
  | false =>
      simp only [Bool.false_eq_true, if_false, judged]
      rw [run_bind, hcall]
      dsimp only
      cases (recommend ctx (requestFor options c s) w).1 with
      | ok list => rfl
      | error f => cases f <;> rfl

theorem comesTo_judgeSample (h : Answers recommend ctx lists) (c : BlendCandidate)
    (s : HoldoutSample) : ComesTo ctx (judgeSample recommend ctx options c s)
      (judged (callsFor lists options c s) s) := by
  constructor
  · intro w
    rw [run_judgeSample]
    split
    · exact Nat.le_refl _
    · exact h.forward _ w
  · intro w
    rw [run_judgeSample, h.answer]
    split
    · rename_i hcanceled
      exact .inr ⟨rfl, hcanceled⟩
    · exact .inl rfl

/-! ### Candidates one after another -/

theorem forM_validate {cs : List BlendCandidate} (h : ∀ c ∈ cs, c.validate = .ok ()) :
    (cs.forM fun c => liftM c.validate : Step σ Unit) = pure () := by
  induction cs with
  | nil => rfl
  | cons c rest ih =>
      have hrest := ih fun c' hc' => h c' (List.mem_cons_of_mem _ hc')
      rw [List.forM_eq_forM] at hrest ⊢
      rw [List.forM_cons, h c List.mem_cons_self, hrest]
      rfl

theorem completed?_eq_some {k : Nat} {es : List Evaluation} (h : ∀ e ∈ es, e.total * k < 2 ^ 64) :
    completed? k es = some es := by
  have hcounted : (es.any fun e => overruns k e.total) = false :=
    List.any_eq_false.2 fun e he => by simpa [overruns] using h e he
  rw [completed?, hcounted]
  rfl

/-- An evaluation with places that can be counted comes to all its candidates. -/
theorem reached_of_lt (hbound : samples.length * options.k.toNat < 2 ^ 64)
    (cs : List BlendCandidate) : reached options samples cs = cs := by
  have hcounted : overruns options.k.toNat samples.length = false :=
    decide_eq_false (Nat.not_le.2 hbound)
  rw [reached, hcounted]
  rfl

theorem evaluate_of_valid (hk : 1 ≤ options.k)
    (hbound : samples.length * options.k.toNat < 2 ^ 64) {cs : List BlendCandidate}
    (h : ∀ c ∈ cs, c.validate = .ok ()) :
    evaluate recommend ctx options cs samples = cs.mapM (judge recommend ctx options samples) := by
  have hpos : ¬options.k ≤ 0 := by omega
  rw [evaluate, if_neg hpos, forM_validate h, reached_of_lt hbound]
  rfl

/-- What follows candidates does not know of them. -/
theorem evaluate_append (hk : 1 ≤ options.k)
    (hbound : samples.length * options.k.toNat < 2 ^ 64) {cs ds : List BlendCandidate}
    (h : ∀ c ∈ cs ++ ds, c.validate = .ok ()) :
    evaluate recommend ctx options (cs ++ ds) samples = do
      let es ← evaluate recommend ctx options cs samples
      let fs ← evaluate recommend ctx options ds samples
      return es ++ fs := by
  rw [evaluate_of_valid hk hbound h,
    evaluate_of_valid hk hbound fun c hc => h c (List.mem_append_left _ hc),
    evaluate_of_valid hk hbound fun c hc => h c (List.mem_append_right _ hc), List.mapM_append]

/-- The marks of a candidate, if none of its calls is canceled. -/
def marksFor (lists : RecommendRequest Float → Except Failure (List String))
    (options : EvaluationOptions) (samples : List HoldoutSample) (c : BlendCandidate) :
    Evaluation :=
  ofOutcomes c.name options.k.toNat (samples.map (outcome (callsFor lists options c)))

def verdict (lists : RecommendRequest Float → Except Failure (List String))
    (options : EvaluationOptions) (samples : List HoldoutSample) (c : BlendCandidate) :
    Except Failure Evaluation :=
  samples.mapM (fun s => judged (callsFor lists options c s) s) >>= fun outcomes =>
    .ok (ofOutcomes c.name options.k.toNat outcomes)

theorem verdict_of_uncanceled {c : BlendCandidate}
    (h : ∀ s ∈ samples, callsFor lists options c s ≠ .error .canceled) :
    verdict lists options samples c = .ok (marksFor lists options samples c) := by
  rw [verdict, Except.mapM_eq_ok fun s hs => judged_of_ne (h s hs) s]
  rfl

theorem verdict_of_canceled {c : BlendCandidate}
    (h : ∃ s ∈ samples, callsFor lists options c s = .error .canceled) :
    verdict lists options samples c = .error .canceled := by
  obtain ⟨s, hs, hcanceled⟩ := h
  have hjudged (s : HoldoutSample) : (∃ o, judged (callsFor lists options c s) s = .ok o) ∨
      judged (callsFor lists options c s) s = .error .canceled := by
    by_cases hcall : callsFor lists options c s = .error .canceled
    · rw [hcall]
      exact .inr rfl
    · exact .inl ⟨_, judged_of_ne hcall s⟩
  have hfails : judged (callsFor lists options c s) s = .error .canceled := by
    rw [hcanceled]
    rfl
  rw [verdict, Except.mapM_eq_error (fun s _ => hjudged s) ⟨s, hs, hfails⟩]
  rfl

theorem comesTo_judge (h : Answers recommend ctx lists) (c : BlendCandidate) :
    ComesTo ctx (judge recommend ctx options samples c) (verdict lists options samples c) :=
  (ComesTo.mapM (comesTo_judgeSample h c) samples).bind fun _ => comesTo_pure _

theorem comesTo_evaluate (h : Answers recommend ctx lists) (hk : 1 ≤ options.k)
    (hbound : samples.length * options.k.toNat < 2 ^ 64) {cs : List BlendCandidate}
    (hvalid : ∀ c ∈ cs, c.validate = .ok ()) :
    ComesTo ctx (evaluate recommend ctx options cs samples)
      (cs.mapM (verdict lists options samples)) := by
  rw [evaluate_of_valid hk hbound hvalid]
  exact ComesTo.mapM (comesTo_judge h) cs

theorem mapM_verdict_of_canceled {cs : List BlendCandidate}
    (h : ∃ c ∈ cs, ∃ s ∈ samples, callsFor lists options c s = .error .canceled) :
    cs.mapM (verdict lists options samples) = .error .canceled := by
  obtain ⟨c, hc, hcanceled⟩ := h
  refine Except.mapM_eq_error (fun c _ => ?_) ⟨c, hc, verdict_of_canceled hcanceled⟩
  by_cases hcalls : ∃ s ∈ samples, callsFor lists options c s = .error .canceled
  · exact .inr (verdict_of_canceled hcalls)
  · exact .inl ⟨_, verdict_of_uncanceled fun s hs hcall => hcalls ⟨s, hs, hcall⟩⟩

/-- The marks are exact, and each candidate is marked for itself. If the recommender is a
function of requests, there is one way to mark a candidate by the calls that are made for
it, whatever other candidates there are: valid candidates get these marks, in their
order, unless the evaluation is canceled, and a single call that ends as canceled leaves
no marks at all. Candidates that follow others are judged as if they stood alone. With
places that can be counted nothing breaks down. -/
theorem marks_exact (recommend : Recommender σ) (ctx : Context) (options : EvaluationOptions)
    (samples : List HoldoutSample) (hk : 1 ≤ options.k)
    (hbound : samples.length * options.k.toNat < 2 ^ 64) :
    (∀ cs ds : List BlendCandidate, (∀ c ∈ cs ++ ds, c.validate = .ok ()) →
        evaluate recommend ctx options (cs ++ ds) samples = do
          let es ← evaluate recommend ctx options cs samples
          let fs ← evaluate recommend ctx options ds samples
          return es ++ fs) ∧
      ∀ lists : RecommendRequest Float → Except Failure (List String),
        Answers recommend ctx lists → ∃ mark : BlendCandidate → Evaluation,
          (∀ c, Marks (fun s => lists (requestFor options c s)) samples options.k.toNat c.name
              (mark c) ∧ (mark c).hits + (mark c).failures ≤ (mark c).total) ∧
            (∀ cs : List BlendCandidate,
              completed? options.k.toNat (cs.map mark) = some (cs.map mark)) ∧
            ∀ cs : List BlendCandidate, (∀ c ∈ cs, c.validate = .ok ()) → ∀ w : World σ,
              ((∃ c ∈ cs, ∃ s ∈ samples, lists (requestFor options c s) = .error .canceled) →
                  ((evaluate recommend ctx options cs samples).run w).1 = .error .canceled) ∧
                ((∀ c ∈ cs, ∀ s ∈ samples, lists (requestFor options c s) ≠ .error .canceled) →
                  ctx.isCanceledBy ((evaluate recommend ctx options cs samples).run w).2.clock =
                      false →
                    ((evaluate recommend ctx options cs samples).run w).1 = .ok (cs.map mark)) := by
  have hlength : 1 ≤ options.k.toNat := by omega
  refine ⟨fun cs ds => evaluate_append hk hbound, fun lists hanswers =>
    ⟨marksFor lists options samples, fun c => ?_, fun cs => ?_, fun cs hvalid w => ?_⟩⟩
  · have hmarks : Marks (callsFor lists options c) samples options.k.toNat c.name
        (marksFor lists options samples c) := marks_ofOutcomes hlength hbound c.name
    exact ⟨hmarks, hmarks.hits_add_failures_le⟩
  · refine completed?_eq_some fun e he => ?_
    obtain ⟨c, -, rfl⟩ := List.mem_map.1 he
    rwa [marksFor, (marks_ofOutcomes hlength hbound c.name).total]
  · have hcomes : ComesTo ctx (evaluate recommend ctx options cs samples)
        (cs.mapM (verdict lists options samples)) := comesTo_evaluate hanswers hk hbound hvalid
    have hends := hcomes.ends w
    refine ⟨fun hcanceled => ?_, fun hcalls hwanted => ?_⟩
    · rw [mapM_verdict_of_canceled hcanceled] at hends
      exact hends.elim id And.left
    · rw [Except.mapM_eq_ok fun c hc => verdict_of_uncanceled (hcalls c hc)] at hends
      refine hends.resolve_right fun hcanceled => ?_
      cases hcanceled.2.symm.trans hwanted

/-- Lists by script: one that has the item held back in front, one that has it at its end, and
none for anybody else. -/
def scripted (r : RecommendRequest Float) : Except Failure (List String) :=
  if r.userId = "ann" then .ok ["boot", "cap", "clog"]
  else if r.userId = "bob" then .ok ["cap", "clog", "shoe"]
  else .error (.storeUnavailable "down")

theorem scripted_ne_canceled (r : RecommendRequest Float) : scripted r ≠ .error .canceled := by
  rw [scripted]
  split
  · nofun
  · split <;> nofun

def script : Recommender Unit := fun _ r => do
  Timed.sleep 1
  return scripted r

def scriptContext : Context := { org := .none, now := ⟨2000, 0⟩, deadline := some 10 }

def scriptSamples : List HoldoutSample :=
  [⟨"ann", "boot", ⟨1000, 0⟩, 5⟩, ⟨"bob", "shoe", ⟨900, 0⟩, 5⟩, ⟨"eve", "boot", ⟨800, 0⟩, 5⟩]

def evenBlend : BlendCandidate := ⟨"even", ⟨1.0, 1.0, 1.0⟩⟩

theorem marks_exact_script :
    1 ≤ ({ space := "shop", k := 3 } : EvaluationOptions).k ∧ scriptSamples.length * 3 < 2 ^ 64 ∧
      ∃ e, ((evaluate script scriptContext { space := "shop", k := 3 } [evenBlend, evenBlend]
          scriptSamples).run ⟨0, ()⟩).1 = .ok [e, e] ∧
        e.total = 3 ∧ e.hits = 2 ∧ e.failures = 1 ∧ e.averageRank = quotient (Score.ofNat 4) 2 ∧
        e.coverage = quotient (Score.ofNat 4) 9 := by
  have hk : 1 ≤ ({ space := "shop", k := 3 } : EvaluationOptions).k := by decide
  have hbound : scriptSamples.length * 3 < 2 ^ 64 := by decide
  have hvalid : ∀ c ∈ [evenBlend, evenBlend], c.validate = .ok () := by decide +kernel
  have hanswers : Answers script scriptContext scripted :=
    ⟨fun _ _ => rfl, fun _ w => Nat.le_succ w.clock⟩
  obtain ⟨mark, hmarks, -, hevaluate⟩ :=
    (marks_exact script scriptContext { space := "shop", k := 3 } scriptSamples hk hbound).2
      scripted hanswers
  obtain ⟨hmark, -⟩ := hmarks evenBlend
  have hcalls : ∀ c ∈ [evenBlend, evenBlend], ∀ s ∈ scriptSamples,
      scripted (requestFor { space := "shop", k := 3 } c s) ≠ .error .canceled :=
    fun _ _ _ _ => scripted_ne_canceled _
  have hwanted : scriptContext.isCanceledBy ((evaluate script scriptContext
      { space := "shop", k := 3 } [evenBlend, evenBlend] scriptSamples).run ⟨0, ()⟩).2.clock =
        false := by decide +kernel
  refine ⟨hk, hbound, mark evenBlend, (hevaluate _ hvalid ⟨0, ()⟩).2 hcalls hwanted, hmark.total,
    hmark.hits, hmark.failures, ?_, ?_⟩
  · rw [hmark.averageRank, hmark.hits]
    rfl
  · rw [hmark.coverage, hmark.total]
    rfl

end Evaluation

end Recommendation
