import Recommendation.Proofs.Doubles.Sizes
import Recommendation.Proofs.Evaluation.Marks

/-!
How much of the catalog lists cover. Coverage divides the number of distinct items by the
number of places in all lists, which is counted in 64 bits. It is the share that it stands for
as long as those places can be counted; once they cannot, the evaluation breaks down.
-/

namespace Recommendation

open Doubles

variable {σ : Type}

/-! ### Runs that end with marks -/

/-- A computation over a list returns what it returns for each element, in some world. -/
theorem forall₂_of_returns_mapM {ε α β : Type} {f : α → ExceptT ε (StateM (World σ)) β}
    {xs : List α} {ys : List β} {w w' : World σ} (h : Returns (xs.mapM f) w ys w') :
    List.Forall₂ (fun x y => ∃ w₁ w₂, Returns (f x) w₁ y w₂) xs ys := by
  induction xs generalizing ys w w' with
  | nil =>
      rw [List.mapM_nil, returns_pure_iff] at h
      rw [h.1]
      exact .nil
  | cons x rest ih =>
      rw [List.mapM_cons, returns_bind_iff] at h
      obtain ⟨y, w₁, hy, hrest⟩ := h
      obtain ⟨zs, w₂, hzs, hend⟩ := returns_bind_iff.1 hrest
      obtain ⟨rfl, -⟩ := returns_pure_iff.1 hend
      exact .cons ⟨w, w₁, hy⟩ (ih hzs)

namespace Evaluation

/-- Outcomes of one call for each sample, in whatever worlds the calls are made. -/
def Called (recommend : Recommender σ) (ctx : Context) (options : EvaluationOptions)
    (c : BlendCandidate) (samples : List HoldoutSample) (outcomes : List Outcome) : Prop :=
  List.Forall₂ (fun s o => ∃ w : World σ,
    o = (s.itemId, (recommend ctx (requestFor options c s) w).1.toOption)) samples outcomes

variable {recommend : Recommender σ} {ctx : Context} {options : EvaluationOptions}
  {samples : List HoldoutSample} {candidates : List BlendCandidate}

theorem eq_of_returns_judgeSample {c : BlendCandidate} {s : HoldoutSample} {o : Outcome}
    {w w' : World σ} (h : Returns (judgeSample recommend ctx options c s) w o w') :
    o = (s.itemId, (recommend ctx (requestFor options c s) w).1.toOption) := by
  rw [Returns, run_judgeSample] at h
  split at h
  · cases h
  · have hjudged := congrArg Prod.fst h
    by_cases hcall : (recommend ctx (requestFor options c s) w).1 = .error .canceled
    · rw [hcall] at hjudged
      cases hjudged
    · exact (Except.ok.inj ((judged_of_ne hcall s).symm.trans hjudged)).symm

theorem called_of_returns_evaluate {es : List Evaluation} {w w' : World σ}
    (h : Returns (evaluate recommend ctx options candidates samples) w es w') :
    1 ≤ options.k ∧ List.Forall₂ (fun c e => ∃ outcomes,
      Called recommend ctx options c samples outcomes ∧
        e = ofOutcomes c.name options.k.toNat outcomes) (reached options samples candidates) es := by
  rw [evaluate] at h
  split at h
  · cases h
  · rename_i hk
    obtain ⟨-, w₁, -, hmarks⟩ := returns_bind_iff.1 h
    refine ⟨by omega, (forall₂_of_returns_mapM hmarks).imp fun c e hjudge => ?_⟩
    obtain ⟨w₂, w₃, hjudge⟩ := hjudge
    rw [judge] at hjudge
    obtain ⟨outcomes, w₄, hcalls, hend⟩ := returns_bind_iff.1 hjudge
    refine ⟨outcomes, (forall₂_of_returns_mapM hcalls).imp fun s o hcall => ?_,
      (returns_pure_iff.1 hend).1⟩
    obtain ⟨w₅, w₆, hcall⟩ := hcall
    exact ⟨w₅, eq_of_returns_judgeSample hcall⟩

/-! ### Evaluations that break down -/

theorem reached_nil : reached options samples [] = [] := by
  rw [reached]
  split <;> rfl

theorem reached_eq_nil_iff (options : EvaluationOptions) (samples : List HoldoutSample) :
    reached options samples candidates = [] ↔ candidates = [] := by
  rw [reached]
  split
  · simp
  · rfl

theorem eq_of_completed? {k : Nat} {es marks : List Evaluation}
    (h : completed? k es = some marks) : marks = es := by
  rw [completed?, Option.ite_none_left_eq_some] at h
  exact (Option.some_inj.1 h.2).symm

theorem total_of_returns_evaluate {es : List Evaluation} {w w' : World σ}
    (h : Returns (evaluate recommend ctx options candidates samples) w es w') :
    ∀ e ∈ es, e.total = samples.length := by
  obtain ⟨-, hcalls⟩ := called_of_returns_evaluate h
  clear h
  generalize reached options samples candidates = cs at hcalls
  induction hcalls with
  | nil => exact List.forall_mem_nil _
  | cons hcall _ ih =>
      obtain ⟨outcomes, hcalled, rfl⟩ := hcall
      exact List.forall_mem_cons.2 ⟨hcalled.length_eq.symm, ih⟩

/-- An evaluation that has come to marks breaks down if and only if it has come to a candidate and
there are more places in the lists than can be counted. -/
theorem completed?_eq_none_iff {es : List Evaluation} {w w' : World σ}
    (h : Returns (evaluate recommend ctx options candidates samples) w es w') :
    completed? options.k.toNat es = none ↔
      candidates ≠ [] ∧ 2 ^ 64 ≤ samples.length * options.k.toNat := by
  have htotal := total_of_returns_evaluate h
  have hsome : es = [] ↔ candidates = [] := by
    rw [← reached_eq_nil_iff options samples, ← List.length_eq_zero_iff, ← List.length_eq_zero_iff,
      (called_of_returns_evaluate h).2.length_eq]
  have hover : (∃ e ∈ es, 2 ^ 64 ≤ e.total * options.k.toNat) ↔
      es ≠ [] ∧ 2 ^ 64 ≤ samples.length * options.k.toNat := by
    constructor
    · rintro ⟨e, he, hpast⟩
      exact ⟨List.ne_nil_of_mem he, htotal e he ▸ hpast⟩
    · rintro ⟨hne, hpast⟩
      obtain ⟨e, he⟩ := List.exists_mem_of_ne_nil es hne
      exact ⟨e, he, (htotal e he).symm ▸ hpast⟩
  rw [Ne, ← not_congr hsome, ← Ne, ← hover]
  simp [completed?, overruns]

/-! ### Coverage -/

def distinct (outcomes : List Outcome) : Nat :=
  ((outcomes.filterMap (·.2)).flatten).toFinset.card

theorem distinct_le {outcomes : List Outcome} {k : Nat}
    (h : ∀ o ∈ outcomes, ∀ list, o.2 = some list → list.length ≤ k) :
    distinct outcomes ≤ outcomes.length * k := by
  calc distinct outcomes ≤ (outcomes.filterMap (·.2)).flatten.length := List.toFinset_card_le _
    _ = ((outcomes.filterMap (·.2)).map List.length).sum := List.length_flatten
    _ ≤ ((outcomes.filterMap (·.2)).map List.length).length * k := by
        refine List.sum_le_card_nsmul _ k fun n hn => ?_
        obtain ⟨list, hlist, rfl⟩ := List.mem_map.1 hn
        obtain ⟨o, ho, hsome⟩ := List.mem_filterMap.1 hlist
        exact h o ho list hsome
    _ ≤ outcomes.length * k := by
        refine Nat.mul_le_mul_right k ?_
        rw [List.length_map]
        exact List.length_filterMap_le _ _

structure Covers (k : Nat) (outcomes : List Outcome) (coverage : Float) : Prop where
  quotient : coverage = quotient (Score.ofNat (distinct outcomes)) (outcomes.length * k)
  /-- It is the double nearest to the share that it stands for. -/
  nearest : 0 < distinct outcomes → distinct outcomes < 2 ^ 53 → outcomes.length * k < 2 ^ 53 →
    height coverage = nearestPlace (distinct outcomes / (outcomes.length * k : ℕ))
  /-- It lies between nought and one if no list is too long. -/
  share : (∀ o ∈ outcomes, ∀ list, o.2 = some list → list.length ≤ k) →
    0.0 ≤ coverage ∧ coverage ≤ 1.0

theorem quotient_bounds {i n : Nat} (hle : i ≤ n) (hfits : n < 2 ^ 64) :
    0.0 ≤ quotient (Score.ofNat i) n ∧ quotient (Score.ofNat i) n ≤ 1.0 := by
  rw [quotient]
  split
  · decide
  · rename_i hn
    obtain ⟨hfinite, -⟩ := ofNat_bounds hfits
    obtain ⟨-, hnonneg⟩ := ofNat_bounds (hle.trans_lt hfits)
    exact share_bounds hfinite (ofNat_pos (Nat.pos_of_ne_zero hn) hfits) hnonneg
      (ofNat_mono hle hfits)

theorem height_quotient {i n : Nat} (hi : i < 2 ^ 53) (hn : n < 2 ^ 53) :
    height (quotient (Score.ofNat i) n) = roundedPlace (i / n) := by
  rw [quotient]
  split
  · rename_i hzero
    rw [hzero, Nat.cast_zero, div_zero, roundedPlace_zero]
    exact height_zero.2
  · rename_i hpos
    have hwide : 2 ^ 53 < 2 ^ 64 := by decide
    obtain ⟨hfinite, hnonneg⟩ := ofNat_bounds (hi.trans hwide)
    obtain ⟨hfinite', -⟩ := ofNat_bounds (hn.trans hwide)
    rw [(height_div hfinite hfinite' hnonneg
      (ofNat_pos (Nat.pos_of_ne_zero hpos) (hn.trans hwide))).2, size_ofNat hi, size_ofNat hn]

theorem covers_ofOutcomes (name : String) {k : Nat} {outcomes : List Outcome} (hpos : 1 ≤ k)
    (hfits : outcomes.length * k < 2 ^ 64) :
    Covers k outcomes (ofOutcomes name k outcomes).coverage := by
  have hquotient : (ofOutcomes name k outcomes).coverage =
      quotient (Score.ofNat (distinct outcomes)) (outcomes.length * k) := by
    rw [ofOutcomes, length_eraseDups]
    exact ratio_toUInt64 _ hfits
  refine ⟨hquotient, fun hsome hsmall hplaces => ?_, fun hlists => ?_⟩
  · have hlists : 0 < outcomes.length := by
      refine List.length_pos_iff.2 fun hnone => ?_
      rw [hnone] at hsome
      cases hsome
    have hshare : (0 : ℚ) < distinct outcomes / (outcomes.length * k : ℕ) :=
      div_pos (by exact_mod_cast hsome) (by exact_mod_cast Nat.mul_pos hlists hpos)
    rw [hquotient, height_quotient hsmall hplaces, roundedPlace_of_pos hshare]
  · rw [hquotient]
    exact quotient_bounds (distinct_le hlists) hfits

/-- The coverage of every candidate is the share that it stands for, whoever makes the lists. If there
are candidates, the evaluation breaks down if and only if all lists together have more places than can
be counted. -/
theorem coverage_exact_unless_overrun (recommend : Recommender σ) (ctx : Context)
    (options : EvaluationOptions) (candidates : List BlendCandidate)
    (samples : List HoldoutSample) (w w' : World σ) (es : List Evaluation)
    (h : Returns (evaluate recommend ctx options candidates samples) w es w') :
    (completed? options.k.toNat es = none ↔
        candidates ≠ [] ∧ 2 ^ 64 ≤ samples.length * options.k.toNat) ∧
      ∀ marks, completed? options.k.toNat es = some marks →
        List.Forall₂ (fun c e => e.name = c.name ∧ e.total = samples.length ∧ ∃ outcomes,
          Called recommend ctx options c samples outcomes ∧
            Covers options.k.toNat outcomes e.coverage) candidates marks := by
  have hiff := completed?_eq_none_iff h
  refine ⟨hiff, fun marks hmarks => ?_⟩
  obtain rfl := eq_of_completed? hmarks
  obtain ⟨hpos, hcalls⟩ := called_of_returns_evaluate h
  rcases candidates with _ | ⟨first, rest⟩
  · rw [reached_nil, List.forall₂_nil_left_iff] at hcalls
    rw [hcalls]
    exact .nil
  · have hfits : samples.length * options.k.toNat < 2 ^ 64 := by
      refine Nat.lt_of_not_le fun hpast => ?_
      cases (hiff.2 ⟨List.cons_ne_nil _ _, hpast⟩).symm.trans hmarks
    rw [reached_of_lt hfits] at hcalls
    refine hcalls.imp fun c e => ?_
    rintro ⟨outcomes, hcalled, rfl⟩
    have hsame : outcomes.length = samples.length := hcalled.length_eq.symm
    exact ⟨rfl, hsame, outcomes, hcalled, covers_ofOutcomes c.name (by omega) (hsame ▸ hfits)⟩

theorem coverage_exact_unless_overrun_script :
    ∃ e w', Returns (evaluate script scriptContext { space := "shop", k := 3 } [evenBlend]
        scriptSamples) ⟨0, ()⟩ [e] w' ∧ completed? 3 [e] = some [e] ∧
      ∃ outcomes, Called script scriptContext { space := "shop", k := 3 } evenBlend
        scriptSamples outcomes ∧ Covers 3 outcomes e.coverage := by
  refine ⟨_, _, rfl, rfl, ?_⟩
  obtain ⟨-, hcovers⟩ := coverage_exact_unless_overrun script scriptContext
    { space := "shop", k := 3 } [evenBlend] scriptSamples ⟨0, ()⟩ _ _ rfl
  cases hcovers _ rfl with
  | cons hcovers _ => exact hcovers.2.2

/-- With lists so long that three of them have two places more than can be counted, the evaluation of
the script breaks down, though no list of the script is too long. -/
theorem script_overruns :
    ∃ es w', Returns (evaluate script scriptContext
        { space := "shop", k := 6148914691236517206 } [evenBlend] scriptSamples) ⟨0, ()⟩ es w' ∧
      scriptSamples.length * 6148914691236517206 = 2 ^ 64 + 2 ∧
      (∀ r list, scripted r = .ok list → list.length ≤ 6148914691236517206) ∧
      completed? 6148914691236517206 es = none := by
  refine ⟨_, _, rfl, by decide, fun r list hlist => ?_, by decide +kernel⟩
  have hshort : list.length ≤ 3 := by
    rw [scripted] at hlist
    split at hlist
    · cases hlist
      decide
    · split at hlist
      · cases hlist
        decide
      · cases hlist
  omega

end Evaluation

end Recommendation
