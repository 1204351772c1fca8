import Mathlib.Tactic.Ring
import Recommendation.Proofs.Candidates
import Recommendation.Proofs.Diversity.Scaling
import Recommendation.Proofs.Engine.Proposals
import Recommendation.Proofs.Engine.Runs
import Recommendation.Store.Memory

/-!
Weights that are all multiplied by one positive factor. Which signals are asked, which
items are positive, what policy does and which places are taken depend on the signs
and the order of scores. So the factor runs through a request and shows in the scores
of the answer alone, each of which is multiplied by it. Scores are read as exact
fractions here; doubles round.
-/

namespace Recommendation

section Scale

variable {α : Type} [Score α] (factor : α)

def Weights.scale (w : Weights α) : Weights α :=
  ⟨factor * w.popularity, factor * w.coVisitation, factor * w.profile⟩

theorem Weights.get_scale (w : Weights α) (s : Signal) : (w.scale factor).get s = factor * w.get s := by
  cases s <;> rfl

def PolicyOutcome.scale (o : PolicyOutcome α) : PolicyOutcome α :=
  { o with survivors := o.survivors.map (·.scale factor) }

def Ranked.scale (ranked : Ranked α) : Ranked α :=
  { ranked with list := ranked.list.map (·.scale factor) }

def RankInput.scale (input : RankInput α) : RankInput α :=
  { input with weights := input.weights.scale factor }

def Recommended.scale (item : Recommended α) : Recommended α :=
  { item with score := factor * item.score }

def Answer.scale (a : Answer α) : Answer α :=
  { a with weights := a.weights.scale factor, items := a.items.map (·.scale factor) }

def Served.scale (served : Served α) : Served α :=
  { served with answer := served.answer.map (·.scale factor) }

def Engine.Checked.scale (checked : Engine.Checked α) : Engine.Checked α :=
  { checked with weights := checked.weights.scale factor }

def Engine.scaled {σ : Type} (e : Engine σ) (r : RecommendRequest α) : RecommendRequest α :=
  { r with blend := some ((r.blend.getD (e.blend : Blend α).defaults).scale factor) }

end Scale

variable {c : Rat} (hc : 0 < c)

/-! ### Blending -/

section Blending

include hc

theorem Weights.validate_scale (w : Weights Rat) : (w.scale c).validate = w.validate := by
  have hcheck (name : String) (x : Rat) : check name (c * x) = check name x := by
    have hsign : Score.below (c * x) Score.zero = Score.below x Score.zero := by
      simpa using Score.below_mul hc x 0
    rw [check, check, hsign]
    rfl
  have hpositive : (Signal.all.any fun s => Score.isPositive ((w.scale c).get s)) =
      Signal.all.any fun s => Score.isPositive (w.get s) := by
    simp only [get_scale, Score.isPositive_mul hc]
  simp only [validate, scale, hcheck]
  rw [← hpositive]
  rfl

namespace Blend

variable (blend : Blend Rat) (weights : Weights Rat)

theorem usesProfile_scale : blend.usesProfile (weights.scale c) = blend.usesProfile weights := by
  rw [usesProfile, usesProfile]
  exact congrArg (· || _) (Score.isPositive_mul hc _)

theorem weighted_scale (x : Candidate Rat) : weighted (weights.scale c) x = weighted weights x := by
  simp only [weighted, Weights.get_scale, Score.isPositive_mul hc]

theorem summed_scale (x : Candidate Rat) :
    summed (weights.scale c) x = (summed weights x).scale c := by
  have hcombined : combined (weights.scale c) x = c * combined weights x := by
    simp only [combined, Weights.scale]
    ring
  rw [summed, hcombined, weighted_scale hc]
  rfl

omit hc in
theorem boosted_scale (attenuation : Rat) (x : Candidate Rat) :
    blend.boosted attenuation (x.scale c) = (blend.boosted attenuation x).scale c := by
  -- The multiplier looks at what the profile says, not at the score.
  have hmultiplier : blend.multiplier attenuation (x.scale c) = blend.multiplier attenuation x :=
    rfl
  rw [boosted, boosted, hmultiplier]
  show (if Score.isPositive blend.profileBoost && Score.isPositive x.profile then _ else _) = _
  split
  · simp only [Candidate.scale, mul_assoc]
    rfl
  · rfl

theorem candidate?_scale (attenuation : Rat) (id : String) (entries : Entries Rat) :
    blend.candidate? (weights.scale c) attenuation id entries =
      (blend.candidate? weights attenuation id entries).map (·.scale c) := by
  rw [candidate?_eq, candidate?_eq, summed_scale hc, Candidate.scale_score, Score.isPositive_mul hc,
    boosted_scale]
  split <;> rfl

theorem candidates_scale (sets : List (CandidateSet Rat)) :
    blend.candidates (weights.scale c) sets =
      (blend.candidates weights sets).map (·.scale c) := by
  rw [candidates, candidates, ← Candidate.rank_scale hc, List.map_filterMap]
  simp only [candidate?_scale hc]

end Blend

theorem Proposals.isActive_scale (blend : Blend Rat) (weights : Weights Rat) (s : Signal) :
    isActive blend (weights.scale c) s = isActive blend weights s := by
  cases s with
  | profile => exact Blend.usesProfile_scale hc blend weights
  | _ => exact Score.isPositive_mul hc _

end Blending

/-! ### Policy -/

theorem Candidate.ids_scale (xs : List (Candidate Rat)) :
    (xs.map (·.scale c)).map (·.id) = xs.map (·.id) := by
  rw [List.map_map]
  rfl

namespace Policy

variable (policy : Policy) (input : PolicyInput) (cs : List (Candidate Rat))

theorem effects_scale : policy.effects input (cs.map (·.scale c)) = policy.effects input cs := by
  rw [effects, effects, PolicyInput.pool, PolicyInput.pool, List.filterMap_map]
  rfl

theorem summarize_scale (e : RuleEffects Rat) :
    summarize input e (cs.map (·.scale c)) = summarize input e cs := by
  simp only [summarize, PolicyInput.countMarked, List.filter_map, List.length_map, List.countP_map,
    List.map_map]
  rfl

theorem attach_scale (e : RuleEffects Rat) (x : Candidate Rat) :
    e.attach (x.scale c) = (e.attach x).scale c := by
  simp only [RuleEffects.attach, Candidate.scale_id]
  cases e.boost? x.id with
  | none => rfl
  | some factor =>
      simp only [Candidate.scale, mul_assoc]

include hc

/-- Policy looks at identifiers, so the same candidates survive, with the same pins. -/
theorem outcome_scale :
    policy.outcome input (cs.map (·.scale c)) = (policy.outcome input cs).scale c := by
  have hsurvivors (e : RuleEffects Rat) :
      Candidate.rank (((cs.map (·.scale c)).filter (survives input e)).map e.attach) =
        (Candidate.rank ((cs.filter (survives input e)).map e.attach)).map (·.scale c) := by
    rw [← Candidate.rank_scale hc, List.filter_map, List.map_map, List.map_map]
    exact congrArg Candidate.rank (List.map_congr_left fun x _ => attach_scale e x)
  have hdropped (e : RuleEffects Rat) :
      ((cs.map (·.scale c)).filterMap fun x =>
          (e.verdict (input.mark x.id) x.id).map fun r => (x.id, r)) =
        cs.filterMap fun x => (e.verdict (input.mark x.id) x.id).map fun r => (x.id, r) := by
    rw [List.filterMap_map]
    rfl
  simp only [outcome, effects_scale, summarize_scale, hsurvivors, hdropped]
  simp only [PolicyOutcome.withLeaks, PolicyOutcome.leaks, Candidate.ids_scale, PolicyOutcome.scale]
  rfl

end Policy

/-! ### Ranking -/

namespace Ranked

variable (settings : Settings) (input : RankInput Rat) (sets : List (CandidateSet Rat))

include hc

theorem candidates_scale (items : Dictionary Item) (pinned : List String) :
    candidates (input.scale c) items pinned sets =
      (candidates input items pinned sets).map (·.scale c) := by
  have hnamed (id : String) : (Candidate.pinned id : Candidate Rat).scale c = .pinned id :=
    congrArg (fun score => { (Candidate.pinned id : Candidate Rat) with score }) (mul_zero c)
  have hblended : (input.scale c).blend.candidates (input.scale c).weights
      (CandidateSet.widen sets items) =
        (input.blend.candidates input.weights (CandidateSet.widen sets items)).map (·.scale c) :=
    Blend.candidates_scale hc _ _ _
  have hfresh (xs : List (Candidate Rat)) (id : String) :
      ((xs.map (·.scale c)).any fun x => x.id == id) = xs.any fun x => x.id == id := by
    rw [List.any_map]
    rfl
  simp only [candidates, hblended, hfresh, List.map_append, List.map_map]
  exact congrArg (_ ++ ·) (List.map_congr_left fun id _ => (hnamed id).symm)

theorem conclude_scale (d : Diversity Rat) (items : Dictionary Item) (k : Nat)
    (outcome : PolicyOutcome Rat) :
    conclude d items k (outcome.scale c) = (conclude d items k outcome).scale c := by
  have hlist : d.list items k (outcome.scale c).survivors =
      (d.list items k outcome.survivors).map (·.scale c) := Diversity.list_scale hc d items k _
  have hoverrun : Diversity.overruns k (outcome.scale c).survivors =
      Diversity.overruns k outcome.survivors := Diversity.overruns_scale hc k _
  have hleaks (ids : List String) : (outcome.scale c).leaks ids = outcome.leaks ids := rfl
  have hleaked (ids : List String) :
      ((outcome.scale c).withLeaks ids).summary = (outcome.withLeaks ids).summary := rfl
  have hshown (xs : List (Candidate Rat)) :
      ((outcome.scale c).withExposure (xs.map (·.scale c))).summary =
        (outcome.withExposure xs).summary := by
    simp only [PolicyOutcome.withExposure, List.length_map, List.countP_map]
    rfl
  have hsummary : (outcome.scale c).summary = outcome.summary := rfl
  simp only [conclude, hlist, hoverrun, hleaks, hleaked, hshown, hsummary, Candidate.ids_scale,
    List.length_map, apply_ite (Ranked.scale c)]
  rfl

/-- The list of a ranking with scaled weights is the list, scaled. -/
theorem ofReads_scale (reads : Reads) :
    ofReads settings (input.scale c) sets reads = (ofReads settings input sets reads).scale c := by
  have houtcome : outcome settings (input.scale c) sets reads =
      (outcome settings input sets reads).scale c := by
    have hcandidates := candidates_scale hc input sets reads.items
      (pinnedIds reads.rules input.seeds)
    simp only [outcome]
    rw [← Policy.outcome_scale hc, ← hcandidates]
    rfl
  rw [ofReads, houtcome]
  exact conclude_scale hc _ _ _ _

theorem ofProposals_scale {σ : Type} (store : Store σ) (ctx : Context) :
    ofProposals settings store ctx (input.scale c) sets =
      Ranked.scale c <$> (ofProposals settings store ctx input sets : Step σ (Ranked Rat)) := by
  rw [ofProposals, ofProposals, map_bind]
  simp only [map_pure, ← ofReads_scale hc]
  rfl

end Ranked

/-! ### Requests -/

namespace Engine

variable {σ : Type} (e : Engine σ) (ctx : Context)

section Steps

include hc

theorem check_scale (r : RecommendRequest Rat) :
    e.check (e.scaled c r) = (e.check r).map (·.scale c) := by
  have hresolve : (e.blend : Blend Rat).resolve (e.scaled c r).blend =
      ((e.blend : Blend Rat).resolve r.blend).map (·.scale c) := by
    simp only [Blend.resolve, scaled, Option.getD_some, Weights.validate_scale hc]
    cases (r.blend.getD (e.blend : Blend Rat).defaults).validate <;> rfl
  have hgiven : ((e.blend : Blend Rat).resolve (e.scaled c r).blend).mapError
      (fun w => Failure.invalidBlend w.message) =
        (((e.blend : Blend Rat).resolve r.blend).mapError
          (fun w => Failure.invalidBlend w.message)).map (·.scale c) := by
    rw [hresolve]
    cases (e.blend : Blend Rat).resolve r.blend <;> rfl
  have hspace : (e.scaled c r).space = r.space := rfl
  have hlength : (e.scaled c r).k = r.k := rfl
  have hconstraints : (e.scaled c r).constraints = r.constraints := rfl
  rw [check, check, hgiven, hspace, hlength, hconstraints]
  show (if Text.trim r.userId == "" then _ else _) = _
  split
  · rfl
  · cases checkSpace r.space with
    | error f => rfl
    | ok space =>
        cases e.checkLength r.k with
        | error f => rfl
        | ok k =>
            cases checkConstraints r.constraints with
            | error f => rfl
            | ok u =>
                cases (e.blend : Blend Rat).resolve r.blend with
                | error w => rfl
                | ok weights => rfl

theorem listKind_scale (weights : Weights Rat) : listKind (weights.scale c) = listKind weights := by
  have hcoVisitation : Score.isPositive (weights.scale c).coVisitation =
      Score.isPositive weights.coVisitation := Score.isPositive_mul hc _
  have hprofile : Score.isPositive (weights.scale c).profile = Score.isPositive weights.profile :=
    Score.isPositive_mul hc _
  rw [listKind, hcoVisitation, hprofile, listKind]

omit hc in
theorem finish_scale (kind : ListKind) (weights : Weights Rat) (withReasons degraded : Bool)
    (space surface : String) (ranked : Ranked Rat) :
    finish kind (weights.scale c) withReasons degraded space surface (ranked.scale c) =
      (finish kind weights withReasons degraded space surface ranked).scale c := by
  have hitems : (ranked.scale c).list.map (·.shown withReasons) =
      (ranked.list.map (·.shown withReasons)).map (·.scale c) := by
    rw [Ranked.scale, List.map_map, List.map_map]
    rfl
  have hfault : (ranked.scale c).fault = ranked.fault := rfl
  rw [finish, hitems, hfault, finish]
  rcases ranked.fault with _ | ⟨_ | _ | _, _⟩ <;> rfl

omit hc in
theorem rankInput_scale (r : RecommendRequest Rat) (checked : Checked Rat) (types : EventTypes) :
    e.rankInput ctx (e.scaled c r) (checked.scale c) types =
      (e.rankInput ctx r checked types).scale c := by
  simp only [rankInput, scaled, RankInput.scale, Checked.scale]

theorem rankProposals_scale (r : RecommendRequest Rat) (checked : Checked Rat)
    (types : EventTypes) (proposals : Proposals Rat) :
    e.rankProposals ctx (e.scaled c r) (checked.scale c) types proposals =
      Served.scale c <$> e.rankProposals ctx r checked types proposals := by
  have hkind : listKind (checked.scale c).weights = listKind checked.weights :=
    listKind_scale hc _
  rw [rankProposals, rankProposals, rankInput_scale, hkind, Ranked.ofProposals_scale hc, map_bind,
    bind_map_left]
  simp only [map_pure, ← finish_scale]
  rfl

theorem activeSignals_scale (checked : Checked Rat) :
    e.activeSignals (checked.scale c) = e.activeSignals checked :=
  List.filter_congr fun s _ => Proposals.isActive_scale hc _ _ s

theorem recommendSteps_scale (r : RecommendRequest Rat) :
    e.recommendSteps ctx (e.scaled c r) =
      Served.scale c <$> (e.recommendSteps ctx r : Step σ (Served Rat)) := by
  rw [recommendSteps_eq, recommendSteps_eq, recommendStepsFrom, recommendStepsFrom,
    check_scale hc]
  cases e.check r with
  | error f => rfl
  | ok checked =>
      -- The signals are asked without regard to the weights, and as many of them as before.
      have hasked (types : EventTypes) :
          (e.activeSignals (checked.scale c)).map
              (e.askSignal (contextOf ctx r.asOf) (checked.scale c) types) =
            (e.activeSignals checked).map (e.askSignal (contextOf ctx r.asOf) checked types) := by
        rw [activeSignals_scale hc]
        rfl
      show (Read.step _ >>= fun types => Proposals.collect _
          ((e.activeSignals (checked.scale c)).map
            (e.askSignal (contextOf ctx r.asOf) (checked.scale c) types)) >>= fun proposals =>
        e.rankProposals _ (e.scaled c r) (checked.scale c) types proposals) = _ <$> (_ >>= _)
      simp only [hasked, rankProposals_scale hc, map_bind]
      rfl

end Steps

theorem recommend_scale (r : RecommendRequest Rat) (w : World σ) (hc : 0 < c) :
    e.recommend ctx (e.scaled c r) w =
      ((e.recommend ctx r w).1.scale c, (e.recommend ctx r w).2) := by
  rw [recommend, recommend, run_serve, run_serve, recommendSteps_scale hc, run_map]
  rcases (e.recommendSteps ctx r : Step σ (Served Rat)).run w with ⟨_ | _, _⟩ <;> rfl

/-- What a request goes through, it goes through with scaled weights as well: it reads the same
in the same worlds, and its list has the same candidates with the same pins. -/
theorem RecommendRun.exists_scaled {e : Engine σ} {ctx : Context} {r : RecommendRequest Rat}
    {w w' : World σ} (run : RecommendRun e ctx r w w') (hc : 0 < c) :
    ∃ run' : RecommendRun e ctx (e.scaled c r) w w', run'.ranked = run.ranked.scale c := by
  have hpasses : e.check (e.scaled c r) = .ok (run.checked.scale c) := by
    rw [check_scale hc, run.passes]
    rfl
  have hactive : Signal.all.filter (Proposals.isActive e.blend (run.checked.scale c).weights) =
      Signal.all.filter (Proposals.isActive e.blend run.checked.weights) :=
    activeSignals_scale hc e run.checked
  have hasks := run.asks
  rw [← hactive] at hasks
  let run' : RecommendRun e ctx (e.scaled c r) w w' :=
    { checked := run.checked.scale c
      types := run.types
      proposals := run.proposals
      reads := run.reads
      worldOfTypes := run.worldOfTypes
      worldOfProposals := run.worldOfProposals
      passes := hpasses
      readsTypes := run.readsTypes
      asks := hasks
      ranks := run.ranks }
  have hinput : run'.input = run.input.scale c :=
    rankInput_scale e (contextOf ctx r.asOf) r run.checked run.types
  have hranked : run'.ranked =
      Ranked.ofReads e.settings (run.input.scale c) run.proposals.sets run.reads := by
    rw [← hinput]
    rfl
  refine ⟨run', ?_⟩
  rw [hranked, Ranked.ofReads_scale hc]
  rfl

/-- With weights multiplied by a positive factor a request ends in the same world, is counted in
the same way and fails alike. Its answer has the same items in the same order with the same
reasons, pins and summary, and each score is multiplied by the factor. -/
theorem scaled_weights_scale_scores (e : Engine σ) (ctx : Context) (r : RecommendRequest Rat)
    (w : World σ) (hc : 0 < c) :
    e.recommend ctx (e.scaled c r) w =
        ((e.recommend ctx r w).1.scale c, (e.recommend ctx r w).2) ∧
      ∀ w' (run : RecommendRun e ctx r w w'),
        ∃ run' : RecommendRun e ctx (e.scaled c r) w w', run'.ranked = run.ranked.scale c :=
  ⟨recommend_scale e ctx r w hc, fun _ run => run.exists_scaled hc⟩

/-- A shop with three shoes, one that counts for more and one that is wanted second. -/
def pinnedRack : Snapshot :=
  { items := [{ id := "boot", tags := ["shoes", "brand:acme"] }, { id := "clog", tags := ["shoes"] },
      { id := "sock", tags := ["brand:acme"] }]
    rules := [{ id := .none, space := "shop", target := .items ["sock"], action := .pin 2 },
      { id := .none, space := "shop", target := .items ["clog"], action := .boost 0.5 }] }

def pinnedRackEngine : Engine Unit :=
  { settings := {}
    store := { Store.memory [(⟨.none, "shop"⟩, pinnedRack)] with
      topPopular := fun _ _ _ => return [⟨"boot", 4.0, ⟨1000, 0⟩⟩, ⟨"clog", 3.0, ⟨900, 0⟩⟩] } }

def pinnedRackContext : Context := { org := .none, now := ⟨2000, 0⟩ }

def pinnedRackRequest : RecommendRequest Rat :=
  { userId := "ann", space := "shop", k := 3, includeReasons := true, blend := some ⟨1, 0, 1 / 2⟩ }

def listed (served : Served Rat) : Option (List (String × Rat × Option (List String))) :=
  served.answer.toOption.map fun a => a.items.map fun x => (x.itemId, x.score, x.reasons)

theorem scaled_weights_scale_scores_pinnedRack : (0 : Rat) < 3 / 2 ∧
    (pinnedRackEngine.scaled (3 / 2) pinnedRackRequest).blend =
      some (Weights.scale (3 / 2) ⟨1, 0, 1 / 2⟩) ∧
    listed (pinnedRackEngine.recommend pinnedRackContext pinnedRackRequest ⟨0, ()⟩).1 =
      some [("clog", 9 / 8, some ["popular", "boosted"]), ("sock", 0, some ["pinned"]),
        ("boot", 1, some ["popular"])] ∧
    listed (pinnedRackEngine.recommend pinnedRackContext
        (pinnedRackEngine.scaled (3 / 2) pinnedRackRequest) ⟨0, ()⟩).1 =
      some [("clog", 27 / 16, some ["popular", "boosted"]), ("sock", 0, some ["pinned"]),
        ("boot", 3 / 2, some ["popular"])] := by
  have hc : (0 : Rat) < 3 / 2 := by decide +kernel
  have hscaled := (scaled_weights_scale_scores pinnedRackEngine pinnedRackContext
    pinnedRackRequest ⟨0, ()⟩ hc).1
  refine ⟨hc, rfl, by decide +kernel, ?_⟩
  rw [hscaled]
  decide +kernel

end Engine

end Recommendation
