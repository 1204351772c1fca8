import Mathlib.Algebra.Ring.Nat
import Recommendation.Proofs.Dictionary
import Recommendation.Proofs.Policy

/-!
The numbers that the policy reports. A candidate has one of three fates, which its mark,
its pin and the blocks decide: it is kept, it is dropped for a reason, or it goes without
one because only a rule has named it. The numbers count candidates by marks and by
verdicts, so an equation between them holds as soon as it holds for one candidate.
-/

namespace Recommendation

open scoped List

/-! ### Counting -/

section Counting

variable {β : Type}

theorem sum_countP_cons (ps : List (β → Bool)) (x : β) (l : List β) :
    (ps.map fun p => (x :: l).countP p).sum =
      (ps.map fun p => (p x).toNat).sum + (ps.map fun p => l.countP p).sum := by
  induction ps with
  | nil => rfl
  | cons p rest ih =>
      rw [List.map_cons, List.sum_cons, ih, List.map_cons, List.sum_cons, List.map_cons,
        List.sum_cons, List.countP_cons]
      cases p x <;> simp <;> omega

/-- If each element passes as many of these tests as of those, then so do all together. -/
theorem counts_add_up (ps qs : List (β → Bool)) {l : List β}
    (h : ∀ x ∈ l, (ps.map fun p => (p x).toNat).sum = (qs.map fun q => (q x).toNat).sum) :
    (ps.map fun p => l.countP p).sum = (qs.map fun q => l.countP q).sum := by
  induction l with
  | nil => simp
  | cons x rest ih =>
      obtain ⟨hx, hrest⟩ := List.forall_mem_cons.1 h
      rw [sum_countP_cons, sum_countP_cons, hx, ih hrest]

/-- Candidates with different identifiers are no more than the identifiers that they are among. -/
theorem countP_le_length {α : Type} {cs : List (Candidate α)} {p : Candidate α → Bool}
    {ids : List String} (hnodup : (cs.map (·.id)).Nodup)
    (h : ∀ c ∈ cs, p c = true → c.id ∈ ids) : cs.countP p ≤ ids.length := by
  have hsub : (cs.filter p).map (·.id) ⊆ ids := by
    intro id hid
    obtain ⟨c, hc, rfl⟩ := List.mem_map.1 hid
    obtain ⟨hmem, hp⟩ := List.mem_filter.1 hc
    exact h c hmem hp
  have hkept : ((cs.filter p).map (·.id)).Nodup := hnodup.sublist (List.filter_sublist.map _)
  have hlength := hkept.length_le_of_subset hsub
  rwa [List.length_map, ← List.countP_eq_length_filter] at hlength

end Counting

/-! ### Marks and verdicts -/

theorem PolicyInput.mark_cases (input : PolicyInput) (id : String) :
    (input.exclusion id = none ∧ id ∉ input.recent ∧
      (input.mark id = none ∨ input.mark id = some .constraint)) ∨
    (input.exclusion id = some .recentEvent ∧ id ∈ input.recent ∧
      input.mark id = some .recentEvent) ∨
    (input.exclusion id = some .unavailable ∧ input.mark id = some .unavailable) ∨
    (input.exclusion id = some .explicitExclude ∧ input.mark id = some .explicitExclude) := by
  rw [mark]
  cases hexclusion : input.exclusion id with
  | none =>
      refine .inl ⟨rfl, ?_, ?_⟩
      · intro hrecent
        simp only [exclusion, List.contains_iff_mem.2 hrecent, if_true] at hexclusion
        split at hexclusion
        · cases hexclusion
        · split at hexclusion <;> cases hexclusion
      · rw [Option.none_or]
        split
        · exact .inl rfl
        · exact .inr rfl
  | some reason =>
      rw [Option.some_or]
      rw [exclusion] at hexclusion
      split at hexclusion
      · cases hexclusion
        exact .inr (.inr (.inl ⟨rfl, rfl⟩))
      · split at hexclusion
        · cases hexclusion
          exact .inr (.inr (.inr ⟨rfl, rfl⟩))
        · split at hexclusion
          · rename_i hrecent
            cases hexclusion
            exact .inr (.inl ⟨rfl, List.contains_iff_mem.1 hrecent, rfl⟩)
          · cases hexclusion

/-- A reason stands if it is the mark of the candidate and no pin lifts it, or if it is a block
that no pin lifts. -/
theorem RuleEffects.verdict_eq_some_iff {α : Type} {e : RuleEffects α} {mark : Option DropReason}
    {id : String} {reason : DropReason} : e.verdict mark id = some reason ↔
      mark = some reason ∧ (reason = .recentEvent → e.pin? id = none) ∨
        mark = none ∧ reason = .ruleBlock ∧ id ∈ e.blocked ∧ e.pin? id = none := by
  unfold verdict
  cases hpin : e.pin? id with
  | none => rcases mark with _ | (_ | _ | _ | _ | _) <;> simp [isBlocked, eq_comm, and_comm]
  | some pin => rcases mark with _ | (_ | _ | _ | _ | _) <;> cases reason <;> simp

/-! ### Fates -/

inductive Fate
  | kept
  | dropped (reason : DropReason)
  | silent

namespace PolicyOutcome

variable {α : Type}

/-- Only a rule has named the candidate, it has got no slot, and nothing is against it. -/
def isSilent (o : PolicyOutcome α) (c : Candidate α) : Bool :=
  c.pinOnly && (o.effects.pin? c.id).isNone && (o.dropReason? c.id).isNone

def HasFate (o : PolicyOutcome α) (c : Candidate α) : Fate → Prop
  | .kept => c.id ∈ o.survivors.map (·.id)
  | .dropped reason => o.dropReason? c.id = some reason
  | .silent => o.isSilent c = true

def dropCount (o : PolicyOutcome α) (cs : List (Candidate α)) (reason : DropReason) : Nat :=
  cs.countP fun c => o.dropReason? c.id == some reason

/-- How many survivors have been met recently and are there because of a pin. -/
def liftedCount (o : PolicyOutcome α) (input : PolicyInput) : Nat :=
  o.survivors.countP fun c => input.recent.contains c.id && c.pin.isSome

end PolicyOutcome

namespace Policy

def isUnderBlock (policy : Policy) (input : PolicyInput) (id : String) : Bool :=
  input.rules.any fun rule => rule.action.kind == .block &&
    (input.available? id).any (rule.target.covers policy.starts)

variable {α : Type} [Score α] {policy : Policy} {input : PolicyInput} {cs : List (Candidate α)}
  {c : Candidate α}

theorem mem_ids_survivors_iff (hnodup : (cs.map (·.id)).Nodup) (hc : c ∈ cs) :
    c.id ∈ (policy.outcome input cs).survivors.map (·.id) ↔
      survives input (policy.effects input cs) c = true := by
  rw [List.mem_map]
  constructor
  · rintro ⟨s, hs, hid⟩
    obtain ⟨c', hc', hsurvives, rfl⟩ := mem_survivors_iff.1 hs
    rw [RuleEffects.attach_id] at hid
    rwa [List.inj_on_of_nodup_map hnodup hc' hc hid] at hsurvives
  · intro hsurvives
    exact ⟨_, mem_survivors_iff.2 ⟨c, hc, hsurvives, rfl⟩, RuleEffects.attach_id c⟩

theorem countP_survivors (p : Candidate α → Bool) :
    (policy.outcome input cs).survivors.countP p = cs.countP fun c =>
      p ((policy.effects input cs).attach c) && survives input (policy.effects input cs) c := by
  rw [survivors_perm.countP_eq, List.countP_map, List.countP_filter]
  rfl

theorem isSilent_outcome_iff (hc : c ∈ cs) : (policy.outcome input cs).isSilent c = true ↔
    c.pinOnly = true ∧ (policy.effects input cs).pin? c.id = none ∧
      (policy.effects input cs).verdict (input.mark c.id) c.id = none := by
  have heffects : (policy.outcome input cs).effects = policy.effects input cs := rfl
  rw [PolicyOutcome.isSilent, dropReason?_outcome hc, heffects]
  simp [and_assoc]

/-- Each candidate has one fate and no other. -/
theorem exists_unique_fate (hnodup : (cs.map (·.id)).Nodup) (hc : c ∈ cs) :
    ∃! fate, (policy.outcome input cs).HasFate c fate := by
  have hkept : c.id ∈ (policy.outcome input cs).survivors.map (·.id) ↔ _ :=
    mem_ids_survivors_iff hnodup hc
  rw [survives_iff_verdict] at hkept
  have hsilent : (policy.outcome input cs).isSilent c = true ↔ _ := isSilent_outcome_iff hc
  have hdropped : (policy.outcome input cs).dropReason? c.id = _ := dropReason?_outcome hc
  cases hverdict : (policy.effects input cs).verdict (input.mark c.id) c.id with
  | some reason =>
      rw [hverdict] at hdropped hkept hsilent
      refine ⟨.dropped reason, hdropped, ?_⟩
      rintro (_ | reason' | _) hfate
      · cases (hkept.1 hfate).1
      · cases hdropped.symm.trans hfate
        rfl
      · cases (hsilent.1 hfate).2.2
  | none =>
      rw [hverdict] at hdropped hkept hsilent
      by_cases hpinned : c.pinOnly = true → ((policy.effects input cs).pin? c.id).isSome = true
      · refine ⟨.kept, hkept.2 ⟨rfl, hpinned⟩, ?_⟩
        rintro (_ | reason | _) hfate
        · rfl
        · cases hdropped.symm.trans hfate
        · obtain ⟨honly, hnone, -⟩ := hsilent.1 hfate
          have hsome := hpinned honly
          rw [hnone] at hsome
          cases hsome
      · have hgone : c.pinOnly = true ∧ (policy.effects input cs).pin? c.id = none := by
          simpa using hpinned
        refine ⟨.silent, hsilent.2 ⟨hgone.1, hgone.2, rfl⟩, ?_⟩
        rintro (_ | reason | _) hfate
        · exact absurd (hkept.1 hfate).2 hpinned
        · cases hdropped.symm.trans hfate
        · rfl

/-! ### Numbers -/

omit [Score α] in
theorem total_eq (input : PolicyInput) (cs : List (Candidate α)) :
    cs.length = input.countMarked cs (some .unavailable) +
      input.countMarked cs (some .explicitExclude) + input.countMarked cs (some .recentEvent) +
        cs.countP fun c => input.exclusion c.id == none := by
  have hparts := counts_add_up [fun _ => true]
    [fun c => input.mark c.id == some .unavailable,
      fun c => input.mark c.id == some .explicitExclude,
      fun c => input.mark c.id == some .recentEvent, fun c => input.exclusion c.id == none]
    (l := cs) fun c _ => by
      rcases input.mark_cases c.id with ⟨hexclusion, -, hmark | hmark⟩ |
        ⟨hexclusion, -, hmark⟩ | ⟨hexclusion, hmark⟩ | ⟨hexclusion, hmark⟩ <;>
      simp +decide [hexclusion, hmark]
  simpa [PolicyInput.countMarked, Nat.add_assoc] using hparts

omit [Score α] in
theorem afterExclusions_eq (input : PolicyInput) (cs : List (Candidate α)) :
    (cs.countP fun c => input.exclusion c.id == none) =
      input.countMarked cs (some .constraint) + input.countMarked cs none := by
  have hparts := counts_add_up [fun c : Candidate α => input.exclusion c.id == none]
    [fun c => input.mark c.id == some .constraint, fun c => input.mark c.id == none]
    (l := cs) fun c _ => by
      rcases input.mark_cases c.id with ⟨hexclusion, -, hmark | hmark⟩ |
        ⟨hexclusion, -, hmark⟩ | ⟨hexclusion, hmark⟩ | ⟨hexclusion, hmark⟩ <;>
      simp +decide [hexclusion, hmark]
  simpa [PolicyInput.countMarked] using hparts

theorem countMarked_eq_dropCount {reason : DropReason} (hrecent : reason ≠ .recentEvent)
    (hblock : reason ≠ .ruleBlock) :
    input.countMarked cs (some reason) = (policy.outcome input cs).dropCount cs reason := by
  apply List.countP_congr
  intro c hc
  rw [dropReason?_outcome hc, beq_iff_eq, beq_iff_eq, RuleEffects.verdict_eq_some_iff]
  simp [hrecent, hblock]

theorem recentEventExcludeHits_eq : input.countMarked cs (some .recentEvent) =
    (policy.outcome input cs).dropCount cs .recentEvent +
      (policy.outcome input cs).liftedCount input := by
  rw [PolicyOutcome.liftedCount, countP_survivors]
  have hparts := counts_add_up [fun c => input.mark c.id == some .recentEvent]
    [fun c => (policy.outcome input cs).dropReason? c.id == some .recentEvent,
      fun c => input.recent.contains ((policy.effects input cs).attach c).id &&
        ((policy.effects input cs).attach c).pin.isSome &&
          survives input (policy.effects input cs) c]
    (l := cs) fun c hc => by
      simp only [List.map_cons, List.map_nil, dropReason?_outcome hc, survives,
        RuleEffects.attach_id, RuleEffects.attach_pin]
      rcases input.mark_cases c.id with ⟨-, hrecent, hmark | hmark⟩ |
        ⟨-, hrecent, hmark⟩ | ⟨-, hmark⟩ | ⟨-, hmark⟩ <;>
      cases hpin : (policy.effects input cs).pin? c.id <;>
      cases hblocked : (policy.effects input cs).isBlocked c.id <;>
      simp +decide [RuleEffects.verdict, *]
  simpa [PolicyInput.countMarked, PolicyOutcome.dropCount] using hparts

theorem afterRules_eq : cs.countP (survives input (policy.effects input cs)) +
      (policy.outcome input cs).dropCount cs .ruleBlock +
        cs.countP (policy.outcome input cs).isSilent =
    input.countMarked cs none + (policy.outcome input cs).liftedCount input := by
  have heffects : (policy.outcome input cs).effects = policy.effects input cs := rfl
  rw [PolicyOutcome.liftedCount, countP_survivors]
  have hparts := counts_add_up
    [survives input (policy.effects input cs),
      fun c => (policy.outcome input cs).dropReason? c.id == some .ruleBlock,
      (policy.outcome input cs).isSilent]
    [fun c => input.mark c.id == none,
      fun c => input.recent.contains ((policy.effects input cs).attach c).id &&
        ((policy.effects input cs).attach c).pin.isSome &&
          survives input (policy.effects input cs) c]
    (l := cs) fun c hc => by
      simp only [List.map_cons, List.map_nil, PolicyOutcome.isSilent, dropReason?_outcome hc,
        heffects, survives, RuleEffects.attach_id, RuleEffects.attach_pin]
      rcases input.mark_cases c.id with ⟨-, hrecent, hmark | hmark⟩ |
        ⟨-, hrecent, hmark⟩ | ⟨-, hmark⟩ | ⟨-, hmark⟩ <;>
      cases hpin : (policy.effects input cs).pin? c.id <;>
      cases hblocked : (policy.effects input cs).isBlocked c.id <;>
      cases honly : c.pinOnly <;>
      simp +decide [RuleEffects.verdict, *]
  simpa [PolicyInput.countMarked, PolicyOutcome.dropCount, Nat.add_assoc] using hparts

theorem isUnderBlock_eq (hbears : input.BearsIds) (hc : c ∈ cs) {item : Item}
    (hitem : input.available? c.id = some item) :
    policy.isUnderBlock input c.id = (policy.effects input cs).isBlocked c.id := by
  have haction (rule : Rule) : (rule.action.kind == .block) = true ↔ rule.action = .block := by
    cases rule.action <;> simp +decide [RuleAction.kind]
  rw [Bool.eq_iff_iff, RuleEffects.isBlocked, List.contains_iff_mem,
    mem_blocked_effects_iff policy hbears hc hitem, isUnderBlock, List.any_eq_true]
  simp only [hitem, Option.any_some, Bool.and_eq_true, haction]

/-- Pins have lifted something for those survivors that are there in spite of it. -/
theorem pinOverrideCount_eq (hbears : input.BearsIds) :
    (cs.countP fun c => (policy.effects input cs).isLifted (input.mark c.id) c.id) =
      (policy.outcome input cs).survivors.countP fun c =>
        input.recent.contains c.id || policy.isUnderBlock input c.id := by
  rw [countP_survivors]
  apply List.countP_congr
  intro c hc
  apply Bool.eq_iff_iff.1
  simp only [RuleEffects.attach_id, survives, RuleEffects.isLifted]
  rcases input.mark_cases c.id with ⟨-, hrecent, hmark | hmark⟩ |
    ⟨-, hrecent, hmark⟩ | ⟨-, hmark⟩ | ⟨-, hmark⟩
  · obtain ⟨item, hitem, -⟩ := PolicyInput.mark_eq_none_iff.1 hmark
    rw [isUnderBlock_eq hbears hc hitem]
    cases hpin : (policy.effects input cs).pin? c.id <;>
    cases hblocked : (policy.effects input cs).isBlocked c.id <;>
    simp +decide [RuleEffects.verdict, *]
  all_goals
    cases hpin : (policy.effects input cs).pin? c.id <;>
    simp +decide [RuleEffects.verdict, *]

/-! ### Exposure -/

section Exposure

variable {shown : List (Candidate α)}

/-- However the list is made of survivors, it exposes no more items than the rules have covered. -/
theorem ruleExposure_le_ruleCount (hnodup : (cs.map (·.id)).Nodup)
    (hfresh : ∀ c ∈ cs, c.boosted = false) (hshown : shown <+~ (policy.outcome input cs).survivors)
    (kind : ActionKind) :
    ((policy.outcome input cs).withExposure shown).summary.ruleExposure kind ≤
      ((policy.outcome input cs).withExposure shown).summary.ruleCount kind := by
  have hids : (shown.map (·.id)).Nodup := by
    obtain ⟨list, hperm, hsublist⟩ := hshown
    rw [← (hperm.map _).nodup_iff]
    exact (nodup_survivors hnodup).sublist (hsublist.map _)
  have hmem : ∀ s ∈ shown, ∃ c ∈ cs, (policy.effects input cs).attach c = s := by
    intro s hs
    obtain ⟨c, hc, -, heq⟩ := mem_survivors_iff.1 (hshown.subset hs)
    exact ⟨c, hc, heq⟩
  cases kind with
  | block =>
      show shown.countP _ ≤ (policy.effects input cs).blocked.length
      apply countP_le_length hids
      intro c _ hblocked
      exact List.contains_iff_mem.1 hblocked
  | pin =>
      show shown.countP _ ≤ (policy.effects input cs).pinMatches.length
      apply countP_le_length hids
      intro s hs hpinned
      obtain ⟨c, -, rfl⟩ := hmem s hs
      rw [RuleEffects.attach_pin] at hpinned
      obtain ⟨pin, hpin⟩ := Option.isSome_iff_exists.1 hpinned
      rw [RuleEffects.attach_id]
      exact RuleEffects.mem_pinMatches_of_pin? hpin
  | boost =>
      have hkeys : (policy.effects input cs).boosts.size =
          (policy.effects input cs).boosts.keys.length := (List.length_map _).symm
      show shown.countP _ ≤ (policy.effects input cs).boosts.size
      rw [hkeys]
      apply countP_le_length hids
      intro s hs hboosted
      obtain ⟨c, hc, rfl⟩ := hmem s hs
      rw [RuleEffects.attach_boosted (hfresh c hc)] at hboosted
      rw [RuleEffects.attach_id]
      exact Dictionary.mem_keys_iff.2 (Option.isSome_iff_exists.1 hboosted)

end Exposure

/-! ### The accounts -/

structure Accounts (policy : Policy) (input : PolicyInput) (cs : List (Candidate α))
    (o : PolicyOutcome α) : Prop where
  /-- Each candidate is among the survivors, has a reason against it, or goes without one. -/
  fates : ∀ c ∈ cs, ∃! fate, o.HasFate c fate
  survivors : o.survivors.map (·.id) <+~ cs.map (·.id)
  total : o.summary.totalCandidates = cs.length
  exclusions : o.summary.totalCandidates = o.summary.unavailableCount +
    o.summary.explicitExcludeHits + o.summary.recentEventExcludeHits + o.summary.afterExclusions
  filters : o.summary.afterExclusions =
    o.summary.constraintFilteredCount + o.summary.afterConstraintFilters
  afterRules : o.summary.afterRules = o.survivors.length
  /-- Behind the constraints, pins bring some candidates back and rules take some away. -/
  rules : o.summary.afterRules + o.dropCount cs .ruleBlock + cs.countP o.isSilent =
    o.summary.afterConstraintFilters + o.liftedCount input
  overrides : o.summary.pinOverrideCount = o.survivors.countP fun c =>
    input.recent.contains c.id || policy.isUnderBlock input c.id
  /-- The reasons are counted as they are given, but for those that a pin has lifted. -/
  reasons : o.summary.unavailableCount = o.dropCount cs .unavailable ∧
    o.summary.explicitExcludeHits = o.dropCount cs .explicitExclude ∧
    o.summary.recentEventExcludeHits = o.dropCount cs .recentEvent + o.liftedCount input ∧
    o.summary.constraintFilteredCount = o.dropCount cs .constraint
  exposure : ∀ shown, shown <+~ o.survivors → ∀ kind,
    (o.withExposure shown).summary.ruleExposure kind ≤ (o.withExposure shown).summary.ruleCount kind
  final : ∀ shown, shown <+~ o.survivors →
    (o.withExposure shown).summary.finalCount ≤ (o.withExposure shown).summary.afterRules

/-- The policy accounts for every candidate: whatever the rules, the constraints and the records
are, the numbers add up over the fates of the candidates, and what a list exposes is within them. -/
theorem accounts_outcome (policy : Policy) (input : PolicyInput) (cs : List (Candidate α))
    (hnodup : (cs.map (·.id)).Nodup) (hfresh : ∀ c ∈ cs, c.boosted = false)
    (hbears : input.BearsIds) : Accounts policy input cs (policy.outcome input cs) := by
  have hfiltered : (policy.outcome input cs).summary.constraintFilteredCount =
      input.countMarked cs (some .constraint) := List.countP_eq_length_filter.symm
  have hafterRules : (policy.outcome input cs).summary.afterRules =
      (policy.outcome input cs).survivors.length := by
    rw [survivors_perm.length_eq, List.length_map, ← List.countP_eq_length_filter]
    rfl
  exact
    { fates := fun c hc => exists_unique_fate hnodup hc
      survivors := by
        have hids : (policy.outcome input cs).survivors.map (·.id) ~
            ((cs.filter (survives input (policy.effects input cs))).map
              (policy.effects input cs).attach).map (·.id) := survivors_perm.map _
        rw [List.map_map] at hids
        simp only [Function.comp_def, RuleEffects.attach_id] at hids
        exact hids.subperm.trans (List.filter_sublist.map _).subperm
      total := rfl
      exclusions := total_eq input cs
      filters := by
        rw [hfiltered]
        exact afterExclusions_eq input cs
      afterRules := hafterRules
      rules := afterRules_eq
      overrides := pinOverrideCount_eq hbears
      reasons := by
        refine ⟨countMarked_eq_dropCount nofun nofun, countMarked_eq_dropCount nofun nofun,
          recentEventExcludeHits_eq, ?_⟩
        rw [hfiltered]
        exact countMarked_eq_dropCount nofun nofun
      exposure := fun shown hshown => ruleExposure_le_ruleCount hnodup hfresh hshown
      final := fun shown hshown => by
        show shown.length ≤ (policy.outcome input cs).summary.afterRules
        rw [hafterRules]
        exact hshown.length_le }

/-- Of five items one is sold out and one has been met recently. A rule blocks two, and another
rule would pin three of which it may have one. -/
def fiveItems : PolicyInput where
  constraints := none
  recent := ["b"]
  rules :=
    [{ id := ⟨1⟩, space := "shop", target := .items ["b", "e"], action := .pin 1 },
      { id := ⟨2⟩, space := "shop", target := .items ["b", "c"], action := .block }]
  items := .ofList [("a", { id := "a" }), ("b", { id := "b" }), ("c", { id := "c" }),
    ("d", { id := "d", available := false }), ("e", { id := "e" })]

def fiveCandidates : List (Candidate Float) :=
  [.scored "a" 4.0, .scored "b" 3.0, .scored "c" 2.0, .scored "d" 1.0, .pinned "e"]

theorem accounts_outcome_fiveCandidates :
    (fiveCandidates.map (·.id)).Nodup ∧ (∀ c ∈ fiveCandidates, c.boosted = false) ∧
      fiveItems.BearsIds ∧
      (outcome ⟨⟨[], []⟩, some 1⟩ fiveItems fiveCandidates).dropped =
        [("c", .ruleBlock), ("d", .unavailable)] ∧
      Accounts ⟨⟨[], []⟩, some 1⟩ fiveItems fiveCandidates
        (outcome ⟨⟨[], []⟩, some 1⟩ fiveItems fiveCandidates) := by
  have hnodup : (fiveCandidates.map (·.id)).Nodup := by decide
  have hfresh : ∀ c ∈ fiveCandidates, c.boosted = false := by decide
  have hbears : fiveItems.BearsIds := by
    intro id item hitem
    have hpairs := Dictionary.mem_of_get?_ofList hitem
    simp only [List.mem_cons, List.not_mem_nil, or_false, Prod.mk.injEq] at hpairs
    rcases hpairs with ⟨rfl, rfl⟩ | ⟨rfl, rfl⟩ | ⟨rfl, rfl⟩ | ⟨rfl, rfl⟩ | ⟨rfl, rfl⟩ <;> rfl
  refine ⟨hnodup, hfresh, hbears, by decide +kernel, ?_⟩
  exact accounts_outcome ⟨⟨[], []⟩, some 1⟩ fiveItems fiveCandidates hnodup hfresh hbears

end Policy

end Recommendation
