import Mathlib.Data.List.Perm.Subperm
import Recommendation.Diversity
import Recommendation.Proofs.Sorting

/-!
How the list is filled, place by place. `FillStep` says what happens at one place
and `FillRun` what happens until all places are filled or nothing is left to fill
them with; the recursion is opened in `exists_fillRun` and nowhere else. Whatever
every step keeps holds of the list: the steps neither double a candidate nor make
one up.
-/

namespace Recommendation

open scoped List

variable {α : Type}

namespace Diversity

/-! ### The best of a list -/

theorem takeBestFrom_perm [Score α] {β : Type} (value : β → α) (before : List β) (best : β)
    (top : α) (behind rest : List β) :
    (takeBestFrom value before best top behind rest).1 ::
        (takeBestFrom value before best top behind rest).2 ~
      best :: (before ++ behind ++ rest) := by
  induction rest generalizing before best top behind with
  | nil =>
      rw [takeBestFrom, List.append_nil]
      exact ((List.reverse_perm _).trans List.perm_append_comm).cons best
  | cons y rest ih =>
      have hfront : behind ++ best :: before ~ best :: (before ++ behind) :=
        List.perm_middle.trans (List.perm_append_comm.cons best)
      rw [takeBestFrom]
      split
      · calc
          _ ~ y :: (behind ++ best :: before ++ [] ++ rest) := ih _ _ _ _
          _ ~ y :: best :: (before ++ behind ++ rest) := by
            rw [List.append_nil]
            exact (hfront.append_right rest).cons y
          _ ~ best :: y :: (before ++ behind ++ rest) := .swap best y _
          _ ~ best :: (before ++ behind ++ y :: rest) := List.perm_middle.symm.cons best
      · calc
          _ ~ best :: (before ++ y :: behind ++ rest) := ih _ _ _ _
          _ ~ best :: y :: (before ++ behind ++ rest) :=
            (List.perm_middle.append_right rest).cons best
          _ ~ best :: (before ++ behind ++ y :: rest) := List.perm_middle.symm.cons best

theorem perm_of_takeBest? [Score α] {β : Type} {value : β → α} {xs others : List β} {x : β}
    (h : takeBest? value xs = some (x, others)) : x :: others ~ xs := by
  cases xs with
  | nil => cases h
  | cons y rest =>
      have hperm := takeBestFrom_perm value [] y (value y) [] rest
      rw [takeBest?, Option.some.injEq] at h
      rw [h] at hperm
      exact hperm

theorem takeBest?_eq_none_iff [Score α] {β : Type} {value : β → α} {xs : List β} :
    takeBest? value xs = none ↔ xs = [] := by
  cases xs <;> simp [takeBest?]

theorem withRoom_sublist (d : Diversity α) (chosen remaining : List (Choice α)) :
    d.withRoom chosen remaining <+ remaining := List.filter_sublist

theorem violates_of_mem_withRoom {d : Diversity α} {chosen remaining : List (Choice α)}
    {x : Choice α} (h : x ∈ d.withRoom chosen remaining) :
    d.violates (listed chosen) x.facets = false := by
  have hroom := (List.mem_filter.1 h).2
  rwa [Bool.not_eq_true'] at hroom

end Diversity

/-! ### Slots -/

namespace SlotMap

theorem put_perm (slot : Nat) (c : Candidate α) (slots : SlotMap α) :
    slots.put slot c ~ (slot, c) :: slots := by
  induction slots with
  | nil => rfl
  | cons s rest ih =>
      rw [put]
      split
      · rfl
      · exact (ih.cons s).trans (.swap _ _ _)

theorem ofPinned_perm (cs : List (Candidate α)) : (ofPinned cs).map (·.2) ~ cs := by
  have hassign : ∀ (cs : List (Candidate α)) (slots : SlotMap α),
      (cs.foldl assign slots).map (·.2) ~ slots.map (·.2) ++ cs := by
    intro cs
    induction cs with
    | nil => simp
    | cons c rest ih =>
        intro slots
        calc
          _ ~ (slots.assign c).map (·.2) ++ rest := ih _
          _ ~ (c :: slots.map (·.2)) ++ rest := ((put_perm _ c slots).map _).append_right rest
          _ ~ slots.map (·.2) ++ c :: rest := List.perm_middle.symm
  exact hassign cs []

theorem cons_filter_subperm {slots : SlotMap α} {slot : Nat} {c : Candidate α}
    (h : (slot, c) ∈ slots) :
    c :: (slots.filter fun s => s.1 != slot).map (·.2) <+~ slots.map (·.2) := by
  -- What the filter drops holds the candidate at least.
  have hslot : [(slot, c)] <+ slots.filter fun s => !(s.1 != slot) :=
    List.singleton_sublist.2 (List.mem_filter.2 ⟨h, by simp⟩)
  have hsplit := List.filter_append_perm (fun s : Nat × Candidate α => s.1 != slot) slots
  rw [← (List.perm_append_singleton _ _).subperm_right, ← (hsplit.map (·.2)).subperm_left,
    List.map_append]
  exact ((hslot.map (·.2)).append_left _).subperm

end SlotMap

/-! ### Steps and runs -/

variable [Score α]

/-- A list on its way: the pinned candidates whose slots are still to come, the
unpinned ones that may still be chosen, and what has been chosen. -/
structure Filling (α : Type) where
  slots : SlotMap α
  remaining : List (Choice α)
  chosen : List (Choice α)

/-- One more place is filled: with the pinned candidate at this slot, else with the
best candidate that the list has room for, else with the next pinned candidate. -/
inductive FillStep (d : Diversity α) (items : Dictionary Item) (largest : α) :
    Filling α → Filling α → Prop
  | slot {slots remaining chosen slot c}
      (hslot : (slots.find? fun s => s.1 == chosen.length) = some (slot, c)) :
      FillStep d items largest ⟨slots, remaining, chosen⟩
        ⟨slots.filter fun s => s.1 != slot, remaining, chosen ++ [d.choice items c]⟩
  | pick {slots remaining chosen x others}
      (hslot : (slots.find? fun s => s.1 == chosen.length) = none)
      (hpick : Diversity.takeBest? (d.marginal largest chosen) (d.withRoom chosen remaining) =
        some (x, others)) :
      FillStep d items largest ⟨slots, remaining, chosen⟩ ⟨slots, others, chosen ++ [x]⟩
  | moveUp {slot c later remaining chosen}
      (hslot : (((slot, c) :: later : SlotMap α).find? fun s => s.1 == chosen.length) = none)
      (hpick : Diversity.takeBest? (d.marginal largest chosen) (d.withRoom chosen remaining) =
        none) :
      FillStep d items largest ⟨(slot, c) :: later, remaining, chosen⟩
        ⟨later, [], chosen ++ [d.choice items c]⟩

/-- Steps until so many places are filled or no step is left. -/
inductive FillRun (d : Diversity α) (items : Dictionary Item) (largest : α) :
    Nat → Filling α → Filling α → Prop
  | full (s) : FillRun d items largest 0 s s
  | stuck {places s} (h : ∀ s', ¬FillStep d items largest s s') :
      FillRun d items largest places s s
  | step {places s s₁ s₂} (h : FillStep d items largest s s₁)
      (run : FillRun d items largest places s₁ s₂) : FillRun d items largest (places + 1) s s₂

section Runs

variable {d : Diversity α} {items : Dictionary Item} {largest : α} {places : Nat}
  {s s' : Filling α}

theorem exists_fillRun (d : Diversity α) (items : Dictionary Item) (largest : α) (places : Nat)
    (slots : SlotMap α) (remaining chosen : List (Choice α)) :
    ∃ s, FillRun d items largest places ⟨slots, remaining, chosen⟩ s ∧
      d.fill items largest places slots remaining chosen = s.chosen := by
  -- The slots and the lists change at every place, so they stay general.
  induction places generalizing slots remaining chosen with
  | zero => exact ⟨_, .full _, rfl⟩
  | succ places ih =>
      simp only [Diversity.fill]
      cases hslot : slots.find? fun s => s.1 == chosen.length with
      | some s =>
          obtain ⟨s', hrun, heq⟩ := ih (slots.filter fun t => t.1 != s.1) remaining
            (chosen ++ [d.choice items s.2])
          exact ⟨s', .step (.slot hslot) hrun, heq⟩
      | none =>
          cases hpick : Diversity.takeBest? (d.marginal largest chosen)
            (d.withRoom chosen remaining) with
          | some pick =>
              obtain ⟨s', hrun, heq⟩ := ih slots pick.2 (chosen ++ [pick.1])
              exact ⟨s', .step (.pick hslot hpick) hrun, heq⟩
          | none =>
              cases slots with
              | nil =>
                  -- No pin is left and nothing has room: each kind of step needs one of them.
                  refine ⟨_, .stuck fun s' hstep => ?_, rfl⟩
                  cases hstep with
                  | slot h => cases h
                  | pick _ h => cases hpick.symm.trans h
              | cons entry later =>
                  obtain ⟨s', hrun, heq⟩ := ih later [] (chosen ++ [d.choice items entry.2])
                  exact ⟨s', .step (.moveUp hslot hpick) hrun, heq⟩

/-- What every step keeps, a run keeps. -/
theorem FillRun.keeps {motive : Filling α → Prop} (run : FillRun d items largest places s s')
    (step : ∀ s s', FillStep d items largest s s' → motive s → motive s') (start : motive s) :
    motive s' := by
  induction run with
  | full s => exact start
  | stuck _ => exact start
  | step hstep _ ih => exact ih (step _ _ hstep start)

theorem FillStep.length_chosen (h : FillStep d items largest s s') :
    s'.chosen.length = s.chosen.length + 1 := by
  cases h <;> simp

theorem FillRun.length_chosen_le (run : FillRun d items largest places s s') :
    s'.chosen.length ≤ s.chosen.length + places := by
  induction run with
  | full s => exact Nat.le_refl _
  | stuck _ => exact Nat.le_add_right _ _
  | step hstep _ ih =>
      have hlength := hstep.length_chosen
      omega

/-- A run ends when all its places are filled or there is no step. -/
theorem FillRun.full_or_stuck (run : FillRun d items largest places s s') :
    s'.chosen.length = s.chosen.length + places ∨ ∀ s'', ¬FillStep d items largest s' s'' := by
  induction run with
  | full s => exact .inl rfl
  | stuck h => exact .inr h
  | step hstep _ ih =>
      apply ih.imp_left
      intro hfull
      have hlength := hstep.length_chosen
      omega

def Filling.supply (s : Filling α) : List (Candidate α) :=
  s.chosen.map (·.candidate) ++ (s.slots.map (·.2) ++ s.remaining.map (·.candidate))

theorem FillStep.supply_subperm (h : FillStep d items largest s s') : s'.supply <+~ s.supply := by
  cases h with
  | slot hslot =>
      simp only [Filling.supply, List.map_append, List.append_assoc]
      refine (List.subperm_append_left _).2 ?_
      exact (SlotMap.cons_filter_subperm (List.mem_of_find?_eq_some hslot)).append (.refl _)
  | @pick slots remaining chosen x others hslot hpick =>
      simp only [Filling.supply, List.map_append, List.append_assoc]
      refine (List.subperm_append_left _).2 ?_
      have hothers := ((Diversity.perm_of_takeBest? hpick).map (·.candidate)).subperm.trans
        ((d.withRoom_sublist _ _).map _).subperm
      refine .trans ?_ ((List.subperm_append_left (slots.map (·.2))).2 hothers)
      rw [List.map_singleton, List.singleton_append, List.map_cons]
      exact List.perm_middle.symm.subperm
  | moveUp hslot hpick =>
      simp only [Filling.supply, List.map_append, List.append_assoc]
      refine (List.subperm_append_left _).2 (List.Sublist.subperm ?_)
      exact .cons_cons _ (List.Sublist.append_left (List.nil_sublist _) _)

theorem FillRun.supply_subperm (run : FillRun d items largest places s s') :
    s'.supply <+~ s.supply :=
  run.keeps (motive := fun t => t.supply <+~ s.supply)
    (fun _ _ hstep hs => hstep.supply_subperm.trans hs) (.refl _)

end Runs

/-! ### The list -/

namespace Diversity

variable (d : Diversity α) (items : Dictionary Item)

def start (cs : List (Candidate α)) : Filling α :=
  ⟨.ofPinned (sortWith pinOrder (cs.filter (·.pin.isSome))),
    (Candidate.rank (cs.filter (·.pin.isNone))).map (d.choice items), []⟩

theorem isSome_pin_of_mem_slots {cs : List (Candidate α)} {entry : Nat × Candidate α}
    (h : entry ∈ (d.start items cs).slots) : entry.2.pin.isSome = true := by
  have hpinned := (SlotMap.ofPinned_perm _).subset (List.mem_map_of_mem h)
  exact (List.mem_filter.1 ((mem_sortWith _).1 hpinned)).2

def largestScore (cs : List (Candidate α)) : α :=
  Score.largest ((Candidate.rank (cs.filter (·.pin.isNone))).map (·.score))

theorem exists_run_list (k : Nat) (cs : List (Candidate α)) :
    ∃ s, FillRun d items (largestScore cs) k (d.start items cs) s ∧
      d.list items k cs = s.chosen.map (·.candidate) := by
  obtain ⟨s, hrun, heq⟩ := exists_fillRun d items (largestScore cs) k (d.start items cs).slots
    (d.start items cs).remaining []
  exact ⟨s, hrun, congrArg (List.map Choice.candidate) heq⟩

theorem supply_start (cs : List (Candidate α)) : (d.start items cs).supply ~ cs := by
  have hothers : (d.start items cs).remaining.map (·.candidate) =
      Candidate.rank (cs.filter (·.pin.isNone)) := by
    simp [start, choice, Function.comp_def]
  have hsplit := List.filter_append_perm (fun c : Candidate α => c.pin.isSome) cs
  simp only [Option.not_isSome] at hsplit
  rw [Filling.supply, hothers]
  exact (((SlotMap.ofPinned_perm _).trans (sortWith_perm _ _)).append (sortWith_perm _ _)).trans
    hsplit

/-- The list is made of the candidates, none of them doubled. -/
theorem list_subperm (k : Nat) (cs : List (Candidate α)) : d.list items k cs <+~ cs := by
  obtain ⟨s, hrun, hlist⟩ := d.exists_run_list items k cs
  have hchosen : s.chosen.map (·.candidate) <+~ s.supply := (List.sublist_append_left _ _).subperm
  rw [hlist]
  exact (hchosen.trans hrun.supply_subperm).trans (d.supply_start items cs).subperm

theorem length_list_le (k : Nat) (cs : List (Candidate α)) : (d.list items k cs).length ≤ k := by
  obtain ⟨s, hrun, hlist⟩ := d.exists_run_list items k cs
  have hlength := hrun.length_chosen_le
  simp only [start, List.length_nil] at hlength
  rw [hlist, List.length_map]
  omega

end Diversity

end Recommendation
