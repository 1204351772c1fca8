import Recommendation.Proofs.Diversity.Filling

/-!
The slots that pins are given. Each pin in turn gets the first slot at or after the one
it asks for that no pin before it has got. The search for that slot takes no more steps
than there are slots taken. The map holds the slots in ascending order, whatever the turn
in which they have been given.
-/

namespace Recommendation

open scoped List

variable {α : Type}

namespace SlotMap

/-- The slot is the first one from `wish` on that is not among those given. -/
structure IsFirstFree (given : SlotMap α) (wish slot : Nat) : Prop where
  atOrAfter : wish ≤ slot
  free : slot ∉ given.map (·.1)
  first : ∀ t, wish ≤ t → t < slot → t ∈ given.map (·.1)

/-- Candidates get slots in turn, each the first free one at or after the slot it asks for. -/
inductive Granted : (before : SlotMap α) → List (Candidate α) → (after : SlotMap α) → Prop
  | nil {before} : Granted before [] before
  | cons {before c cs slot after} (hslot : IsFirstFree before (wanted c) slot)
      (h : Granted (before ++ [(slot, c)]) cs after) : Granted before (c :: cs) after

def grants (slots : SlotMap α) : List (Candidate α) → SlotMap α
  | [] => []
  | c :: cs =>
    let slot := slots.freeFrom slots.length (wanted c)
    (slot, c) :: grants (slots.put slot c) cs

def Ascending (slots : SlotMap α) : Prop := slots.Pairwise fun s t => s.1 < t.1

theorem wanted_le {c : Candidate α} {p : Pin} (h : c.pin = some p) :
    wanted c ≤ p.position := by
  rw [wanted, h]
  show max p.position 1 - 1 ≤ p.position
  omega

theorem isTaken_iff {slots : SlotMap α} {slot : Nat} :
    slots.isTaken slot = true ↔ slot ∈ slots.map (·.1) := by
  simp [isTaken, List.any_eq_true]

theorem IsFirstFree.of_perm {slots given : SlotMap α} {wish slot : Nat}
    (h : slots.IsFirstFree wish slot) (hperm : slots ~ given) : given.IsFirstFree wish slot := by
  have hmem (t : Nat) : t ∈ slots.map (·.1) ↔ t ∈ given.map (·.1) := (hperm.map _).mem_iff
  exact ⟨h.atOrAfter, fun hslot => h.free ((hmem slot).2 hslot),
    fun t hle hlt => (hmem t).1 (h.first t hle hlt)⟩

/-! ### The search -/

/-- A slot that is taken is one of those from it on, and not of those behind it. -/
theorem countP_behind_lt {slots : SlotMap α} {slot : Nat} (h : slot ∈ slots.map (·.1)) :
    slots.countP (fun s => slot + 1 ≤ s.1) < slots.countP (fun s => slot ≤ s.1) := by
  induction slots with
  | nil => cases h
  | cons s rest ih =>
      have hrest : rest.countP (fun s => slot + 1 ≤ s.1) ≤ rest.countP (fun s => slot ≤ s.1) := by
        refine List.countP_mono_left fun s _ hs => ?_
        rw [decide_eq_true_eq] at hs ⊢
        omega
      simp only [List.countP_cons, decide_eq_true_eq]
      rcases List.mem_cons.1 h with heq | hmem
      · have hslot : slot = s.1 := heq
        have hhere : slot ≤ s.1 := hslot.le
        have hbehind : ¬slot + 1 ≤ s.1 := by omega
        rw [if_pos hhere, if_neg hbehind]
        omega
      · have hlt := ih hmem
        split <;> split <;> omega

theorem isFirstFree_freeFrom {slots : SlotMap α} {steps wish : Nat}
    (hsteps : slots.countP (fun s => wish ≤ s.1) ≤ steps) :
    slots.IsFirstFree wish (slots.freeFrom steps wish) := by
  induction steps generalizing wish with
  | zero =>
      have hnone : ∀ s ∈ slots, ¬wish ≤ s.1 := by
        intro s hs
        have hcount := List.countP_eq_zero.1 (Nat.le_zero.1 hsteps) s hs
        simpa using hcount
      refine ⟨Nat.le_refl _, fun hmem => ?_, fun t hle hlt => absurd hle (Nat.not_le.2 hlt)⟩
      obtain ⟨s, hs, hslot⟩ := List.mem_map.1 hmem
      exact hnone s hs hslot.ge
  | succ steps ih =>
      rw [freeFrom]
      split
      · rename_i htaken
        have hmem := isTaken_iff.1 htaken
        have hfewer := countP_behind_lt hmem
        have hbehind : slots.countP (fun s => wish + 1 ≤ s.1) ≤ steps := by omega
        obtain ⟨hafter, hfree, hfirst⟩ := ih hbehind
        refine ⟨by omega, hfree, fun t hle hlt => ?_⟩
        rcases Nat.eq_or_lt_of_le hle with rfl | hlater
        · exact hmem
        · exact hfirst t hlater hlt
      · rename_i hfree
        exact ⟨Nat.le_refl _, fun hmem => hfree (isTaken_iff.2 hmem),
          fun t hle hlt => absurd hle (Nat.not_le.2 hlt)⟩

theorem freeFrom_le (slots : SlotMap α) (steps wish : Nat) :
    slots.freeFrom steps wish ≤ wish + steps := by
  induction steps generalizing wish with
  | zero => exact Nat.le_refl _
  | succ steps ih =>
      rw [freeFrom]
      split
      · calc slots.freeFrom steps (wish + 1) ≤ wish + 1 + steps := ih _
          _ = wish + (steps + 1) := by omega
      · exact Nat.le_add_right _ _

/-! ### The map -/

theorem ascending_put {slots : SlotMap α} {slot : Nat} {c : Candidate α} (h : Ascending slots)
    (hfree : slot ∉ slots.map (·.1)) : Ascending (slots.put slot c) := by
  induction slots with
  | nil => exact List.pairwise_singleton _ _
  | cons s rest ih =>
      obtain ⟨hs, hrest⟩ := List.pairwise_cons.1 h
      rw [List.map_cons, List.mem_cons, not_or] at hfree
      rw [put]
      split
      · rename_i hlt
        refine List.pairwise_cons.2 ⟨fun t ht => ?_, h⟩
        rcases List.mem_cons.1 ht with rfl | ht
        · exact hlt
        · exact Nat.lt_trans hlt (hs t ht)
      · rename_i hnlt
        refine List.pairwise_cons.2 ⟨fun t ht => ?_, ih hrest hfree.2⟩
        rcases List.mem_cons.1 ((put_perm slot c rest).subset ht) with rfl | ht
        · show s.1 < slot
          omega
        · exact hs t ht

theorem isFirstFree_assigned (slots : SlotMap α) (c : Candidate α) :
    slots.IsFirstFree (wanted c) (slots.freeFrom slots.length (wanted c)) :=
  isFirstFree_freeFrom List.countP_le_length

theorem ascending_foldl_assign (cs : List (Candidate α)) {slots : SlotMap α}
    (h : Ascending slots) : Ascending (cs.foldl assign slots) := by
  induction cs generalizing slots with
  | nil => exact h
  | cons c rest ih => exact ih (ascending_put h (slots.isFirstFree_assigned c).free)

/-- The map that candidates have been assigned to holds what they have got in turn. -/
theorem foldl_assign_perm (slots : SlotMap α) (cs : List (Candidate α)) :
    cs.foldl assign slots ~ slots ++ slots.grants cs := by
  induction cs generalizing slots with
  | nil => rw [grants, List.append_nil]; rfl
  | cons c rest ih =>
      calc rest.foldl assign (slots.assign c)
          ~ slots.assign c ++ (slots.assign c).grants rest := ih _
        _ ~ ((_, c) :: slots) ++ (slots.assign c).grants rest := (put_perm _ c slots).append_right _
        _ ~ slots ++ slots.grants (c :: rest) := List.perm_middle.symm

theorem map_snd_grants (slots : SlotMap α) (cs : List (Candidate α)) :
    (slots.grants cs).map (·.2) = cs := by
  induction cs generalizing slots with
  | nil => rfl
  | cons c rest ih => rw [grants, List.map_cons, ih]

theorem put_perm_snoc {slots before : SlotMap α} (hperm : slots ~ before) (slot : Nat)
    (c : Candidate α) : slots.put slot c ~ before ++ [(slot, c)] :=
  ((put_perm slot c slots).trans (hperm.cons _)).trans (List.perm_append_singleton _ _).symm

theorem granted_grants (cs : List (Candidate α)) {slots before : SlotMap α}
    (hperm : slots ~ before) : Granted before cs (before ++ slots.grants cs) := by
  induction cs generalizing slots before with
  | nil =>
      rw [grants, List.append_nil]
      exact .nil
  | cons c rest ih =>
      have hrest := ih (put_perm_snoc hperm (slots.freeFrom slots.length (wanted c)) c)
      rw [List.append_assoc, List.singleton_append] at hrest
      exact .cons ((slots.isFirstFree_assigned c).of_perm hperm) hrest

/-- No slot is further behind the one asked for than there are candidates. -/
theorem forall_lt_foldl_assign {cs : List (Candidate α)} {slots : SlotMap α} {limit : Nat}
    (hslots : ∀ s ∈ slots, s.1 < limit)
    (hwanted : ∀ c ∈ cs, wanted c + (slots.length + cs.length) ≤ limit) :
    ∀ s ∈ cs.foldl assign slots, s.1 < limit := by
  induction cs generalizing slots with
  | nil => exact hslots
  | cons c rest ih =>
      obtain ⟨hc, hrest⟩ := List.forall_mem_cons.1 hwanted
      rw [List.length_cons] at hc
      have hput := put_perm (slots.freeFrom slots.length (wanted c)) c slots
      have hlength : (slots.assign c).length = slots.length + 1 := hput.length_eq
      refine ih (fun s hs => ?_) fun x hx => ?_
      · rcases List.mem_cons.1 (hput.subset hs) with rfl | hs
        · have hle := slots.freeFrom_le slots.length (wanted c)
          show slots.freeFrom slots.length (wanted c) < limit
          omega
        · exact hslots s hs
      · have hx := hrest x hx
        rw [List.length_cons] at hx
        omega

end SlotMap

end Recommendation
