import Recommendation.Proofs.Diversity.Pins

/-!
Pins that ask for the last slots. In turn each pin gets the slot it asks for, or the one right behind
the pin before it, so slots ascend in turn. How far they go depends on the places that are asked for
and on how many pins ask for each of them or a later one. If they go past the last slot that can be
counted, the search breaks down.
-/

namespace Recommendation

open scoped List

variable {α : Type}

namespace SlotMap

/-- The slot behind the last one given when candidates ask in turn and none before `end_` is free. -/
def endOfTurn (end_ : Nat) (cs : List (Candidate α)) : Nat :=
  cs.foldl (fun e c => max (wanted c) e + 1) end_

variable {slots before : SlotMap α} {c : Candidate α} {cs : List (Candidate α)}
  {wish slot limit end_ : Nat}

theorem isOverrun_eq_false_iff : slots.isOverrun = false ↔ ∀ s ∈ slots, s.1 < 2 ^ 64 := by
  simp [isOverrun, List.any_eq_false]

theorem IsFirstFree.unique {other : Nat} (h : slots.IsFirstFree wish slot)
    (hother : slots.IsFirstFree wish other) : slot = other := by
  rcases Nat.lt_trichotomy slot other with hlt | heq | hgt
  · exact absurd (hother.first slot h.atOrAfter hlt) h.free
  · exact heq
  · exact absurd (h.first other hother.atOrAfter hgt) hother.free

/-- Behind the slots given so far all is free, and from the slot asked for up to them nothing is. -/
structure FilledTo (before : SlotMap α) (wish end_ : Nat) : Prop where
  ascending : Ascending before
  below : ∀ s ∈ before, s.1 < end_
  full : ∀ t, wish ≤ t → t < end_ → t ∈ before.map (·.1)

namespace FilledTo

theorem start : FilledTo ([] : SlotMap α) 0 0 :=
  ⟨.nil, List.forall_mem_nil _, fun t _ hlt => absurd hlt (Nat.not_lt_zero t)⟩

theorem isFirstFree (h : FilledTo before wish end_) (hle : wish ≤ wanted c) :
    before.IsFirstFree (wanted c) (max (wanted c) end_) := by
  refine ⟨Nat.le_max_left _ _, fun hmem => ?_, fun t hafter hlt => h.full t (by omega) (by omega)⟩
  obtain ⟨s, hs, hslot⟩ := List.mem_map.1 hmem
  have hbelow := h.below s hs
  omega

theorem next (h : FilledTo before wish end_) (hle : wish ≤ wanted c) :
    FilledTo (before ++ [(max (wanted c) end_, c)]) (wanted c) (max (wanted c) end_ + 1) := by
  refine ⟨List.pairwise_append.2 ⟨h.ascending, List.pairwise_singleton _ _, ?_⟩, ?_, ?_⟩
  · intro s hs t ht
    have hbelow := h.below s hs
    rw [List.mem_singleton.1 ht]
    show s.1 < max (wanted c) end_
    omega
  · refine List.forall_mem_append.2 ⟨fun s hs => ?_, List.forall_mem_singleton.2 (Nat.lt_succ_self _)⟩
    have hbelow := h.below s hs
    omega
  · intro t hafter hlt
    rw [List.map_append, List.mem_append]
    rcases Nat.eq_or_lt_of_le (Nat.le_of_lt_succ hlt) with rfl | hlt
    · exact .inr List.mem_cons_self
    · exact .inl (h.full t (by omega) (by omega))

theorem freeFrom_eq (h : FilledTo before wish end_) (hle : wish ≤ wanted c)
    (hperm : slots ~ before) : slots.freeFrom slots.length (wanted c) = max (wanted c) end_ :=
  (slots.isFirstFree_assigned c).unique ((h.isFirstFree hle).of_perm hperm.symm)

end FilledTo

theorem le_endOfTurn (end_ : Nat) (cs : List (Candidate α)) : end_ ≤ endOfTurn end_ cs := by
  induction cs generalizing end_ with
  | nil => exact Nat.le_refl _
  | cons c rest ih =>
      calc end_ ≤ max (wanted c) end_ + 1 := by omega
        _ ≤ endOfTurn (max (wanted c) end_ + 1) rest := ih _

theorem ascending_grants (hperm : slots ~ before) (h : FilledTo before wish end_)
    (hwish : ∀ c ∈ cs, wish ≤ wanted c) (hsorted : cs.Pairwise fun a b => wanted a ≤ wanted b) :
    Ascending (before ++ slots.grants cs) := by
  induction cs generalizing slots before wish end_ with
  | nil =>
      rw [grants, List.append_nil]
      exact h.ascending
  | cons c rest ih =>
      obtain ⟨hc, -⟩ := List.forall_mem_cons.1 hwish
      obtain ⟨hlater, hrest⟩ := List.pairwise_cons.1 hsorted
      have hasc := ih (put_perm_snoc hperm (max (wanted c) end_) c) (h.next hc) hlater hrest
      rw [grants, h.freeFrom_eq hc hperm]
      rwa [List.append_assoc, List.singleton_append] at hasc

/-- They stay below a limit if and only if the turn ends there. -/
theorem forall_lt_grants_iff (hperm : slots ~ before) (h : FilledTo before wish end_)
    (hwish : ∀ c ∈ cs, wish ≤ wanted c) (hsorted : cs.Pairwise fun a b => wanted a ≤ wanted b)
    (hend : end_ ≤ limit) : (∀ s ∈ slots.grants cs, s.1 < limit) ↔ endOfTurn end_ cs ≤ limit := by
  induction cs generalizing slots before wish end_ with
  | nil => exact iff_of_true (List.forall_mem_nil _) hend
  | cons c rest ih =>
      obtain ⟨hc, -⟩ := List.forall_mem_cons.1 hwish
      obtain ⟨hlater, hrest⟩ := List.pairwise_cons.1 hsorted
      have hsteps : endOfTurn end_ (c :: rest) = endOfTurn (max (wanted c) end_ + 1) rest := rfl
      rw [grants, h.freeFrom_eq hc hperm, List.forall_mem_cons, hsteps]
      by_cases hroom : max (wanted c) end_ < limit
      · rw [and_iff_right hroom]
        exact ih (put_perm_snoc hperm _ c) (h.next hc) hlater hrest hroom
      · have hpast := le_endOfTurn (max (wanted c) end_ + 1) rest
        exact iff_of_false (fun hall => hroom hall.1) (by omega)

/-- The first in turn has all others behind the slot that it asks for, or at it. -/
theorem countP_wanted_cons (h : ∀ x ∈ cs, wanted c ≤ wanted x) :
    (c :: cs).countP (fun x => wanted c ≤ wanted x) = cs.length + 1 := by
  rw [← List.length_cons (a := c), List.countP_eq_length]
  refine List.forall_mem_cons.2 ⟨by simp, fun x hx => ?_⟩
  simpa using h x hx

/-- For every candidate there is room behind the slot that it asks for, for itself and all those
that ask for that slot or a later one. -/
theorem endOfTurn_le_iff (hsorted : cs.Pairwise fun a b => wanted a ≤ wanted b) :
    endOfTurn end_ cs ≤ limit ↔ end_ + cs.length ≤ limit ∧
      ∀ c ∈ cs, wanted c + cs.countP (fun x => wanted c ≤ wanted x) ≤ limit := by
  induction cs generalizing end_ with
  | nil => simp [endOfTurn]
  | cons c rest ih =>
      obtain ⟨hlater, hrest⟩ := List.pairwise_cons.1 hsorted
      have hhere := countP_wanted_cons hlater
      have hsteps : endOfTurn end_ (c :: rest) = endOfTurn (max (wanted c) end_ + 1) rest := rfl
      rw [hsteps, ih hrest, List.forall_mem_cons, hhere, List.length_cons]
      constructor
      · rintro ⟨hroom, hbehind⟩
        refine ⟨by omega, by omega, fun x hx => ?_⟩
        have hx' := hbehind x hx
        have hle := hlater x hx
        rw [List.countP_cons]
        split
        · -- A candidate that asks for the same slot as the first has as many behind it.
          rename_i hback
          rw [decide_eq_true_eq] at hback
          have hcount : rest.countP (fun y => wanted x ≤ wanted y) ≤ rest.length :=
            List.countP_le_length
          omega
        · omega
      · rintro ⟨hend, hfirst, hbehind⟩
        refine ⟨by omega, fun x hx => ?_⟩
        have hx' := hbehind x hx
        rw [List.countP_cons] at hx'
        omega

theorem endOfTurn_zero_le_iff (hsorted : cs.Pairwise fun a b => wanted a ≤ wanted b) :
    endOfTurn 0 cs ≤ limit ↔
      ∀ c ∈ cs, wanted c + cs.countP (fun x => wanted c ≤ wanted x) ≤ limit := by
  rw [endOfTurn_le_iff hsorted, and_iff_right_iff_imp]
  intro hroom
  cases cs with
  | nil => exact Nat.zero_le _
  | cons c rest =>
      have hfirst := hroom c List.mem_cons_self
      rw [countP_wanted_cons (List.pairwise_cons.1 hsorted).1] at hfirst
      rw [List.length_cons]
      omega

end SlotMap

namespace Diversity

variable [Score α]

/-- Behind the slot that a pin asks for there is room for it and for all pins that ask for that slot
or a later one. -/
def PinsFit (cs : List (Candidate α)) : Prop :=
  ∀ c ∈ cs, c.pin.isSome → SlotMap.wanted c +
    cs.countP (fun x => x.pin.isSome && SlotMap.wanted c ≤ SlotMap.wanted x) ≤ 2 ^ 64

theorem wanted_le_of_pinOrder {a b : Candidate α} (h : (pinOrder a b).isLE = true) :
    SlotMap.wanted a ≤ SlotMap.wanted b := by
  have hposition : (a.pin.map (·.position)).getD 0 ≤ (b.pin.map (·.position)).getD 0 :=
    Nat.isLE_compare.1 (Ordering.isLE_left_of_isLE_then (Ordering.isLE_left_of_isLE_then h))
  have hwanted (c : Candidate α) :
      SlotMap.wanted c = max ((c.pin.map (·.position)).getD 0) 1 - 1 := by
    cases hpin : c.pin <;> simp [SlotMap.wanted, hpin]
  rw [hwanted, hwanted]
  omega

variable [Std.TransCmp (Score.order (α := α))]

theorem pairwise_wanted_inTurn (cs : List (Candidate α)) :
    (inTurn cs).Pairwise fun a b => SlotMap.wanted a ≤ SlotMap.wanted b :=
  (pairwise_sortWith pinOrder _).imp wanted_le_of_pinOrder

theorem ascending_grants_inTurn (cs : List (Candidate α)) :
    SlotMap.Ascending (SlotMap.grants [] (inTurn cs)) :=
  SlotMap.ascending_grants (.refl []) .start (fun _ _ => Nat.zero_le _) (pairwise_wanted_inTurn cs)

theorem ofPinned_inTurn (cs : List (Candidate α)) :
    SlotMap.ofPinned (inTurn cs) = SlotMap.grants [] (inTurn cs) :=
  (SlotMap.foldl_assign_perm [] (inTurn cs)).eq_of_pairwise
    (fun _ _ _ _ hlt hgt => absurd hlt (Nat.lt_asymm hgt)) (ascending_ofPinned _)
    (ascending_grants_inTurn cs)

/-- The turn ends before the last slot if and only if the pins fit. -/
theorem endOfTurn_le_iff_fit (cs : List (Candidate α)) :
    SlotMap.endOfTurn 0 (inTurn cs) ≤ 2 ^ 64 ↔ PinsFit cs := by
  have hcount (c : Candidate α) :
      (inTurn cs).countP (fun x => SlotMap.wanted c ≤ SlotMap.wanted x) =
        cs.countP (fun x => x.pin.isSome && SlotMap.wanted c ≤ SlotMap.wanted x) := by
    rw [inTurn, (sortWith_perm _ _).countP_eq, List.countP_filter]
    exact List.countP_congr fun x _ => by rw [Bool.and_comm]
  rw [SlotMap.endOfTurn_zero_le_iff (pairwise_wanted_inTurn cs)]
  simp only [hcount, mem_inTurn, and_imp, PinsFit]

theorem overruns_iff (k : Nat) (cs : List (Candidate α)) :
    overruns k cs = true ↔ 0 < k ∧ ¬PinsFit cs := by
  have hslots : (∀ s ∈ SlotMap.grants [] (inTurn cs), s.1 < 2 ^ 64) ↔
      SlotMap.endOfTurn 0 (inTurn cs) ≤ 2 ^ 64 :=
    SlotMap.forall_lt_grants_iff (.refl []) .start (fun _ _ => Nat.zero_le _)
      (pairwise_wanted_inTurn cs) (Nat.zero_le _)
  rw [overruns, Bool.and_eq_true, decide_eq_true_eq, ofPinned_inTurn, ← endOfTurn_le_iff_fit,
    ← hslots, ← SlotMap.isOverrun_eq_false_iff, Bool.not_eq_false]

/-! ### The list -/

section List

variable (d : Diversity α) (items : Dictionary Item)

omit [Std.TransCmp (Score.order (α := α))] in
/-- A list with room for all candidates has all pins, in the order of their slots. -/
theorem pins_of_list_of_le {k : Nat} (hk : cs.length ≤ k) :
    (d.list items k cs).filter (·.pin.isSome) = (SlotMap.ofPinned (inTurn cs)).map (·.2) := by
  obtain ⟨s, hrun, hlist⟩ := d.exists_run_list items k cs
  have hseated : s.Seated (.ofPinned (inTurn cs)) :=
    hrun.keeps (fun _ _ hstep => hstep.seated) (d.seated_start items cs)
  obtain ⟨placed, hsplit, hplaced⟩ := hseated.inOrder
  have hslots : s.slots = [] := by
    rcases hrun.full_or_empty with hfull | hempty
    · have hsupply := (hrun.supply_subperm.trans (d.supply_start items cs).subperm).length_le
      have hstart : (d.start items cs).list.length = 0 := rfl
      rw [Filling.length_list] at hfull
      rw [hstart] at hfull
      simp only [Filling.supply, List.length_append, List.length_map] at hsupply
      exact List.eq_nil_of_length_eq_zero (by omega)
    · exact hempty
  rw [hlist]
  rw [hslots, List.append_nil] at hsplit
  rw [hsplit]
  exact hplaced

/-- The search for slots breaks down if and only if there is to be a list and the pins do not fit
before the last slot. Otherwise each pin is granted a slot of its own that can be counted, slots
ascend in turn, and the pins in the list stand by their slots and in turn. -/
theorem pins_in_turn_unless_overrun (k : Nat) (cs : List (Candidate α)) :
    (overruns k cs = true ↔ 0 < k ∧ ¬PinsFit cs) ∧
      (0 < k → overruns k cs = false →
        (∀ s ∈ SlotMap.grants [] (inTurn cs), s.1 < 2 ^ 64) ∧
          (SlotMap.grants [] (inTurn cs)).map (·.2) = inTurn cs ∧
          SlotMap.Granted [] (inTurn cs) (SlotMap.grants [] (inTurn cs)) ∧
          SlotMap.Ascending (SlotMap.grants [] (inTurn cs)) ∧
          PlacedBySlot (SlotMap.grants [] (inTurn cs)) k (d.list items k cs) ∧
          ((d.list items k cs).filter (·.pin.isSome)).Pairwise (fun a b => (pinOrder a b).isLE) ∧
          (d.list items k cs).filter (·.pin.isSome) <+: inTurn cs ∧
          (cs.length ≤ k → (d.list items k cs).filter (·.pin.isSome) = inTurn cs)) := by
  have hturn := SlotMap.map_snd_grants [] (inTurn cs)
  have hplaced := d.placedBySlot_list items k cs
  have hprefix := hplaced.inOrder
  rw [ofPinned_inTurn] at hplaced
  rw [ofPinned_inTurn, hturn] at hprefix
  refine ⟨overruns_iff k cs, fun hk hslots => ⟨?_, hturn, SlotMap.granted_grants _ (.refl []),
    ascending_grants_inTurn cs, hplaced, (pairwise_sortWith pinOrder _).sublist hprefix.sublist,
    hprefix, fun hlength => ?_⟩⟩
  · rw [overruns, decide_eq_true hk, Bool.true_and, ofPinned_inTurn] at hslots
    exact SlotMap.isOverrun_eq_false_iff.1 hslots
  · rw [d.pins_of_list_of_le items hlength, ofPinned_inTurn, hturn]

end List

theorem pins_in_turn_unless_overrun_crowdedPins :
    PinsFit crowdedPins ∧ overruns 5 crowdedPins = false ∧
      (byRelevance.list .empty 5 crowdedPins).filter (·.pin.isSome) = inTurn crowdedPins := by
  have hfit : PinsFit crowdedPins := by
    rw [PinsFit]
    decide
  obtain ⟨hiff, hturn⟩ := byRelevance.pins_in_turn_unless_overrun .empty 5 crowdedPins
  have hslots : overruns 5 crowdedPins = false :=
    Bool.eq_false_iff.2 fun hover => (hiff.1 hover).2 hfit
  obtain ⟨-, -, -, -, -, -, -, hall⟩ := hturn (by decide) hslots
  exact ⟨hfit, hslots, hall (by decide)⟩

/-- Three pins want the last place but one that can be asked for, and one wants the second. -/
def lastPins : List (Candidate Float) :=
  [{ Candidate.scored "a" 4.0 with pin := some ⟨2 ^ 64 - 1, 0⟩ },
    { Candidate.scored "b" 3.0 with pin := some ⟨2 ^ 64 - 1, 0⟩ },
    { Candidate.scored "c" 2.0 with pin := some ⟨2 ^ 64 - 1, 0⟩ },
    { Candidate.scored "d" 1.0 with pin := some ⟨2, 0⟩ }]

/-- The third of them comes past the last slot, and no list comes about. -/
theorem lastPins_overrun :
    (∀ c ∈ lastPins, ∀ p ∈ c.pin, p.position < 2 ^ 64) ∧
      (inTurn lastPins).map (·.id) = ["d", "a", "b", "c"] ∧
      (SlotMap.grants [] (inTurn lastPins)).map (·.1) =
        [1, 2 ^ 64 - 2, 2 ^ 64 - 1, 2 ^ 64] ∧
      overruns 4 lastPins = true :=
  ⟨by decide, by decide +kernel, by decide +kernel, by decide +kernel⟩

end Diversity

end Recommendation
