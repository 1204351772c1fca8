import Mathlib.Algebra.Ring.Nat
import Mathlib.Data.List.Induction
import Recommendation.Proofs.Diversity.Slots
import Recommendation.Proofs.Orders

/-!
Where pins stand in the list. No place is filled while a slot in front of it waits, so
pins come up in the order of their slots. As long as an unpinned candidate can be had, a
pin waits for its slot; once a pin has moved up, there is none left, and only pins follow.
-/

namespace Recommendation

open scoped List

variable {α : Type}

/-- At place `i` of the list stands the candidate, a pin behind `n` other pins. -/
structure IsPinAt (list : List (Candidate α)) (n i : Nat) (c : Candidate α) : Prop where
  here : list[i]? = some c
  pinned : c.pin.isSome
  behind : (list.take i).countP (·.pin.isSome) = n

section Places

variable {list : List (Candidate α)} {n i : Nat} {c x : Candidate α}

theorem isPinAt_snoc_iff : IsPinAt (list ++ [x]) n i c ↔
    IsPinAt list n i c ∨
      i = list.length ∧ c = x ∧ x.pin.isSome ∧ list.countP (·.pin.isSome) = n := by
  constructor
  · rintro ⟨hhere, hpinned, hbehind⟩
    rcases Nat.lt_trichotomy i list.length with hlt | rfl | hgt
    · rw [List.getElem?_append_left hlt] at hhere
      rw [List.take_append_of_le_length hlt.le] at hbehind
      exact .inl ⟨hhere, hpinned, hbehind⟩
    · rw [List.getElem?_concat_length, Option.some_inj] at hhere
      rw [List.take_left] at hbehind
      subst hhere
      exact .inr ⟨rfl, rfl, hpinned, hbehind⟩
    · have hout : (list ++ [x]).length ≤ i := by
        rw [List.length_append, List.length_singleton]
        exact hgt
      rw [List.getElem?_eq_none hout] at hhere
      cases hhere
  · rintro (⟨hhere, hpinned, hbehind⟩ | ⟨rfl, rfl, hpinned, hbehind⟩)
    · have hlt : i < list.length := (List.getElem?_eq_some_iff.1 hhere).1
      refine ⟨?_, hpinned, ?_⟩
      · rw [List.getElem?_append_left hlt, hhere]
      · rw [List.take_append_of_le_length hlt.le, hbehind]
    · refine ⟨List.getElem?_concat_length, hpinned, ?_⟩
      rw [List.take_left, hbehind]

theorem exists_isPinAt (h : n < list.countP (·.pin.isSome)) : ∃ i c, IsPinAt list n i c := by
  -- On the list from its end, where the last pin has all others in front of it.
  induction list using List.reverseRecOn with
  | nil => cases h
  | append_singleton list x ih =>
      by_cases hn : n < list.countP (·.pin.isSome)
      · obtain ⟨i, c, hpin⟩ := ih hn
        exact ⟨i, c, isPinAt_snoc_iff.2 (.inl hpin)⟩
      · rw [List.countP_append, List.countP_singleton] at h
        split at h
        · rename_i hpinned
          exact ⟨list.length, x, isPinAt_snoc_iff.2 (.inr ⟨rfl, rfl, hpinned, by omega⟩)⟩
        · omega

end Places

/-- The pins of the list stand by their slots, which are given in ascending order. -/
structure PlacedBySlot (slots : SlotMap α) (k : Nat) (list : List (Candidate α)) : Prop where
  /-- The pins of the list are the first ones in the order of slots. -/
  inOrder : list.filter (·.pin.isSome) <+: slots.map (·.2)
  /-- A pin with a slot in the list is there, at its slot or in front of it. -/
  present : ∀ n slot c, slots[n]? = some (slot, c) → slot < k →
    ∃ i, i ≤ slot ∧ IsPinAt list n i c
  /-- No pin stands behind its slot, and only pins stand behind one in front of its slot. -/
  early : ∀ n i c, IsPinAt list n i c → ∃ slot, slots[n]? = some (slot, c) ∧ i ≤ slot ∧
    (i < slot → ∀ x ∈ list.drop i, x.pin.isSome)
  /-- A pin with an unpinned candidate behind it stands at its slot. -/
  settled : ∀ n i c x, IsPinAt list n i c → x ∈ list.drop i → x.pin = none →
    slots[n]? = some (i, c)

/-! ### What steps keep -/

def Filling.list (s : Filling α) : List (Candidate α) := s.chosen.map (·.candidate)

theorem Filling.length_list (s : Filling α) : s.list.length = s.chosen.length :=
  List.length_map _

/-- Of the slots in ascending order the first ones have come up and the others are ahead. -/
structure Filling.Seated (slots : SlotMap α) (s : Filling α) : Prop where
  pinned : ∀ entry ∈ s.slots, entry.2.pin.isSome
  unpinned : ∀ x ∈ s.remaining, x.candidate.pin = none
  ascending : SlotMap.Ascending s.slots
  ahead : ∀ entry ∈ s.slots, s.list.length ≤ entry.1
  inOrder : ∃ placed, slots = placed ++ s.slots ∧
    s.list.filter (·.pin.isSome) = placed.map (·.2)
  early : ∀ n i c, IsPinAt s.list n i c → ∃ slot, slots[n]? = some (slot, c) ∧ i ≤ slot ∧
    (i < slot → s.remaining = [] ∧ ∀ x ∈ s.list.drop i, x.pin.isSome)

/-- A slot that comes up when no slot in front of it waits is the first of those that wait. -/
theorem SlotMap.eq_cons_of_find? {slots : SlotMap α} {place slot : Nat} {c : Candidate α}
    (hasc : Ascending slots) (hahead : ∀ entry ∈ slots, place ≤ entry.1)
    (h : (slots.find? fun s => s.1 == place) = some (slot, c)) :
    slot = place ∧ slots = (slot, c) :: slots.filter fun s => s.1 != slot := by
  have hplace : slot = place := by simpa using List.find?_some h
  have hmem := List.mem_of_find?_eq_some h
  refine ⟨hplace, ?_⟩
  cases slots with
  | nil => cases hmem
  | cons first rest =>
      obtain ⟨hfirst, -⟩ := List.pairwise_cons.1 hasc
      have hhead : first = (slot, c) := by
        rcases List.mem_cons.1 hmem with heq | hlater
        · exact heq.symm
        · have hlt : first.1 < slot := hfirst _ hlater
          have hle : place ≤ first.1 := hahead first List.mem_cons_self
          omega
      subst hhead
      have hrest : (rest.filter fun s => s.1 != slot) = rest := by
        refine List.filter_eq_self.2 fun s hs => ?_
        have hlt : slot < s.1 := hfirst s hs
        simpa using hlt.ne'
      rw [List.filter_cons_of_neg (by simp), hrest]

namespace Filling.Seated

variable {slots : SlotMap α} {s s' : Filling α} {slot k : Nat} {c x : Candidate α}

/-- The pin that comes up next is the one behind as many pins as the list has. -/
theorem getElem?_next (hs : s.Seated slots) (hslots : s.slots = (slot, c) :: s'.slots) :
    slots[s.list.countP (·.pin.isSome)]? = some (slot, c) := by
  obtain ⟨placed, hsplit, hplaced⟩ := hs.inOrder
  have hcount : s.list.countP (·.pin.isSome) = placed.length := by
    rw [List.countP_eq_length_filter, hplaced, List.length_map]
  rw [hsplit, hslots, hcount, List.getElem?_append_right (Nat.le_refl _), Nat.sub_self]
  rfl

theorem seat_pin (hs : s.Seated slots) (hslots : s.slots = (slot, c) :: s'.slots)
    (hlist : s'.list = s.list ++ [c])
    (hremaining : s'.remaining = [] ∨ slot = s.list.length ∧ s'.remaining = s.remaining) :
    s'.Seated slots := by
  have hnext := hs.getElem?_next hslots
  obtain ⟨hpinned, hunpinned, hascending, hahead, ⟨placed, hsplit, hplaced⟩, hearly⟩ := hs
  rw [hslots] at hpinned hascending hahead hsplit
  obtain ⟨hc, hlater⟩ := List.forall_mem_cons.1 hpinned
  obtain ⟨hbehind, hascending⟩ := List.pairwise_cons.1 hascending
  have hplace : s.list.length ≤ slot := hahead _ List.mem_cons_self
  refine ⟨hlater, ?_, hascending, fun entry hentry => ?_, ⟨placed ++ [(slot, c)], ?_, ?_⟩,
    fun n i y hpin => ?_⟩
  · rcases hremaining with hnone | ⟨-, hsame⟩
    · rw [hnone]
      exact List.forall_mem_nil _
    · rw [hsame]
      exact hunpinned
  · have hlt : slot < entry.1 := hbehind entry hentry
    rw [hlist, List.length_append, List.length_singleton]
    omega
  · rw [hsplit, List.append_assoc, List.singleton_append]
  · rw [hlist, List.filter_append, hplaced, List.map_append]
    simp [hc]
  · rw [hlist] at hpin ⊢
    rcases isPinAt_snoc_iff.1 hpin with hpin | ⟨rfl, rfl, -, rfl⟩
    · obtain ⟨slot', hslot', hle, hbefore⟩ := hearly n i y hpin
      refine ⟨slot', hslot', hle, fun hlt => ?_⟩
      obtain ⟨hnone, hpins⟩ := hbefore hlt
      have hi : i ≤ s.list.length := (List.getElem?_eq_some_iff.1 hpin.here).1.le
      refine ⟨hremaining.elim id fun hsame => hsame.2.trans hnone, ?_⟩
      rw [List.drop_append_of_le_length hi]
      exact List.forall_mem_append.2 ⟨hpins, List.forall_mem_singleton.2 hc⟩
    · refine ⟨slot, hnext, hplace, fun hlt => ⟨?_, ?_⟩⟩
      · exact hremaining.resolve_right fun hsame => hlt.ne hsame.1.symm
      · rw [List.drop_left]
        exact List.forall_mem_singleton.2 hc

/-- An unpinned candidate is seated only while no pin has moved up. -/
theorem seat_unpinned (hs : s.Seated slots) (hx : x.pin = none) (hlist : s'.list = s.list ++ [x])
    (hslots : s'.slots = s.slots) (hsome : s.remaining ≠ [])
    (hothers : ∀ y ∈ s'.remaining, y ∈ s.remaining)
    (hfree : ∀ entry ∈ s.slots, entry.1 ≠ s.list.length) : s'.Seated slots := by
  obtain ⟨hpinned, hunpinned, hascending, hahead, ⟨placed, hsplit, hplaced⟩, hearly⟩ := hs
  rw [← hslots] at hpinned hascending hahead hfree hsplit
  refine ⟨hpinned, fun y hy => hunpinned y (hothers y hy), hascending, fun entry hentry => ?_,
    ⟨placed, hsplit, ?_⟩, fun n i y hpin => ?_⟩
  · have hle := hahead entry hentry
    have hne := hfree entry hentry
    rw [hlist, List.length_append, List.length_singleton]
    omega
  · rw [hlist, List.filter_append, hplaced]
    simp [hx]
  · rw [hlist] at hpin
    rcases isPinAt_snoc_iff.1 hpin with hpin | ⟨-, -, hpinned, -⟩
    · obtain ⟨slot, hslot, hle, hbefore⟩ := hearly n i y hpin
      exact ⟨slot, hslot, hle, fun hlt => absurd (hbefore hlt).1 hsome⟩
    · rw [hx] at hpinned
      cases hpinned

theorem placedBySlot (hs : s.Seated slots)
    (hend : s.list.length = k ∨ s.slots = []) : PlacedBySlot slots k s.list := by
  obtain ⟨placed, hsplit, hplaced⟩ := hs.inOrder
  refine ⟨?_, fun n slot c hslot hlt => ?_, fun n i c hpin => ?_, fun n i c x hpin hx hnone => ?_⟩
  · rw [hplaced, hsplit, List.map_append]
    exact List.prefix_append _ _
  · -- A slot in the list does not wait, so its pin is one of those that have come up.
    have hcome : n < placed.length := by
      refine Decidable.byContradiction fun hwaits => ?_
      rw [hsplit, List.getElem?_append_right (Nat.le_of_not_lt hwaits)] at hslot
      have hmem := List.mem_of_getElem? hslot
      rcases hend with hfull | hempty
      · have hahead := hs.ahead _ hmem
        simp only at hahead
        omega
      · rw [hempty] at hmem
        cases hmem
    have hcount : n < s.list.countP (·.pin.isSome) := by
      rw [List.countP_eq_length_filter, hplaced, List.length_map]
      exact hcome
    obtain ⟨i, y, hpin⟩ := exists_isPinAt hcount
    obtain ⟨slot', hslot', hle, -⟩ := hs.early n i y hpin
    cases hslot.symm.trans hslot'
    exact ⟨i, hle, hpin⟩
  · obtain ⟨slot, hslot, hle, hearly⟩ := hs.early n i c hpin
    exact ⟨slot, hslot, hle, fun hlt => (hearly hlt).2⟩
  · obtain ⟨slot, hslot, hle, hearly⟩ := hs.early n i c hpin
    rcases Nat.eq_or_lt_of_le hle with rfl | hlt
    · exact hslot
    · have hpinned := (hearly hlt).2 x hx
      rw [hnone] at hpinned
      cases hpinned

end Filling.Seated

section Steps

variable [Score α] {d : Diversity α} {items : Dictionary Item} {largest : α} {places : Nat}
  {slots : SlotMap α} {s s' : Filling α}

/-- A step seats the pin that is next, at its slot or when nothing else is left, or an unpinned
candidate where there is no slot. -/
theorem FillStep.seat_cases (h : FillStep d items largest s s') (hs : s.Seated slots) :
    (∃ slot c, s.slots = (slot, c) :: s'.slots ∧ s'.list = s.list ++ [c] ∧
      (s'.remaining = [] ∨ slot = s.list.length ∧ s'.remaining = s.remaining)) ∨
    ∃ x, x.pin = none ∧ s'.list = s.list ++ [x] ∧ s'.slots = s.slots ∧ s.remaining ≠ [] ∧
      (∀ y ∈ s'.remaining, y ∈ s.remaining) ∧ ∀ entry ∈ s.slots, entry.1 ≠ s.list.length := by
  have hlength := s.length_list
  cases h with
  | @slot slots' remaining chosen slot c hslot =>
      have hahead := hs.ahead
      rw [hlength] at hahead
      obtain ⟨hplace, hsplit⟩ := SlotMap.eq_cons_of_find? hs.ascending hahead hslot
      refine .inl ⟨slot, c, hsplit, List.map_append, .inr ⟨?_, rfl⟩⟩
      rw [hlength, hplace]
  | @pick slots' remaining chosen x others hslot hpick =>
      have hroom : ∀ y ∈ x :: others, y ∈ remaining := fun y hy =>
        (d.withRoom_sublist _ _).subset ((Diversity.perm_of_takeBest? hpick).subset hy)
      obtain ⟨hx, hothers⟩ := List.forall_mem_cons.1 hroom
      refine .inr ⟨x.candidate, hs.unpinned x hx, List.map_append, rfl, List.ne_nil_of_mem hx,
        hothers, fun entry hentry heq => ?_⟩
      rw [hlength] at heq
      have hnone := List.find?_eq_none.1 hslot entry hentry
      exact hnone (beq_iff_eq.2 heq)
  | @moveUp slot c later remaining chosen hslot hpick =>
      exact .inl ⟨slot, c, rfl, List.map_append, .inl rfl⟩

theorem FillStep.seated (h : FillStep d items largest s s') (hs : s.Seated slots) :
    s'.Seated slots := by
  rcases h.seat_cases hs with ⟨slot, c, hslots, hlist, hremaining⟩ |
    ⟨x, hx, hlist, hslots, hsome, hothers, hfree⟩
  · exact hs.seat_pin hslots hlist hremaining
  · exact hs.seat_unpinned hx hlist hslots hsome hothers hfree

/-! ### How runs end -/

theorem exists_fillStep (d : Diversity α) (items : Dictionary Item) (largest : α)
    (h : s.slots ≠ []) : ∃ s', FillStep d items largest s s' := by
  obtain ⟨slots, remaining, chosen⟩ := s
  cases hslot : slots.find? fun s => s.1 == chosen.length with
  | some entry => exact ⟨_, .slot hslot⟩
  | none =>
      cases hpick : Diversity.takeBest? (d.marginal largest chosen)
        (d.withRoom chosen remaining) with
      | some pick => exact ⟨_, .pick hslot hpick⟩
      | none =>
          cases slots with
          | nil => exact absurd rfl h
          | cons entry later => exact ⟨_, .moveUp hslot hpick⟩

/-- A run ends when all its places are filled or no slot is left. -/
theorem FillRun.full_or_empty (run : FillRun d items largest places s s') :
    s'.list.length = s.list.length + places ∨ s'.slots = [] := by
  rw [Filling.length_list, Filling.length_list]
  apply run.full_or_stuck.imp_right
  intro hstuck
  by_contra hslots
  obtain ⟨s'', hstep⟩ := exists_fillStep d items largest hslots
  exact hstuck s'' hstep

end Steps

/-! ### The list -/

namespace Diversity

variable [Score α] (d : Diversity α) (items : Dictionary Item)

theorem length_inTurn (cs : List (Candidate α)) :
    (inTurn cs).length = cs.countP (·.pin.isSome) := by
  rw [inTurn, (sortWith_perm _ _).length_eq, List.countP_eq_length_filter]

theorem mem_inTurn {cs : List (Candidate α)} {c : Candidate α} :
    c ∈ inTurn cs ↔ c ∈ cs ∧ c.pin.isSome := by
  rw [inTurn, mem_sortWith, List.mem_filter]

omit [Score α] in
theorem ascending_ofPinned (cs : List (Candidate α)) : SlotMap.Ascending (.ofPinned cs) :=
  SlotMap.ascending_foldl_assign cs .nil

theorem exists_granted_inTurn (cs : List (Candidate α)) :
    ∃ given, SlotMap.Granted [] (inTurn cs) given ∧ SlotMap.ofPinned (inTurn cs) ~ given ∧
      SlotMap.Ascending (.ofPinned (inTurn cs)) :=
  ⟨SlotMap.grants [] (inTurn cs), SlotMap.granted_grants _ (.refl []),
    SlotMap.foldl_assign_perm [] _, ascending_ofPinned _⟩

/-- There are slots enough if there are as many behind each position asked for as there are pins. -/
theorem overruns_eq_false (k : Nat) {cs : List (Candidate α)}
    (hbound : ∀ c ∈ cs, ∀ p, c.pin = some p →
      p.position + cs.countP (·.pin.isSome) < 2 ^ 64) : overruns k cs = false := by
  have hroom : ∀ c ∈ inTurn cs,
      SlotMap.wanted c + (([] : SlotMap α).length + (inTurn cs).length) ≤ 2 ^ 64 := by
    intro c hc
    obtain ⟨hmem, hpinned⟩ := mem_inTurn.1 hc
    obtain ⟨p, hp⟩ := Option.isSome_iff_exists.1 hpinned
    have hposition := hbound c hmem p hp
    have hwanted := SlotMap.wanted_le hp
    rw [length_inTurn, List.length_nil]
    omega
  have hslots := SlotMap.forall_lt_foldl_assign (List.forall_mem_nil _) hroom
  rw [overruns, SlotMap.isOverrun, Bool.and_eq_false_iff, List.any_eq_false]
  exact .inr fun s hs => by simpa using hslots s hs

theorem seated_start (cs : List (Candidate α)) :
    (d.start items cs).Seated (.ofPinned (inTurn cs)) := by
  refine ⟨fun entry hentry => d.isSome_pin_of_mem_slots items hentry, fun x hx => ?_,
    ascending_ofPinned _, fun _ _ => Nat.zero_le _, ⟨[], rfl, rfl⟩, fun n i c hpin => ?_⟩
  · obtain ⟨c, hc, rfl⟩ := List.mem_map.1 hx
    have hnone := (List.mem_filter.1 ((mem_sortWith _).1 hc)).2
    exact Option.isNone_iff_eq_none.1 hnone
  · cases hpin.here

theorem placedBySlot_list (k : Nat) (cs : List (Candidate α)) :
    PlacedBySlot (.ofPinned (inTurn cs)) k (d.list items k cs) := by
  obtain ⟨s, hrun, hlist⟩ := d.exists_run_list items k cs
  have hseated : s.Seated (.ofPinned (inTurn cs)) :=
    hrun.keeps (fun _ _ hstep => hstep.seated) (d.seated_start items cs)
  rw [hlist]
  exact hseated.placedBySlot
    (hrun.full_or_empty.imp_left fun hfull => hfull.trans (Nat.zero_add k))

/-- The slots are enough. Pins get the first free ones that they ask for, in turn, and the list places
them by their slots. -/
theorem pins_placed_by_slot [Std.TransCmp (Score.order (α := α))] (k : Nat) (cs : List (Candidate α))
    (hbound : ∀ c ∈ cs, ∀ p, c.pin = some p →
      p.position + cs.countP (·.pin.isSome) < 2 ^ 64) :
    overruns k cs = false ∧ (inTurn cs ~ cs.filter (·.pin.isSome) ∧
        (inTurn cs).Pairwise fun a b => (pinOrder a b).isLE) ∧
      ∃ given slots, SlotMap.Granted [] (inTurn cs) given ∧ slots ~ given ∧
        SlotMap.Ascending slots ∧ PlacedBySlot slots k (d.list items k cs) := by
  obtain ⟨given, hgranted, hperm, hasc⟩ := exists_granted_inTurn cs
  exact ⟨overruns_eq_false k hbound, ⟨sortWith_perm _ _, pairwise_sortWith pinOrder _⟩, given, _,
    hgranted, hperm, hasc, d.placedBySlot_list items k cs⟩

def byRelevance : Diversity Float :=
  { balance := 1.0, brandCap := 0, categoryCap := 0
    starts := { brand := ["brand:"], category := ["category:"] } }

/-- Two pins want the second place, and one wants a place that the list does not come to. -/
def crowdedPins : List (Candidate Float) :=
  [.scored "u" 3.0, { Candidate.scored "a" 2.0 with pin := some ⟨2, 0⟩ },
    { Candidate.scored "b" 1.0 with pin := some ⟨2, 5⟩ }, .scored "v" 2.0,
    { Candidate.scored "c" 9.0 with pin := some ⟨9, 7⟩ }]

theorem pins_placed_by_slot_crowdedPins :
    (∀ c ∈ crowdedPins, ∀ p, c.pin = some p →
      p.position + crowdedPins.countP (·.pin.isSome) < 2 ^ 64) ∧
    (byRelevance.list .empty 5 crowdedPins).map (·.id) = ["u", "b", "a", "v", "c"] ∧
    ∃ given slots, SlotMap.Granted [] (inTurn crowdedPins) given ∧ slots ~ given ∧
      SlotMap.Ascending slots ∧ PlacedBySlot slots 5 (byRelevance.list .empty 5 crowdedPins) := by
  have hcount : crowdedPins.countP (·.pin.isSome) = 3 := by decide
  have hposition : ∀ c ∈ crowdedPins, ∀ p ∈ c.pin, p.position ≤ 9 := by decide
  have hbound : ∀ c ∈ crowdedPins, ∀ p, c.pin = some p →
      p.position + crowdedPins.countP (·.pin.isSome) < 2 ^ 64 := by
    intro c hc p hp
    have hp := hposition c hc p hp
    rw [hcount]
    omega
  refine ⟨hbound, by decide +kernel, ?_⟩
  exact (byRelevance.pins_placed_by_slot .empty 5 crowdedPins hbound).2.2

end Diversity

end Recommendation
