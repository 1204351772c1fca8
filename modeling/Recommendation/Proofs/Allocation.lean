import Mathlib.Data.List.Induction
import Recommendation.Proofs.Dictionary
import Recommendation.Proofs.RuleEffects

/-!
How pins get their slots. A grant is told by the place of its rule, among the rules in
the order in which they apply, and by the place of its item in the pool, so that rules
that are alike, or the same rule listed twice, are still told apart. Going through the
rules and the pool is a cursor that moves on over such pairs, and `Ledger` is what the
grants in front of the cursor satisfy: they are the pins given so far, the slots left
are those that they have not used, and every pair that the cursor has passed is settled.
-/

namespace Recommendation

/-! ### Slots left -/

namespace Slots

/-- When so many of the slots are used, these are left. -/
def Leaves (total : Slots) (used : Nat) (left : Slots) : Prop :=
  total = left.map (· + used)

variable {total left : Slots} {used n : Nat}

theorem leaves_all (total : Slots) : total.Leaves 0 total := by
  cases total <;> rfl

theorem Leaves.spend (h : total.Leaves used left) (hleft : left ≠ some 0) :
    total.Leaves (used + 1) left.spend := by
  rw [Leaves] at h ⊢
  subst h
  cases left with
  | none => rfl
  | some m =>
      have hpos : m ≠ 0 := by simpa using hleft
      simp only [Slots.spend, Option.map_some, Option.some_inj]
      omega

theorem Leaves.used_le (h : total.Leaves used left) (htotal : total = some n) : used ≤ n := by
  rw [Leaves, htotal] at h
  obtain ⟨m, -, hm⟩ := Option.map_eq_some_iff.1 h.symm
  omega

theorem Leaves.eq_of_spent (h : total.Leaves used left) (hleft : left = some 0) :
    total = some used := by
  rw [h, hleft]
  simp

end Slots

/-! ### Grants -/

/-- A slot that a rule has granted to an item, both told by their places. -/
structure Grant where
  rule : Nat
  entry : Nat

namespace Grant

/-- Grants go by their rules, and for one rule by their items. -/
def Precedes (g h : Grant) : Prop :=
  g.rule < h.rule ∨ g.rule = h.rule ∧ g.entry < h.entry

instance (g h : Grant) : Decidable (g.Precedes h) :=
  inferInstanceAs (Decidable (_ ∨ _ ∧ _))

def next (g : Grant) : Grant := { g with entry := g.entry + 1 }

variable {g h : Grant}

theorem precedes_next_iff : h.Precedes g.next ↔ h.Precedes g ∨ h = g := by
  obtain ⟨r, e⟩ := g
  obtain ⟨r', e'⟩ := h
  simp only [Precedes, next, Grant.mk.injEq]
  omega

end Grant

def Rule.AsksFor (rule : Rule) (starts : FacetStarts) (entry : PoolEntry) (position : Nat) :
    Prop :=
  rule.action = .pin position ∧ rule.target.covers starts entry.item = true ∧
    entry.pinnable = true

/-- The item has a slot from the rule or one before it, or the rule has used its own slots on
items in front, or all slots have been used by then. -/
def IsSettled (slots : Slots) (rule : Rule) (grants : List Grant) (here : Grant) : Prop :=
  (∃ g ∈ grants, g.entry = here.entry ∧ g.rule ≤ here.rule) ∨
    rule.maxPins = some (grants.countP fun g => g.rule = here.rule ∧ g.entry < here.entry) ∨
    slots = some (grants.countP fun g => g.Precedes here)

/-- What is settled is not touched by later grants. -/
theorem IsSettled.snoc {slots : Slots} {rule : Rule} {grants : List Grant} {here g : Grant}
    (h : IsSettled slots rule grants here) (hlater : here.Precedes g) :
    IsSettled slots rule (grants ++ [g]) here := by
  rw [Grant.Precedes] at hlater
  rcases h with ⟨g', hg', hhere⟩ | hown | hall
  · exact .inl ⟨g', List.mem_append_left _ hg', hhere⟩
  · refine .inr (.inl ?_)
    have hnot : ¬(g.rule = here.rule ∧ g.entry < here.entry) := by omega
    simp [List.countP_append, hown, hnot]
  · refine .inr (.inr ?_)
    have hnot : ¬g.Precedes here := by
      rw [Grant.Precedes]
      omega
    simp [List.countP_append, hall, hnot]

/-- The grants are the pins: each is one that its rule asks for, and no item has two. -/
structure Booked (starts : FacetStarts) (rules : List Rule) (pool : List PoolEntry)
    (pins : Dictionary Pin) (grants : List Grant) : Prop where
  inOrder : grants.Pairwise Grant.Precedes
  /-- A grant gives the place that its rule asks for and the rule's priority. -/
  asked : ∀ g ∈ grants, ∃ rule entry position, rules[g.rule]? = some rule ∧
    pool[g.entry]? = some entry ∧ rule.AsksFor starts entry position ∧
      pins.get? entry.item.id = some ⟨max position 1, rule.priority⟩
  granted : ∀ id pin, pins.get? id = some pin →
    ∃ g ∈ grants, ∃ entry, pool[g.entry]? = some entry ∧ entry.item.id = id
  size : pins.size = grants.length

/-- The pins have been given out rule by rule and item by item, as far as the slots go. -/
structure PinAllocation (starts : FacetStarts) (slots : Slots) (rules : List Rule)
    (pool : List PoolEntry) (pins : Dictionary Pin) (grants : List Grant) : Prop
    extends Booked starts rules pool pins grants where
  /-- There are no more grants than slots. -/
  total : ∀ n, slots = some n → grants.length ≤ n
  /-- No rule grants more than it may. -/
  own : ∀ i rule n, rules[i]? = some rule → rule.maxPins = some n →
    grants.countP (fun g => g.rule = i) ≤ n
  /-- Whoever asks gets a slot, unless there is none left. -/
  settled : ∀ here rule entry position, rules[here.rule]? = some rule →
    pool[here.entry]? = some entry → rule.AsksFor starts entry position →
      IsSettled slots rule grants here

/-- What a fold keeps from one place of the list to the next it keeps to the end. -/
theorem foldl_induction_at {β γ : Type} {f : β → γ → β} {motive : Nat → β → Prop} {b : β}
    {xs : List γ} (start : motive 0 b)
    (step : ∀ i x b, xs[i]? = some x → motive i b → motive (i + 1) (f b x)) :
    motive xs.length (xs.foldl f b) := by
  induction xs using List.reverseRecOn with
  | nil => exact start
  | append_singleton front x ih =>
      rw [List.foldl_append, List.length_append]
      apply step _ _ _ List.getElem?_concat_length
      apply ih
      intro i y b hy
      apply step
      rw [List.getElem?_append_left (List.getElem?_eq_some_iff.1 hy).1]
      exact hy

namespace Allocation

variable {α : Type} {starts : FacetStarts} {slots : Slots} {rules : List Rule}
  {pool : List PoolEntry} {rule : Rule} {entry : PoolEntry} {s s' : Allocation α}
  {grants : List Grant} {cursor : Grant}

theorem hasRoomFor_iff : s.hasRoomFor entry = true ↔ entry.pinnable = true ∧
    s.effects.pins.get? entry.item.id = none ∧ s.slots ≠ some 0 ∧ s.ruleSlots ≠ some 0 := by
  simp [hasRoomFor, Dictionary.contains, Slots.areSpent, and_assoc]

/-! ### The ledger -/

/-- What the grants in front of the cursor satisfy. -/
structure Ledger (starts : FacetStarts) (slots : Slots) (rules : List Rule)
    (pool : List PoolEntry) (cursor : Grant) (s : Allocation α) (grants : List Grant) : Prop
    extends Booked starts rules pool s.effects.pins grants where
  before : ∀ g ∈ grants, g.Precedes cursor
  slotsLeft : slots.Leaves grants.length s.slots
  own : ∀ i rule n, rules[i]? = some rule → rule.maxPins = some n →
    grants.countP (fun g => g.rule = i) ≤ n
  settled : ∀ here rule entry position, here.Precedes cursor → rules[here.rule]? = some rule →
    pool[here.entry]? = some entry → rule.AsksFor starts entry position →
      IsSettled slots rule grants here

def OwnSlots (rule : Rule) (cursor : Grant) (s : Allocation α) (grants : List Grant) : Prop :=
  Slots.Leaves rule.maxPins (grants.countP fun g => g.rule = cursor.rule) s.ruleSlots

/-- An item that could take a slot and gets none has one already, or the slots are used up. -/
theorem isSettled_of_no_room (hids : (pool.map (·.item.id)).Nodup)
    (h : Ledger starts slots rules pool cursor s grants) (hown : OwnSlots rule cursor s grants)
    (hentry : pool[cursor.entry]? = some entry) (hpinnable : entry.pinnable = true)
    (hroom : s.hasRoomFor entry = false) : IsSettled slots rule grants cursor := by
  have hbefore := h.before
  simp only [Grant.Precedes] at hbefore
  cases hpin : s.effects.pins.get? entry.item.id with
  | some pin =>
      -- Items are told apart by their identifiers, so the one that has the pin is this one.
      obtain ⟨g, hg, entry', hentry', hid⟩ := h.granted _ _ hpin
      have hcursor : cursor.entry < (pool.map (·.item.id)).length := by
        rw [List.length_map]
        exact (List.getElem?_eq_some_iff.1 hentry).1
      have hsame : cursor.entry = g.entry := by
        apply (List.getElem?_inj hcursor hids).1
        simp [hentry, hentry', hid]
      have hrule := hbefore g hg
      exact .inl ⟨g, hg, hsame.symm, by omega⟩
  | none =>
      by_cases hslots : s.slots = some 0
      · refine .inr (.inr ?_)
        rw [h.slotsLeft.eq_of_spent hslots, List.countP_eq_length.2 fun g hg => by
          simpa using h.before g hg]
      · have hruleSlots : s.ruleSlots = some 0 := by
          by_contra hleft
          rw [hasRoomFor_iff.2 ⟨hpinnable, hpin, hslots, hleft⟩] at hroom
          cases hroom
        refine .inr (.inl ?_)
        rw [Slots.Leaves.eq_of_spent hown hruleSlots, List.countP_congr fun g hg => ?_]
        have hrule := hbefore g hg
        simp only [decide_eq_true_eq]
        omega

theorem ledger_start : Ledger starts slots rules pool ⟨0, 0⟩ ({ slots } : Allocation α) [] where
  inOrder := .nil
  asked := nofun
  granted := nofun
  size := rfl
  before := nofun
  slotsLeft := slots.leaves_all
  own _ _ _ _ _ := Nat.zero_le _
  settled here _ _ _ hbefore := by
    simp [Grant.Precedes] at hbefore

theorem Ledger.grant {position : Nat} (h : Ledger starts slots rules pool cursor s grants)
    (hown : OwnSlots rule cursor s grants) (hrule : rules[cursor.rule]? = some rule)
    (hentry : pool[cursor.entry]? = some entry) (hasks : rule.AsksFor starts entry position)
    (hroom : s.hasRoomFor entry = true)
    (hpins : s'.effects.pins =
      s.effects.pins.insert entry.item.id ⟨max position 1, rule.priority⟩)
    (hslots : s'.slots = s.slots.spend) (hruleSlots : s'.ruleSlots = s.ruleSlots.spend) :
    Ledger starts slots rules pool cursor.next s' (grants ++ [cursor]) ∧
      OwnSlots rule cursor.next s' (grants ++ [cursor]) := by
  obtain ⟨-, hnone, hslotsLeft, hruleLeft⟩ := hasRoomFor_iff.1 hroom
  have hcount : (grants ++ [cursor]).countP (fun g => g.rule = cursor.rule) =
      grants.countP (fun g => g.rule = cursor.rule) + 1 := by
    simp [List.countP_append]
  have hownNext : OwnSlots rule cursor.next s' (grants ++ [cursor]) := by
    rw [OwnSlots, hruleSlots]
    show Slots.Leaves rule.maxPins
      ((grants ++ [cursor]).countP fun g => g.rule = cursor.rule) s.ruleSlots.spend
    rw [hcount]
    exact Slots.Leaves.spend hown hruleLeft
  refine ⟨{ inOrder := ?_, asked := ?_, granted := ?_, size := ?_, before := ?_,
            slotsLeft := ?_, own := ?_, settled := ?_ }, hownNext⟩
  · apply List.pairwise_append.2
    refine ⟨h.inOrder, List.pairwise_singleton _ _, ?_⟩
    simpa using h.before
  · intro g hg
    rcases List.mem_append.1 hg with hg | hg
    · obtain ⟨rule', entry', position', hrule', hentry', hasks', hpin⟩ := h.asked g hg
      refine ⟨rule', entry', position', hrule', hentry', hasks', ?_⟩
      have hother : entry'.item.id ≠ entry.item.id := by
        intro heq
        rw [heq, hnone] at hpin
        cases hpin
      rw [hpins, Dictionary.get?_insert, if_neg hother, hpin]
    · rw [List.mem_singleton] at hg
      subst hg
      refine ⟨rule, entry, position, hrule, hentry, hasks, ?_⟩
      rw [hpins, Dictionary.get?_insert, if_pos rfl]
  · intro id pin hpin
    rw [hpins, Dictionary.get?_insert] at hpin
    split at hpin
    · rename_i hid
      exact ⟨cursor, by simp, entry, hentry, hid.symm⟩
    · obtain ⟨g, hg, hgranted⟩ := h.granted id pin hpin
      exact ⟨g, List.mem_append_left _ hg, hgranted⟩
  · rw [hpins, Dictionary.size_insert hnone, h.size, List.length_append, List.length_singleton]
  · intro g hg
    apply Grant.precedes_next_iff.2
    rcases List.mem_append.1 hg with hg | hg
    · exact .inl (h.before g hg)
    · exact .inr (List.mem_singleton.1 hg)
  · rw [hslots, List.length_append, List.length_singleton]
    exact h.slotsLeft.spend hslotsLeft
  · intro i rule' n hrule' hmax
    by_cases hi : i = cursor.rule
    · subst hi
      cases hrule.symm.trans hrule'
      exact hownNext.used_le hmax
    · have hcursor : cursor.rule ≠ i := Ne.symm hi
      have hbefore := h.own i rule' n hrule' hmax
      simpa [List.countP_append, hcursor] using hbefore
  · intro here rule' entry' position' hhere hrule' hentry' hasks'
    rcases Grant.precedes_next_iff.1 hhere with hbefore | rfl
    · exact (h.settled here rule' entry' position' hbefore hrule' hentry' hasks').snoc hbefore
    · exact .inl ⟨here, by simp, rfl, Nat.le_refl _⟩

theorem Ledger.pass (hids : (pool.map (·.item.id)).Nodup)
    (h : Ledger starts slots rules pool cursor s grants) (hown : OwnSlots rule cursor s grants)
    (hrule : rules[cursor.rule]? = some rule) (hentry : pool[cursor.entry]? = some entry)
    (hroom : ∀ position, rule.AsksFor starts entry position → s.hasRoomFor entry = false)
    (hpins : s'.effects.pins = s.effects.pins) (hslots : s'.slots = s.slots)
    (hruleSlots : s'.ruleSlots = s.ruleSlots) :
    Ledger starts slots rules pool cursor.next s' grants ∧
      OwnSlots rule cursor.next s' grants := by
  refine ⟨{ inOrder := h.inOrder, asked := ?_, granted := ?_, size := ?_, before := ?_,
            slotsLeft := ?_, own := h.own, settled := ?_ }, ?_⟩
  · rw [hpins]
    exact h.asked
  · rw [hpins]
    exact h.granted
  · rw [hpins]
    exact h.size
  · intro g hg
    exact Grant.precedes_next_iff.2 (.inl (h.before g hg))
  · rw [hslots]
    exact h.slotsLeft
  · intro here rule' entry' position hhere hrule' hentry' hasks
    rcases Grant.precedes_next_iff.1 hhere with hbefore | rfl
    · exact h.settled here rule' entry' position hbefore hrule' hentry' hasks
    · cases hrule.symm.trans hrule'
      cases hentry.symm.trans hentry'
      exact isSettled_of_no_room hids h hown hentry hasks.2.2 (hroom position hasks)
  · rw [OwnSlots, hruleSlots]
    exact hown

theorem Ledger.nextRule {i : Nat}
    (h : Ledger starts slots rules pool ⟨i, pool.length⟩ s grants) :
    Ledger starts slots rules pool ⟨i + 1, 0⟩ s grants where
  toBooked := h.toBooked
  before g hg := by
    have hbefore := h.before g hg
    simp only [Grant.Precedes] at hbefore ⊢
    omega
  slotsLeft := h.slotsLeft
  own := h.own
  settled here rule entry position hhere hrule hentry hasks := by
    apply h.settled here rule entry position ?_ hrule hentry hasks
    have hinPool : here.entry < pool.length := (List.getElem?_eq_some_iff.1 hentry).1
    simp only [Grant.Precedes] at hhere ⊢
    omega

theorem Ledger.hand {i : Nat} (h : Ledger starts slots rules pool ⟨i, 0⟩ s grants)
    (rule : Rule) :
    Ledger starts slots rules pool ⟨i, 0⟩ { s with ruleSlots := rule.maxPins } grants ∧
      OwnSlots rule ⟨i, 0⟩ { s with ruleSlots := rule.maxPins } grants := by
  refine ⟨{ h with }, ?_⟩
  have hnone : grants.countP (fun g => g.rule = i) = 0 := by
    apply List.countP_eq_zero.2
    intro g hg
    have hbefore := h.before g hg
    simp only [Grant.Precedes] at hbefore
    rw [decide_eq_true_eq]
    omega
  rw [OwnSlots, hnone]
  exact Slots.leaves_all _

/-- When the cursor is behind all rules, everything is settled. -/
theorem Ledger.pinAllocation (h : Ledger starts slots rules pool ⟨rules.length, 0⟩ s grants) :
    PinAllocation starts slots rules pool s.effects.pins grants where
  toBooked := h.toBooked
  total _ hn := h.slotsLeft.used_le hn
  own := h.own
  settled here rule entry position hrule hentry hasks := by
    apply h.settled here rule entry position ?_ hrule hentry hasks
    exact .inl (List.getElem?_eq_some_iff.1 hrule).1

/-! ### The run -/

variable [Score α]

/-- A rule at an item gives it a slot if it asks for one and there is one, and changes no slot
otherwise. -/
theorem step_cases (starts : FacetStarts) (rule : Rule) (s : Allocation α) (entry : PoolEntry) :
    (∃ position, rule.AsksFor starts entry position ∧ s.hasRoomFor entry = true ∧
      (step starts rule s entry).effects.pins =
        s.effects.pins.insert entry.item.id ⟨max position 1, rule.priority⟩ ∧
      (step starts rule s entry).slots = s.slots.spend ∧
      (step starts rule s entry).ruleSlots = s.ruleSlots.spend) ∨
    (∀ position, rule.AsksFor starts entry position → s.hasRoomFor entry = false) ∧
      (step starts rule s entry).effects.pins = s.effects.pins ∧
      (step starts rule s entry).slots = s.slots ∧
      (step starts rule s entry).ruleSlots = s.ruleSlots := by
  by_cases hcovers : rule.target.covers starts entry.item = true
  · rw [step, if_pos hcovers, act]
    cases haction : rule.action with
    | block => exact .inr ⟨fun position hasks => by simp [Rule.AsksFor, haction] at hasks,
        rfl, rfl, rfl⟩
    | boost strength => exact .inr ⟨fun position hasks => by
        simp [Rule.AsksFor, haction] at hasks, rfl, rfl, rfl⟩
    | pin position =>
        by_cases hroom : s.hasRoomFor entry = true
        · refine .inl ⟨position, ⟨haction, hcovers, (hasRoomFor_iff.1 hroom).1⟩, hroom, ?_⟩
          dsimp only
          rw [if_pos hroom]
          exact ⟨rfl, rfl, rfl⟩
        · refine .inr ⟨fun _ _ => by simpa using hroom, ?_⟩
          dsimp only
          rw [if_neg hroom]
          exact ⟨rfl, rfl, rfl⟩
  · rw [step, if_neg hcovers]
    exact .inr ⟨fun _ hasks => absurd hasks.2.1 hcovers, rfl, rfl, rfl⟩

theorem Ledger.step (hids : (pool.map (·.item.id)).Nodup)
    (h : Ledger starts slots rules pool cursor s grants) (hown : OwnSlots rule cursor s grants)
    (hrule : rules[cursor.rule]? = some rule) (hentry : pool[cursor.entry]? = some entry) :
    ∃ grants', Ledger starts slots rules pool cursor.next (step starts rule s entry) grants' ∧
      OwnSlots rule cursor.next (step starts rule s entry) grants' := by
  rcases step_cases starts rule s entry with
    ⟨position, hasks, hroom, hpins, hslots, hruleSlots⟩ | ⟨hroom, hpins, hslots, hruleSlots⟩
  · exact ⟨grants ++ [cursor], h.grant hown hrule hentry hasks hroom hpins hslots hruleSlots⟩
  · exact ⟨grants, h.pass hids hown hrule hentry hroom hpins hslots hruleSlots⟩

theorem Ledger.applyRule {i : Nat} (hids : (pool.map (·.item.id)).Nodup)
    (h : Ledger starts slots rules pool ⟨i, 0⟩ s grants) (hrule : rules[i]? = some rule) :
    ∃ grants', Ledger starts slots rules pool ⟨i + 1, 0⟩ (applyRule starts pool s rule)
      grants' := by
  have hend : ∃ grants', Ledger starts slots rules pool ⟨i, pool.length⟩
      (Allocation.applyRule starts pool s rule) grants' ∧
      OwnSlots rule ⟨i, pool.length⟩ (Allocation.applyRule starts pool s rule) grants' := by
    apply foldl_induction_at (motive := fun j t => ∃ grants',
      Ledger starts slots rules pool ⟨i, j⟩ t grants' ∧ OwnSlots rule ⟨i, j⟩ t grants')
    · exact ⟨grants, h.hand rule⟩
    · rintro j entry t hentry ⟨grants', ht, hown⟩
      exact ht.step hids hown hrule hentry
  obtain ⟨grants', hledger, -⟩ := hend
  exact ⟨grants', hledger.nextRule⟩

theorem exists_ledger (starts : FacetStarts) (slots : Slots) (rules : List Rule)
    (hids : (pool.map (·.item.id)).Nodup) :
    ∃ grants, Ledger starts slots (Rule.sort rules) pool ⟨(Rule.sort rules).length, 0⟩
      (afterRules starts slots rules pool : Allocation α) grants := by
  apply foldl_induction_at (motive := fun i t => ∃ grants,
    Ledger starts slots (Rule.sort rules) pool ⟨i, 0⟩ t grants)
  · exact ⟨[], ledger_start⟩
  · rintro i rule t hrule ⟨grants, ht⟩
    exact ht.applyRule hids hrule

end Allocation

namespace RuleEffects

open scoped List

/-- The pins that rules leave behind have been given out in turn. -/
theorem exists_pinAllocation (α : Type) [Score α] (starts : FacetStarts) (slots : Slots)
    (rules : List Rule) {pool : List PoolEntry} (hids : (pool.map (·.item.id)).Nodup) :
    ∃ grants, PinAllocation starts slots (Rule.sort rules) pool
      (ofRules starts slots rules pool : RuleEffects α).pins grants := by
  obtain ⟨grants, hledger⟩ := Allocation.exists_ledger (α := α) starts slots rules hids
  exact ⟨grants, hledger.pinAllocation⟩

/-- What rules do to the blocks and pins of a pool. The rules apply in their order; blocks and
matches are those of the rules that cover an item; and the pins are granted in turn, no more of
them than there are slots and no more by a rule than it may grant, so that an item for which a
rule asks in vain has found its slots used up. -/
theorem slots_granted_in_turn {α : Type} [Score α] (starts : FacetStarts) (slots : Slots)
    (rules : List Rule) (pool : List PoolEntry) (hids : (pool.map (·.item.id)).Nodup) :
    (Rule.sort rules ~ rules ∧ (Rule.sort rules).Pairwise fun a b => (Rule.order a b).isLE) ∧
      (∀ id, id ∈ (ofRules starts slots rules pool : RuleEffects α).blocked ↔
        ∃ rule ∈ rules, ∃ entry ∈ pool, rule.target.covers starts entry.item = true ∧
          rule.action = .block ∧ entry.item.id = id) ∧
      (∀ id, id ∈ (ofRules starts slots rules pool : RuleEffects α).pinMatches ↔
        ∃ rule ∈ rules, ∃ entry ∈ pool, rule.target.covers starts entry.item = true ∧
          (∃ position, rule.action = .pin position) ∧ entry.item.id = id) ∧
      (∀ n, slots = some n → (ofRules starts slots rules pool : RuleEffects α).pins.size ≤ n) ∧
      ∃ grants, PinAllocation starts slots (Rule.sort rules) pool
        (ofRules starts slots rules pool : RuleEffects α).pins grants := by
  obtain ⟨grants, hledger⟩ := Allocation.exists_ledger (α := α) starts slots rules hids
  have hallocation := hledger.pinAllocation
  rw [← ofRules_eq] at hallocation
  refine ⟨⟨sortWith_perm _ _, pairwise_sortWith Rule.order _⟩, fun id => mem_blocked_ofRules_iff,
    fun id => mem_pinMatches_ofRules_iff, fun n hn => ?_, grants, hallocation⟩
  have htotal := hallocation.total n hn
  rw [← hallocation.size] at htotal
  exact htotal

/-- One rule may pin one item, one comes behind it, and the last finds no slot. -/
def threePins : List Rule :=
  [{ id := ⟨3⟩, space := "shop", target := .items ["d"], action := .pin 1 },
    { id := ⟨2⟩, space := "shop", target := .items ["a", "b", "c"], action := .pin 0 },
    { id := ⟨1⟩, space := "shop", target := .items ["a", "b", "c"], action := .pin 2, priority := 5,
      maxPins := some 1 }]

/-- The first item of the pool can take no slot. -/
def fourEntries : List PoolEntry :=
  [⟨{ id := "a" }, false⟩, ⟨{ id := "b" }, true⟩, ⟨{ id := "c" }, true⟩, ⟨{ id := "d" }, true⟩]

theorem slots_granted_in_turn_threePins : (fourEntries.map (·.item.id)).Nodup ∧
    (ofRules ⟨[], []⟩ (some 2) threePins fourEntries : RuleEffects Float).pins.entries =
      [("b", ⟨2, 5⟩), ("c", ⟨1, 0⟩)] ∧
    ∃ grants, PinAllocation ⟨[], []⟩ (some 2) (Rule.sort threePins) fourEntries
      (ofRules ⟨[], []⟩ (some 2) threePins fourEntries : RuleEffects Float).pins grants := by
  have hids : (fourEntries.map (·.item.id)).Nodup := by decide
  refine ⟨hids, by decide +kernel, ?_⟩
  exact (slots_granted_in_turn ⟨[], []⟩ (some 2) threePins fourEntries hids).2.2.2.2

end RuleEffects

end Recommendation
