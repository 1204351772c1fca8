import Recommendation.Proofs.Orders
import Recommendation.RuleEffects

/-!
What rules leave behind in a pool. Going through the rules and, for each rule,
through the pool is packaged twice: as an induction for whatever every single
action keeps, and as a characterization of marks that only ever get added. The
facts about blocks and pins are instances.
-/

namespace Recommendation

namespace Allocation

variable {α : Type} [Score α]

def afterRules (starts : FacetStarts) (slots : Slots) (rules : List Rule) (pool : List PoolEntry) :
    Allocation α :=
  (Rule.sort rules).foldl (applyRule starts pool) { slots }

variable {starts : FacetStarts} {slots : Slots} {rules : List Rule} {pool : List PoolEntry}

/-- What holds at the start, and is kept by handing a rule its slots and by every
action of a rule on an item that it covers, holds after all rules. -/
theorem afterRules_induction {motive : Allocation α → Prop} (start : motive { slots })
    (hand : ∀ s, ∀ rule ∈ rules, motive s → motive { s with ruleSlots := rule.maxPins })
    (act : ∀ s, ∀ rule ∈ rules, ∀ entry ∈ pool, rule.target.covers starts entry.item = true →
      motive s → motive (act rule s entry)) :
    motive (afterRules starts slots rules pool) := by
  refine List.foldlRecOn (Rule.sort rules) _ start fun s hs rule hrule => ?_
  have hrule : rule ∈ rules := (mem_sortWith Rule.order).1 hrule
  refine List.foldlRecOn pool _ (hand s rule hrule hs) fun t ht entry hentry => ?_
  rw [step]
  split
  · rename_i hcovers
    exact act t rule hrule entry hentry hcovers ht
  · exact ht

/-- A mark that an action adds where it hits, and that nothing takes away, is there
after all rules if and only if some rule hits an item that it covers. -/
theorem afterRules_marks_iff (mark : Allocation α → Prop) (hit : Rule → PoolEntry → Prop)
    (hact : ∀ rule s entry, mark (act rule s entry) ↔ mark s ∨ hit rule entry)
    (hhand : ∀ s n, mark { s with ruleSlots := n } ↔ mark s) (hstart : ¬mark { slots }) :
    mark (afterRules starts slots rules pool) ↔
      ∃ rule ∈ rules, ∃ entry ∈ pool,
        rule.target.covers starts entry.item = true ∧ hit rule entry := by
  -- One rule adds its own hits in the pool, whatever the allocation it starts from.
  have hrule : ∀ (rule : Rule) (entries : List PoolEntry) (s : Allocation α),
      mark (entries.foldl (step starts rule) s) ↔ mark s ∨ ∃ entry ∈ entries,
        rule.target.covers starts entry.item = true ∧ hit rule entry := by
    intro rule entries
    induction entries with
    | nil => simp
    | cons entry rest ih =>
        intro s
        rw [List.foldl_cons, ih, step]
        split
        · rename_i hcovers
          simp [hact, hcovers, or_assoc]
        · rename_i hcovers
          simp [hcovers]
  have hall : ∀ (rs : List Rule) (s : Allocation α),
      mark (rs.foldl (applyRule starts pool) s) ↔ mark s ∨ ∃ rule ∈ rs, ∃ entry ∈ pool,
        rule.target.covers starts entry.item = true ∧ hit rule entry := by
    intro rs
    induction rs with
    | nil => simp
    | cons rule rest ih =>
        intro s
        rw [List.foldl_cons, ih, applyRule, hrule, hhand]
        simp [or_assoc]
  rw [afterRules, hall, or_iff_right hstart]
  simp [Rule.sort]

end Allocation

namespace RuleEffects

open Allocation

variable {α : Type} [Score α] {starts : FacetStarts} {slots : Slots} {rules : List Rule}
  {pool : List PoolEntry} {id : String}

theorem ofRules_eq : (ofRules starts slots rules pool : RuleEffects α) =
    (afterRules starts slots rules pool).effects := rfl

theorem ofRules_congr {rules' : List Rule} (hperm : rules.Perm rules')
    (h : (rules.map (·.id)).Nodup) (starts : FacetStarts) (slots : Slots)
    (pool : List PoolEntry) :
    (ofRules starts slots rules pool : RuleEffects α) = ofRules starts slots rules' pool := by
  rw [ofRules, ofRules, Rule.sort_congr hperm h]

/-- An item is blocked if and only if some block covers it. -/
theorem mem_blocked_ofRules_iff :
    id ∈ (ofRules starts slots rules pool : RuleEffects α).blocked ↔
      ∃ rule ∈ rules, ∃ entry ∈ pool, rule.target.covers starts entry.item = true ∧
        rule.action = .block ∧ entry.item.id = id := by
  rw [ofRules_eq]
  refine afterRules_marks_iff (fun s => id ∈ s.effects.blocked)
    (fun rule entry => rule.action = .block ∧ entry.item.id = id) ?_ ?_ ?_
  · intro rule s entry
    rw [act]
    cases haction : rule.action with
    | block => simp [block, or_comm, eq_comm]
    | boost strength => simp [multiply]
    | pin position =>
        simp only [matchPin, grant]
        split <;> simp
  · exact fun _ _ => Iff.rfl
  · simp

/-- An item counts as covered by a pin whether it has got a slot or not. -/
theorem mem_pinMatches_ofRules_iff :
    id ∈ (ofRules starts slots rules pool : RuleEffects α).pinMatches ↔
      ∃ rule ∈ rules, ∃ entry ∈ pool, rule.target.covers starts entry.item = true ∧
        (∃ position, rule.action = .pin position) ∧ entry.item.id = id := by
  rw [ofRules_eq]
  refine afterRules_marks_iff (fun s => id ∈ s.effects.pinMatches)
    (fun rule entry => (∃ position, rule.action = .pin position) ∧ entry.item.id = id) ?_ ?_ ?_
  · intro rule s entry
    rw [act]
    cases haction : rule.action with
    | block => simp [block]
    | boost strength => simp [multiply]
    | pin position =>
        simp only [matchPin, grant]
        split <;> simp [or_comm, eq_comm]
  · exact fun _ _ => Iff.rfl
  · simp

/-- An item has a factor if and only if some boost covers it. -/
theorem isSome_boost?_ofRules_iff :
    ((ofRules starts slots rules pool : RuleEffects α).boost? id).isSome = true ↔
      ∃ rule ∈ rules, ∃ entry ∈ pool, rule.target.covers starts entry.item = true ∧
        (∃ strength, rule.action = .boost strength) ∧ entry.item.id = id := by
  rw [ofRules_eq]
  refine afterRules_marks_iff (fun s => (s.effects.boost? id).isSome = true)
    (fun rule entry => (∃ strength, rule.action = .boost strength) ∧ entry.item.id = id) ?_ ?_ ?_
  · intro rule s entry
    rw [act]
    cases haction : rule.action with
    | block => simp [block, boost?]
    | boost strength =>
        simp only [multiply, boost?, Dictionary.get?_alter]
        split
        · rename_i hid
          simp [hid]
        · rename_i hid
          simp [Ne.symm hid]
    | pin position =>
        simp only [matchPin, grant, boost?]
        split <;> simp
  · exact fun _ _ => Iff.rfl
  · simp [boost?, Dictionary.get?, Dictionary.empty]

def GrantedBy (starts : FacetStarts) (rules : List Rule) (pool : List PoolEntry) (id : String)
    (pin : Pin) : Prop :=
  ∃ rule ∈ rules, ∃ entry ∈ pool, ∃ position, rule.target.covers starts entry.item = true ∧
    rule.action = .pin position ∧ entry.item.id = id ∧ pin = ⟨max position 1, rule.priority⟩

/-- Every pin has been granted by a rule that covers its item. -/
theorem grantedBy_of_pin? {pin : Pin}
    (h : (ofRules starts slots rules pool : RuleEffects α).pin? id = some pin) :
    GrantedBy starts rules pool id pin := by
  rw [ofRules_eq] at h
  revert h
  refine afterRules_induction (motive := fun s : Allocation α =>
    s.effects.pin? id = some pin → GrantedBy starts rules pool id pin) nofun ?_ ?_
  · exact fun _ _ _ hs => hs
  · intro s rule hrule entry hentry hcovers hs
    rw [act]
    cases haction : rule.action with
    | block => exact hs
    | boost strength => exact hs
    | pin position =>
        dsimp only
        split
        · intro hpin
          rw [pin?, grant, Dictionary.get?_insert] at hpin
          split at hpin
          · rename_i hid
            cases hpin
            exact ⟨rule, hrule, entry, hentry, position, hcovers, haction, hid.symm, rfl⟩
          · exact hs hpin
        · exact hs

theorem mem_pinMatches_of_pin? {pin : Pin}
    (h : (ofRules starts slots rules pool : RuleEffects α).pin? id = some pin) :
    id ∈ (ofRules starts slots rules pool : RuleEffects α).pinMatches := by
  obtain ⟨rule, hrule, entry, hentry, position, hcovers, haction, hid, -⟩ := grantedBy_of_pin? h
  exact mem_pinMatches_ofRules_iff.2 ⟨rule, hrule, entry, hentry, hcovers, ⟨position, haction⟩, hid⟩

end RuleEffects

end Recommendation
