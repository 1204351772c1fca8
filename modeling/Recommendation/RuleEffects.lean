import Recommendation.Candidate
import Recommendation.Dictionary

/-!
What a list of rules does to a pool of items. Rules apply one after another, in their order, and each
goes through the pool in the pool's order. Pins need slots: there is a number of them for all rules
together and one for each rule, an item takes one slot at most, and the first rule that has one for
it decides its place.
-/

namespace Recommendation

/-- A number of slots, none for as many as are asked for. -/
abbrev Slots := Option Nat

namespace Slots

def areSpent (s : Slots) : Bool := s == some 0

def spend (s : Slots) : Slots := s.map (· - 1)

end Slots

structure PoolEntry where
  item : Item
  /-- The item can take a slot. Rules match it in any case. -/
  pinnable : Bool

structure RuleEffects (α : Type) where
  /-- The items that some block covers. -/
  blocked : List String := []
  /-- The items that got a slot. -/
  pins : Dictionary Pin := .empty
  /-- The items that some pin covers, whether they got a slot or not. -/
  pinMatches : List String := []
  /-- What the boosts that cover an item multiply its score by. -/
  boosts : Dictionary α := .empty

namespace RuleEffects

variable {α : Type} [Score α]

def isBlocked (e : RuleEffects α) (id : String) : Bool := e.blocked.contains id

def pin? (e : RuleEffects α) (id : String) : Option Pin := e.pins.get? id

def boost? (e : RuleEffects α) (id : String) : Option α := e.boosts.get? id

def block (e : RuleEffects α) (id : String) : RuleEffects α :=
  { e with blocked := e.blocked.insert id }

def matchPin (e : RuleEffects α) (id : String) : RuleEffects α :=
  { e with pinMatches := e.pinMatches.insert id }

def grant (e : RuleEffects α) (id : String) (pin : Pin) : RuleEffects α :=
  { e with pins := e.pins.insert id pin }

def multiply (e : RuleEffects α) (id : String) (factor : α) : RuleEffects α :=
  { e with boosts := e.boosts.alter id fun old => old.getD Score.one * factor }

end RuleEffects

structure Allocation (α : Type) where
  effects : RuleEffects α := {}
  /-- The slots left for all rules. -/
  slots : Slots
  /-- The slots left for the rule at hand. -/
  ruleSlots : Slots := none

namespace Allocation

variable {α : Type} [Score α]

def hasRoomFor (s : Allocation α) (entry : PoolEntry) : Bool :=
  entry.pinnable && !s.effects.pins.contains entry.item.id && !s.slots.areSpent &&
    !s.ruleSlots.areSpent

def act (rule : Rule) (s : Allocation α) (entry : PoolEntry) : Allocation α :=
  let id := entry.item.id
  match rule.action with
  | .block => { s with effects := s.effects.block id }
  | .boost strength =>
    { s with effects := s.effects.multiply id (Score.one + Score.ofFloat strength) }
  | .pin position =>
    let effects := s.effects.matchPin id
    if s.hasRoomFor entry then
      { effects := effects.grant id ⟨max position 1, rule.priority⟩
        slots := s.slots.spend
        ruleSlots := s.ruleSlots.spend }
    else { s with effects }

def step (starts : FacetStarts) (rule : Rule) (s : Allocation α) (entry : PoolEntry) :
    Allocation α :=
  if rule.target.covers starts entry.item then act rule s entry else s

def applyRule (starts : FacetStarts) (pool : List PoolEntry) (s : Allocation α) (rule : Rule) :
    Allocation α :=
  pool.foldl (step starts rule) { s with ruleSlots := rule.maxPins }

end Allocation

def RuleEffects.ofRules {α : Type} [Score α] (starts : FacetStarts) (slots : Slots)
    (rules : List Rule) (pool : List PoolEntry) : RuleEffects α :=
  ((Rule.sort rules).foldl (Allocation.applyRule starts pool) { slots }).effects

end Recommendation
