import Recommendation.Store.Snapshot

/-!
Items, rules and snapshots put together step by step, so that a rehearsal can say only what matters
to it. Each step changes one thing and leaves the others as they are.
-/

namespace Recommendation.Rehearsal

open Time (Instant)

inductive ItemStep
  | tags (tags : List String)
  | price (price : Float)
  | created (time : Instant)
  | unavailable

def ItemStep.apply (item : Item) : ItemStep → Item
  | .tags ts => { item with tags := ts }
  | .price x => { item with price := some x }
  | .created t => { item with createdAt := t }
  | .unavailable => { item with available := false }

inductive RuleStep
  | surface (surface : String)
  | priority (priority : Int)
  | maxPins (limit : Nat)

def RuleStep.apply (rule : Rule) : RuleStep → Rule
  | .surface name => { rule with surface := name }
  | .priority n => { rule with priority := n }
  | .maxPins n => { rule with maxPins := some n }

/-- A step in making a snapshot; what it adds goes behind what is there. -/
inductive SnapshotStep
  | items (items : List Item)
  | user (user : User)
  | events (events : List Event)
  | eventType (code : Int) (type : EventType)
  | rule (rule : Rule)

def SnapshotStep.apply (s : Snapshot) : SnapshotStep → Snapshot
  | .items more => { s with items := s.items ++ more }
  | .user one => { s with users := s.users ++ [one] }
  | .events more => { s with events := s.events ++ more }
  | .eventType code type => { s with eventTypes := s.eventTypes ++ [(code, type)] }
  | .rule one => { s with rules := s.rules ++ [one] }

/-- What there is after each of the steps, from what there is at the start on. -/
def stages {α β : Type} (apply : α → β → α) (start : α) : List β → List α
  | [] => [start]
  | step :: rest => start :: stages apply (apply start step) rest

def blankItem (id : String) : Item := { id }

def blankRule (space : String) (target : RuleTarget) (action : RuleAction) : Rule :=
  { id := .none, space, target, action }

def plainEvent (userId itemId : String) (kind : Int) (time : Instant) : Event :=
  { userId, itemId, kind, time }

end Recommendation.Rehearsal
