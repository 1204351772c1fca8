import Recommendation.Constraints
import Recommendation.Policy.Summary
import Recommendation.RuleEffects

/-!
Which candidates may be shown. An item goes if it is not available, if the caller excludes it, if
the user has met it recently, if it is not as the caller asks, or if a rule blocks it; the first
reason counts. A pin lifts the exclusion of a recent item and a block, and nothing else. A candidate
that only a rule has named and that got no slot goes without a reason.
-/

namespace Recommendation

inductive DropReason
  | unavailable
  | explicitExclude
  | recentEvent
  | constraint
  | ruleBlock
deriving DecidableEq, Repr

structure PolicyInput where
  constraints : Option Constraints
  /-- Items that the user has met recently. -/
  recent : List String
  rules : List Rule
  items : Dictionary Item

namespace PolicyInput

def available? (input : PolicyInput) (id : String) : Option Item :=
  (input.items.get? id).filter (·.available)

def isExcluded (input : PolicyInput) (id : String) : Bool :=
  input.constraints.any fun c => c.excluded.contains id

def allows (input : PolicyInput) (item : Item) : Bool :=
  input.constraints.all (·.allows item)

/-- The first reason to leave an item out whatever it is like. -/
def exclusion (input : PolicyInput) (id : String) : Option DropReason :=
  if (input.available? id).isNone then some .unavailable
  else if input.isExcluded id then some .explicitExclude
  else if input.recent.contains id then some .recentEvent
  else none

/-- The first reason against an item before any rule applies. -/
def mark (input : PolicyInput) (id : String) : Option DropReason :=
  (input.exclusion id).or
    (if (input.available? id).all input.allows then none else some .constraint)

def countMarked {α : Type} (input : PolicyInput) (cs : List (Candidate α)) (r : Option DropReason) :
    Nat :=
  cs.countP fun c => input.mark c.id == r

/-- The available items of the candidates, as rules see them. An item with a reason that no pin lifts
takes no slot. -/
def pool {α : Type} (input : PolicyInput) (cs : List (Candidate α)) : List PoolEntry :=
  cs.filterMap fun c => (input.available? c.id).map fun item =>
    ⟨item, input.mark c.id == none || input.mark c.id == some .recentEvent⟩

end PolicyInput

namespace RuleEffects

variable {α : Type}

/-- The reason against an item after all, given its mark. -/
def verdict (e : RuleEffects α) (mark : Option DropReason) (id : String) : Option DropReason :=
  match mark, e.pin? id with
  | some .recentEvent, some _ => none
  | some reason, _ => some reason
  | none, none => if e.isBlocked id then some .ruleBlock else none
  | none, some _ => none

def isLifted (e : RuleEffects α) (mark : Option DropReason) (id : String) : Bool :=
  (e.pin? id).isSome && (mark == some .recentEvent || (mark == none && e.isBlocked id))

variable [Score α]

def attach (e : RuleEffects α) (c : Candidate α) : Candidate α :=
  let c := { c with pin := e.pin? c.id }
  match e.boost? c.id with
  | none => c
  | some factor => { c with score := c.score * factor, boosted := true }

end RuleEffects

structure PolicyOutcome (α : Type) where
  /-- The candidates that may be shown, in the order in which they rank. -/
  survivors : List (Candidate α)
  summary : PolicySummary
  /-- The candidates with a reason against them. -/
  dropped : List (String × DropReason)
  effects : RuleEffects α

namespace PolicyOutcome

variable {α : Type}

def dropReason? (o : PolicyOutcome α) (id : String) : Option DropReason :=
  (o.dropped.find? fun d => d.1 == id).map (·.2)

def leaks (o : PolicyOutcome α) (ids : List String) : List String :=
  ids.filter fun id => (o.dropReason? id).isSome

def withExposure (o : PolicyOutcome α) (shown : List (Candidate α)) : PolicyOutcome α :=
  { o with summary := { o.summary with
      finalCount := shown.length
      ruleBlockExposure := shown.countP fun c => o.effects.isBlocked c.id
      rulePinExposure := shown.countP (·.pin.isSome)
      ruleBoostExposure := shown.countP (·.boosted) } }

def withLeaks (o : PolicyOutcome α) (leaked : List String) : PolicyOutcome α :=
  { o with summary := { o.summary with
      constraintLeakCount := o.summary.constraintLeakCount + leaked.length
      constraintLeakIds := o.summary.constraintLeakIds ++ leaked } }

end PolicyOutcome

/-- The policy of a tenant: where tags carry facets, and how many slots there are for pins. -/
structure Policy where
  starts : FacetStarts
  slots : Slots := none

namespace Policy

variable {α : Type} [Score α]

def effects (policy : Policy) (input : PolicyInput) (cs : List (Candidate α)) : RuleEffects α :=
  .ofRules policy.starts policy.slots input.rules (input.pool cs)

def survives (input : PolicyInput) (e : RuleEffects α) (c : Candidate α) : Bool :=
  e.verdict (input.mark c.id) c.id == none && !(c.pinOnly && (e.pin? c.id).isNone)

/-- The numbers of a request before its final list is known. -/
def summarize (input : PolicyInput) (e : RuleEffects α) (cs : List (Candidate α)) : PolicySummary :=
  let filtered := cs.filter fun c => input.mark c.id == some .constraint
  { totalCandidates := cs.length
    unavailableCount := input.countMarked cs (some .unavailable)
    explicitExcludeHits := input.countMarked cs (some .explicitExclude)
    recentEventExcludeHits := input.countMarked cs (some .recentEvent)
    afterExclusions := cs.countP fun c => input.exclusion c.id == none
    constraintIncludeTags := (input.constraints.map (·.wantedTags)).getD []
    constraintFilteredCount := filtered.length
    constraintFilteredIds := (filtered.map (·.id)).take sampleLimit
    afterConstraintFilters := input.countMarked cs none
    ruleBlockCount := e.blocked.length
    rulePinCount := e.pinMatches.length
    ruleBoostCount := e.boosts.size
    pinOverrideCount := cs.countP fun c => e.isLifted (input.mark c.id) c.id
    afterRules := cs.countP (survives input e) }

def outcome (policy : Policy) (input : PolicyInput) (cs : List (Candidate α)) : PolicyOutcome α :=
  let e := policy.effects input cs
  let o : PolicyOutcome α :=
    { survivors := Candidate.rank ((cs.filter (survives input e)).map e.attach)
      summary := summarize input e cs
      dropped := cs.filterMap fun c => (e.verdict (input.mark c.id) c.id).map fun r => (c.id, r)
      effects := e }
  o.withLeaks (o.leaks (o.survivors.map (·.id)))

end Policy

end Recommendation
