import Recommendation.Rule

/-!
What the policy has done to one request, in numbers, with a few examples.
-/

namespace Recommendation

/-- How many of the items that constraints have removed are named. -/
def sampleLimit : Nat := 20

structure PolicySummary where
  totalCandidates : Nat := 0
  unavailableCount : Nat := 0
  explicitExcludeHits : Nat := 0
  recentEventExcludeHits : Nat := 0
  afterExclusions : Nat := 0
  constraintIncludeTags : List String := []
  constraintFilteredCount : Nat := 0
  constraintFilteredIds : List String := []
  afterConstraintFilters : Nat := 0
  ruleBlockCount : Nat := 0
  rulePinCount : Nat := 0
  ruleBoostCount : Nat := 0
  ruleBlockExposure : Nat := 0
  rulePinExposure : Nat := 0
  ruleBoostExposure : Nat := 0
  /-- Pins that have lifted a block or the exclusion of a recent item. -/
  pinOverrideCount : Nat := 0
  afterRules : Nat := 0
  finalCount : Nat := 0
  constraintLeakCount : Nat := 0
  constraintLeakIds : List String := []

namespace PolicySummary

/-- How many items the rules with an action have covered. -/
def ruleCount (s : PolicySummary) : ActionKind → Nat
  | .block => s.ruleBlockCount
  | .pin => s.rulePinCount
  | .boost => s.ruleBoostCount

/-- How many items of the final list carry the mark of an action. -/
def ruleExposure (s : PolicySummary) : ActionKind → Nat
  | .block => s.ruleBlockExposure
  | .pin => s.rulePinExposure
  | .boost => s.ruleBoostExposure

/-- The actions that have covered items and left no mark on the final list. -/
def zeroEffectActions (s : PolicySummary) : List ActionKind :=
  ActionKind.all.filter fun kind => 0 < s.ruleCount kind && s.ruleExposure kind == 0

end PolicySummary

end Recommendation
