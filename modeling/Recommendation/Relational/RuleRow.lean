import Recommendation.Rule
import Recommendation.StoreError
import Recommendation.Text.Quoted

/-!
Rules as rows. A row says in words what its rule is about and what it does, and has a column for
everything that one of the kinds needs. Rows are taken all or none: the first one that makes no rule
fails the whole read.
-/

namespace Recommendation.Relational

open Time (Instant)

structure RuleRow where
  id : Identifier
  space : String
  surface : String
  targetType : String
  targetValue : Option String
  itemIds : Option (List String)
  action : String
  boostValue : Option Float
  pinPosition : Option Int
  maxPins : Option Int
  priority : Int
  enabled : Bool
  validFrom : Option Instant
  validUntil : Option Instant

inductive RowFault
  | target (word : String)
  | pinPosition
  | boostValue
  | action (word : String)
  | maxPins (value : Int)
deriving DecidableEq, Repr

def RowFault.message : RowFault → String
  | .target word => "unsupported target " ++ Text.quoted word
  | .pinPosition => "pin without a positive position"
  | .boostValue => "boost without a usable strength"
  | .action word => "unsupported action " ++ Text.quoted word
  | .maxPins value => "negative max_pins " ++ toString value

namespace RuleRow

/-- What the rule is about. A facet needs a value; a list of items may be missing. -/
def target (row : RuleRow) : Except RowFault RuleTarget :=
  let word := Text.lowercase row.targetType
  let value := row.targetValue.getD ""
  if word == "tag" && value != "" then pure (.tag value)
  else if word == "brand" && value != "" then pure (.brand value)
  else if word == "category" && value != "" then pure (.category value)
  else if word == "items" || word == "item" then pure (.items (row.itemIds.getD []))
  else throw (.target word)

def position (row : RuleRow) : Except RowFault Nat :=
  match row.pinPosition with
  | some n => if 1 ≤ n then pure n.toNat else throw .pinPosition
  | none => throw .pinPosition

/-- The strength of a boost, which must leave scores positive. -/
def strength (row : RuleRow) : Except RowFault Float :=
  match row.boostValue with
  | some x => if x.isFinite && -1.0 < x then pure x else throw .boostValue
  | none => throw .boostValue

def ruleAction (row : RuleRow) : Except RowFault RuleAction :=
  match Text.lowercase row.action with
  | "block" => pure .block
  | "pin" => return .pin (← row.position)
  | "boost" => return .boost (← row.strength)
  | word => throw (.action word)

def pinLimit (row : RuleRow) : Except RowFault (Option Nat) :=
  match row.maxPins with
  | none => pure none
  | some n => if 0 ≤ n then pure (some n.toNat) else throw (.maxPins n)

def rule (row : RuleRow) : Except RowFault Rule := do
  let target ← row.target
  let action ← row.ruleAction
  let maxPins ← row.pinLimit
  return { id := row.id, space := row.space, surface := row.surface, target, action
           priority := row.priority, maxPins, enabled := row.enabled, validFrom := row.validFrom
           validUntil := row.validUntil }

def malformed (row : RuleRow) (fault : RowFault) : StoreError :=
  .permanent ("malformed rule " ++ row.id.toText ++ ": " ++ fault.message)

def rules (rows : List RuleRow) : Except StoreError (List Rule) :=
  rows.mapM fun row => row.rule.mapError row.malformed

end RuleRow

end Recommendation.Relational
