import Recommendation.Identifier
import Recommendation.Catalog

/-!
A tenant's rules: which items a rule is about and what it does to them. A block keeps items out, a
pin asks for a place in the list, a boost multiplies scores. A rule holds in one namespace, on some
surfaces, and from one instant until another.
-/

namespace Recommendation

open Time (Instant)

inductive RuleAction
  | block
  /-- The place counts from one. -/
  | pin (position : Nat)
  /-- The score is multiplied by one plus the strength. -/
  | boost (strength : Float)

inductive ActionKind
  | block
  | pin
  | boost
deriving DecidableEq, Repr

namespace ActionKind

/-- Every kind, in the order in which reports list them. -/
def all : List ActionKind := [.block, .pin, .boost]

def name : ActionKind → String
  | .block => "block"
  | .pin => "pin"
  | .boost => "boost"

end ActionKind

def RuleAction.kind : RuleAction → ActionKind
  | .block => .block
  | .pin _ => .pin
  | .boost _ => .boost

inductive RuleTarget
  | tag (tag : String)
  | brand (value : String)
  | category (value : String)
  | items (ids : List String)
deriving DecidableEq, Repr

structure FacetStarts where
  brand : List String
  category : List String

def Item.hasFacet (item : Item) (starts : List String) (value : String) : Bool :=
  (item.facetValues starts).any fun v => Text.equalFolded v (Text.trim value)

def RuleTarget.covers (target : RuleTarget) (starts : FacetStarts) (item : Item) : Bool :=
  match target with
  | .tag wanted => item.hasTag wanted
  | .brand value => item.hasFacet starts.brand value
  | .category value => item.hasFacet starts.category value
  | .items ids => ids.contains item.id

structure Rule where
  id : Identifier
  /-- The namespace that the rule holds in. -/
  space : String
  /-- Blank or a star for every surface. -/
  surface : String := ""
  target : RuleTarget
  action : RuleAction
  priority : Int := 0
  /-- How many items the rule may pin; none for as many as there is room for. -/
  maxPins : Option Nat := none
  enabled : Bool := true
  validFrom : Option Instant := none
  validUntil : Option Instant := none

namespace Rule

def holdsOn (rule : Rule) (surface : String) : Bool :=
  let own := Text.trim rule.surface
  own == "" || own == "*" || Text.equalFolded own (Text.trim surface)

/-- The rule holds at the instant: from its start on and before its end. -/
def holdsAt (rule : Rule) (now : Instant) : Bool :=
  rule.enabled && rule.validFrom.all (fun t => decide (t ≤ now)) &&
    rule.validUntil.all fun t => decide (now < t)

/-- Higher priorities come first, and of rules with one priority the smaller identifier. -/
def order (a b : Rule) : Ordering :=
  (compare b.priority a.priority).then (compare a.id b.id)

end Rule

def Rule.sort (rules : List Rule) : List Rule := sortWith Rule.order rules

end Recommendation
