import Recommendation.Rule
import Recommendation.Weights

/-!
Candidates on their way from the signals to the list, and the order in which they are ranked.
-/

namespace Recommendation

open Time (Instant)

/-- A place in the list that a rule has granted. -/
structure Pin where
  position : Nat
  priority : Int
deriving DecidableEq, Repr

structure Candidate (α : Type) where
  id : String
  /-- What each signal says about the item, between nought and one. -/
  popularity : α
  coVisitation : α
  profile : α
  score : α
  /-- The signals that contributed, in their order. -/
  provenance : List Signal := []
  /-- The item that contributed most to co-visitation. -/
  seed : Option String := none
  /-- The tag that contributed most to the profile. -/
  topTag : Option String := none
  pin : Option Pin := none
  boosted : Bool := false
  /-- The latest event behind any signal. -/
  lastTime : Option Instant := none
  /-- No signal proposed the item; it is here because a rule names it. -/
  pinOnly : Bool := false

namespace Candidate

variable {α : Type} [Score α]

def scored (id : String) (score : α) : Candidate α :=
  { id, score, popularity := Score.zero, coVisitation := Score.zero, profile := Score.zero }

/-- A candidate that only a rule has named. -/
def pinned (id : String) : Candidate α :=
  { scored id (Score.zero : α) with pinOnly := true }

def signal (c : Candidate α) : Signal → α
  | .popularity => c.popularity
  | .coVisitation => c.coVisitation
  | .profile => c.profile

def has (c : Candidate α) (s : Signal) : Bool := c.provenance.contains s

/-- Optional instants, latest first and none last. -/
def recencyOrder (a b : Option Instant) : Ordering :=
  match a, b with
  | none, none => .eq
  | none, some _ => .gt
  | some _, none => .lt
  | some a, some b => compare b a

/-- Higher scores first, then later activity, then the smaller identifier. -/
def rankOrder (a b : Candidate α) : Ordering :=
  ((Score.order b.score a.score).then (recencyOrder a.lastTime b.lastTime)).then
    (compare a.id b.id)

def rank (cs : List (Candidate α)) : List (Candidate α) := sortWith rankOrder cs

end Candidate

end Recommendation
