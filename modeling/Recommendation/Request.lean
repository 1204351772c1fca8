import Recommendation.Constraints
import Recommendation.Explanation

/-!
What callers ask for and what they get: lists for a user, and lists of items like another.
-/

namespace Recommendation

open Time (Instant)

structure RecommendRequest (α : Type) where
  userId : String := ""
  space : String := ""
  surface : Option String := none
  k : Int := 0
  constraints : Option Constraints := none
  /-- Weights to use instead of the settings'. -/
  blend : Option (Weights α) := none
  includeReasons : Bool := false
  /-- The list as it would have been right before this instant. Callers from outside cannot ask for
  that. -/
  asOf : Option Instant := none

structure SimilarRequest where
  itemId : String
  space : String := ""
  surface : Option String := none
  k : Int := 0
  includeReasons : Bool := false

structure Response where
  modelVersion : String
  items : List (Recommended Float)
  /-- A signal is missing because the store could not answer it. -/
  degraded : Bool := false

end Recommendation
