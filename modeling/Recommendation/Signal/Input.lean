import Recommendation.Settings
import Recommendation.Signal.CandidateSet
import Recommendation.Store

/-!
What the signals of a request start from.
-/

namespace Recommendation

structure SignalInput where
  scope : Scope
  /-- The user the list is for, if it is for one. -/
  user : Option String
  /-- Items to start from instead of those that the user has met. -/
  seeds : Option (List String)
  /-- Items that popularity leaves out. -/
  excluded : List String
  types : EventTypes

end Recommendation
