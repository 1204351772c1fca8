import Recommendation.Candidate

/-!
Why an item is in the list, in the words that users read.
-/

namespace Recommendation

structure Recommended (α : Type) where
  itemId : String
  score : α
  /-- None if the request has not asked for reasons. -/
  reasons : Option (List String)

namespace Candidate

variable {α : Type}

def signalReason (c : Candidate α) : Signal → Option String
  | .popularity => some "popular"
  | .coVisitation => c.seed.map ("because you viewed " ++ ·)
  | .profile => c.topTag.map ("matches your interest in " ++ ·)

/-- The reasons for a candidate: those of its signals, then the marks that rules have left. -/
def reasons (c : Candidate α) : List String :=
  (Signal.all.filter c.has).filterMap c.signalReason ++
    (if c.pin.isSome then ["pinned"] else []) ++ (if c.boosted then ["boosted"] else [])

def shown (withReasons : Bool) (c : Candidate α) : Recommended α :=
  ⟨c.id, c.score, if withReasons then some c.reasons else none⟩

end Candidate

end Recommendation
