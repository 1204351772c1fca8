import Recommendation.Service.Message

/-!
The identifier that ties a response to its request. A caller may send one of its own; otherwise a
fresh one is made.
-/

namespace Recommendation.Service

def requestIdHeader : String := "x-request-id"

def longestRequestId : Nat := 128

/-- The identifier that a header carries: visible characters, at least one and not too many. -/
def requestIdOf? (value : String) : Option String :=
  ((plainValue? value).map Text.trim).filter fun id =>
    id != "" && id.length ≤ longestRequestId && id.toList.all fun c => '!' ≤ c && c ≤ '~'

def Request.id (r : Request) (fresh : String) : String :=
  ((r.header? requestIdHeader).bind requestIdOf?).getD fresh

end Recommendation.Service
