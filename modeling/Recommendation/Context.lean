import Recommendation.Identifier
import Recommendation.Time.Instant

/-!
Who asks, as of when, and until when the answer is wanted. A request is canceled by whoever sent it
or by its deadline. Both are points on the clock that reads run by, in milliseconds.
-/

namespace Recommendation

open Time (Instant)

structure Context where
  /-- The organization that asks. -/
  org : Identifier
  /-- The present that all windows of the request end at. -/
  now : Instant
  /-- When the request is called off. -/
  canceledAt : Option Nat := none
  deadline : Option Nat := none

namespace Context

def earlier : Option Nat → Option Nat → Option Nat
  | none, b => b
  | a, none => a
  | some a, some b => some (min a b)

/-- The moment from which on the request is canceled. -/
def stop? (ctx : Context) : Option Nat := earlier ctx.canceledAt ctx.deadline

def isCanceledBy (ctx : Context) (clock : Nat) : Bool := ctx.stop?.any (· ≤ clock)

/-- Calls the request off, unless that has happened before. -/
def cancel (ctx : Context) (clock : Nat) : Context :=
  { ctx with canceledAt := earlier ctx.canceledAt (some clock) }

end Context

structure Scope where
  org : Identifier
  space : String
deriving DecidableEq

end Recommendation
