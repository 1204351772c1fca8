import Recommendation.Time.Span

/-!
How a read of a store can fail. Some failures may pass if the read is tried again, and a read that
has been tried often enough is given up as unavailable. Being canceled is not a failure of the store.
-/

namespace Recommendation

inductive StoreError
  /-- The answer took longer than so many milliseconds. -/
  | timeout (millis : Nat)
  /-- The failure may pass. -/
  | transient (detail : String)
  /-- The failure will not pass. -/
  | permanent (detail : String)
  /-- Every attempt has failed, the last one with the given text. -/
  | unavailable (operation : String) (attempts : Nat) (last : String)
  | canceled
deriving DecidableEq, Repr

namespace StoreError

def message : StoreError → String
  | .timeout millis => "query timed out after " ++ Time.millisText millis
  | .transient detail => "transient store failure: " ++ detail
  | .permanent detail => "permanent store failure: " ++ detail
  | .unavailable operation attempts last =>
    operation ++ " failed after " ++ attempts.repr ++ " attempts: " ++ last
  | .canceled => "request canceled"

def isTransient : StoreError → Bool
  | .timeout _ => true
  | .transient _ => true
  | _ => false

def isUnavailable : StoreError → Bool
  | .timeout _ => true
  | .transient _ => true
  | .unavailable _ _ _ => true
  | _ => false

end StoreError

end Recommendation
