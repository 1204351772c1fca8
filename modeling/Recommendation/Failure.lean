import Recommendation.Json.Value
import Recommendation.StoreError

/-!
How a request can fail, and what its caller is told. Each failure has a code for programs, a status
and a message. What a store or a broken invariant says about itself stays out of the message.
-/

namespace Recommendation

inductive Invariant
  | leak
  | strayRule
  | listBound
deriving DecidableEq, Repr

def Invariant.name : Invariant → String
  | .leak => "leak_detected"
  | .strayRule => "rule_inconsistency"
  | .listBound => "k_bound_violation"

inductive Failure
  | invalidRequest (detail : String)
  | invalidBlend (detail : String)
  | limitTooLarge (requested : Int) (most : Nat)
  | missingNamespace
  | unauthorized (detail : String)
  | notFound (detail : String)
  | storeUnavailable (detail : String)
  | storePermanent (detail : String)
  | canceled
  | broken (invariant : Invariant) (detail : String)
  | internal (detail : String)
deriving DecidableEq, Repr

namespace Failure

def ofStore : StoreError → Failure
  | .canceled => .canceled
  | .permanent detail => .storePermanent detail
  | e => .storeUnavailable e.message

def code : Failure → String
  | .invalidRequest _ => "invalid_request"
  | .invalidBlend _ => "invalid_blend"
  | .limitTooLarge _ _ => "limit_too_large"
  | .missingNamespace => "missing_namespace"
  | .unauthorized _ => "unauthorized"
  | .notFound _ => "not_found"
  | .storeUnavailable _ => "store_unavailable"
  | .storePermanent _ => "store_permanent"
  | .canceled => "canceled"
  | .broken _ _ => "internal"
  | .internal _ => "internal"

def status : Failure → Nat
  | .invalidRequest _ => 400
  | .invalidBlend _ => 400
  | .limitTooLarge _ _ => 400
  | .missingNamespace => 400
  | .unauthorized _ => 401
  | .notFound _ => 404
  | .storeUnavailable _ => 503
  | .storePermanent _ => 500
  | .canceled => 408
  | .broken _ _ => 500
  | .internal _ => 500

def message : Failure → String
  | .invalidRequest detail => "Invalid request: " ++ detail
  | .invalidBlend detail => "Invalid blend weights: " ++ detail
  | .limitTooLarge requested most =>
    "Requested k=" ++ toString requested ++ " exceeds the maximum of " ++ most.repr
  | .missingNamespace => "Namespace is required"
  | .unauthorized detail => "Unauthorized: " ++ detail
  | .notFound detail => "Not found: " ++ detail
  | .storeUnavailable detail => "Store unavailable: " ++ detail
  | .storePermanent detail => "Store failure: " ++ detail
  | .canceled => "Request canceled"
  | .broken invariant detail => "Invariant violated (" ++ invariant.name ++ "): " ++ detail
  | .internal detail => "Internal server error: " ++ detail

def publicMessage : Failure → String
  | .storePermanent _ => "internal error"
  | .broken _ _ => "internal error"
  | .internal _ => "internal error"
  | f => f.message

def details : Failure → Option Json.Value
  | .limitTooLarge requested most =>
    some (.object [("requested", .int requested), ("max", .int most)])
  | .broken invariant _ => some (.object [("kind", .text invariant.name)])
  | _ => none

def problem (f : Failure) (correlation : String) : Json.Value :=
  .object ([("error", .text f.code), ("message", .text f.publicMessage),
    ("correlation_id", .text correlation)] ++ f.details.toList.map fun d => ("details", d))

end Failure

end Recommendation
