import Recommendation.StoreError

/-!
What can go wrong between the store and its database, and what that means for a read: trouble on the
way to the database may pass, and so may some of the errors that the database itself reports.
-/

namespace Recommendation.Relational

inductive DatabaseError
  /-- The database has refused, with a state code of five characters if it gives one. -/
  | reported (code : Option String) (detail : String)
  | communication (detail : String)
  | secureChannel (detail : String)
  | protocol (detail : String)
  | configuration (detail : String)
  | rowNotFound
  | columnNotFound (name : String)
  | columnOutOfBounds (index length : Nat)
  /-- The value of a column, by its name in quotes or by its number, is not what is asked for. -/
  | undecodable (column : String)
  | workerCrashed
  | poolClosed
  | poolTimedOut
deriving DecidableEq, Repr

namespace DatabaseError

def message : DatabaseError → String
  | .reported _ detail => "error returned from database: " ++ detail
  | .communication detail => "error communicating with database: " ++ detail
  | .secureChannel detail => "error occurred while attempting to establish a TLS connection: " ++ detail
  | .protocol detail => "encountered unexpected or invalid data: " ++ detail
  | .configuration detail => "error with configuration: " ++ detail
  | .rowNotFound => "no rows returned by a query that expected to return at least one row"
  | .columnNotFound name => "no column found for name: " ++ name
  | .columnOutOfBounds index length =>
    "column index out of bounds: the len is " ++ length.repr ++ ", but the index is " ++ index.repr
  | .undecodable column => "error occurred while decoding column " ++ column ++ ": <decode>"
  | .workerCrashed => "attempted to communicate with a crashed background worker"
  | .poolClosed => "attempted to acquire a connection on a closed pool"
  | .poolTimedOut => "pool timed out while waiting for an open connection"

/-- The state code tells of a lost connection, of two transactions in each other's way, of too many
connections, or of a shutdown. -/
def isTransientCode (code : String) : Bool :=
  "08".toList.isPrefixOf code.toList || ["40001", "40P01", "53300", "57P01"].contains code

def isTransient : DatabaseError → Bool
  | .reported code _ => code.any isTransientCode
  | .communication _ => true
  | .secureChannel _ => true
  | .poolTimedOut => true
  | _ => false

def toStore (e : DatabaseError) : StoreError :=
  if e.isTransient then .transient e.message else .permanent e.message

end DatabaseError

end Recommendation.Relational
