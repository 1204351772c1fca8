import Recommendation.Json.Decode
import Recommendation.Text.Split
import Recommendation.Text.Utf8

/-!
Requests and responses of the service, and how the parts of a request are read: its headers, the
segments of its path and the pairs of its query.
-/

namespace Recommendation.Service

open Text (splitOn splitFirst)

structure Request where
  method : String
  /-- The path, and the query behind a question mark. -/
  target : String
  headers : List (String × String) := []
  body : String := ""

inductive Body
  | none
  | data (value : Json.Value)
  | text (text : String)

structure Response where
  status : Nat
  contentType : Option String := .none
  /-- The identifier of the request that is sent back with the response. -/
  requestId : Option String := .none
  body : Body := .none
  /-- Nothing is sent: the list has overrun the slots, and whatever was to answer has broken down. -/
  overrun : Bool := false

def Request.header? (r : Request) (name : String) : Option String :=
  (r.headers.find? fun h => Text.equalFolded h.1 name).map (·.2)

def plainValue? (value : String) : Option String :=
  if value.toList.all fun c => c == '\t' || (' ' ≤ c && c ≤ '~') then some value else none

/-- The bytes of a text in which a percent sign and two digits stand for a byte. -/
def percentDecoded : List UInt8 → List UInt8
  | 0x25 :: a :: b :: rest =>
    match Identifier.hexValue? (Char.ofNat a.toNat), Identifier.hexValue? (Char.ofNat b.toNat) with
    | some a, some b => (16 * a + b).toUInt8 :: percentDecoded rest
    | _, _ => 0x25 :: percentDecoded (a :: b :: rest)
  | b :: rest => b :: percentDecoded rest
  | [] => []

def bytesOf (cs : List Char) : List UInt8 := (String.ofList cs).toUTF8.toList

def segmentText? (cs : List Char) : Option String :=
  Text.ofBytes? (percentDecoded (bytesOf cs))

/-- A part of a query: plus signs are blanks, and what is no text is replaced. -/
def queryText (cs : List Char) : String :=
  Text.ofBytesLossy (percentDecoded ((bytesOf cs).map fun b => if b == 0x2B then 0x20 else b))

def queryPairs (query : List Char) : List (String × String) :=
  ((splitOn '&' query).filter (!·.isEmpty)).map fun part =>
    let (key, value) := splitFirst '=' part
    (queryText key, queryText (value.getD []))

/-- The segments of the path, and the query. What stands behind a number sign is for the caller. -/
def Request.split (r : Request) : List (List Char) × List Char :=
  let (path, query) := splitFirst '?' (r.target.toList.takeWhile (· != '#'))
  (splitOn '/' path, query.getD [])

end Recommendation.Service
