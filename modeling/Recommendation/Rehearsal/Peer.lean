import Recommendation.Store.Relational

/-!
A database that plays a script. It answers each statement with the next of its replies, and with the
last one from then on, and takes down what it has been sent. A connection whose statement is never
answered does not come back to the pool, so that enough of those leave the pool empty.
-/

namespace Recommendation.Rehearsal

open Relational

inductive Reply
  | rows (rows : List (List Json.Value))
  | refusal (code : Option String) (detail : String)
  | silence
  /-- The connection is closed. -/
  | hangUp

inductive Startup
  | welcome
  | refusal (code : Option String) (detail : String)
  | silence
  /-- Nobody is there. -/
  | absent

structure Script where
  replies : List (String × List Reply) := []
  /-- The columns that statements answer with instead of their own. -/
  columns : List (String × List Column) := []
  startup : Startup := .welcome

structure PoolOptions where
  maxConnections : Nat := 10
  /-- How long one waits for a connection, in milliseconds. -/
  acquireTimeout : Nat := 2000

structure Peer where
  /-- What has been sent, in order. -/
  calls : List (Statement × List Parameter) := []
  /-- How many connections will not come back. -/
  lost : Nat := 0
  closed : Bool := false

def doubleOf? : Json.Value → Option Float
  | .float x => some x
  | .int n => some (if n < 0 then -(Float.ofNat n.natAbs) else Float.ofNat n.natAbs)
  | .text "NaN" => some (0.0 / 0.0)
  | .text "inf" => some (1.0 / 0.0)
  | .text "-inf" => some (-1.0 / 0.0)
  | _ => none

def intOf? (bits : Nat) : Json.Value → Option Int
  | .int n => if -Nat.pow 2 (bits - 1) ≤ n ∧ n < Nat.pow 2 (bits - 1) then some n else none
  | _ => none

def textOf? : Json.Value → Option String
  | .text s => some s
  | _ => none

def cellOf? (type : ColumnType) (v : Json.Value) : Option Cell :=
  match type with
  | .int2 => (intOf? 16 v).map .int
  | .int4 => (intOf? 32 v).map .int
  | .int8 => (intOf? 64 v).map .int
  | .float8 => (doubleOf? v).map .float
  | .bool => match v with | .bool b => some (.bool b) | _ => none
  | .text => (textOf? v).map .text
  | .texts => match v with | .array xs => (xs.mapM textOf?).map .texts | _ => none
  | .time => ((textOf? v).bind Time.Instant.ofText?).map fun t => .time (wholeMicros t)
  | .identifier => ((textOf? v).bind Identifier.ofText?).map .identifier
  | .data => some (.data v)

def cell? (column : Column) : Json.Value → Option (Option Cell)
  | .null => some none
  | v => (cellOf? column.2 v).map some

def row? (columns : List Column) (values : List Json.Value) : Option Row :=
  ((columns.zip values).mapM fun c => cell? c.1 c.2).map (⟨columns, ·⟩)

def connectionReset : DatabaseError :=
  .communication "Connection reset by peer (os error 104)"

namespace Script

def columnsOf (script : Script) (s : Statement) : List Column :=
  ((script.columns.find? fun c => c.1 == s.name).map (·.2)).getD s.columns

/-- The reply to a statement that has been sent so many times before. -/
def replyTo (script : Script) (s : Statement) (before : Nat) : Reply :=
  let replies := ((script.replies.find? fun r => r.1 == s.name).map (·.2)).getD []
  (replies[before]?.or replies.getLast?).getD (.rows [])

/-- The answer that a reply makes. Values that do not fit their columns end the connection. -/
def answer (script : Script) (s : Statement) : Reply → Answer
  | .rows values =>
    match values.mapM (row? (script.columnsOf s)) with
    | some rows => ⟨.ok rows, some 0⟩
    | none => ⟨.error connectionReset, some 0⟩
  | .refusal code detail => ⟨.error (.reported code detail), some 0⟩
  | .silence => ⟨.ok [], none⟩
  | .hangUp => ⟨.error connectionReset, some 0⟩

/-- How the connection of a reply ends: the statement is never answered. -/
def isSilent : Reply → Bool
  | .silence => true
  | _ => false

def database (script : Script) (pool : PoolOptions) : Database Peer where
  execute s parameters _ := do
    let peer ← get
    if peer.closed then return ⟨.error .poolClosed, some 0⟩
    else if pool.maxConnections ≤ peer.lost then
      return ⟨.error .poolTimedOut, some pool.acquireTimeout⟩
    else
      let reply := script.replyTo s (peer.calls.countP fun c => c.1.name == s.name)
      set { peer with
        calls := peer.calls ++ [(s, parameters)]
        lost := if isSilent reply then peer.lost + 1 else peer.lost }
      return script.answer s reply

/-- The database is starting up or has too many connections, so that waiting may help. -/
def isBusyCode (code : String) : Bool := code == "53300" || code == "57P03"

/-- Opens the first connection of a pool. A pool without room or without patience opens none. -/
def connect (script : Script) (pool : PoolOptions) : Decoded Peer :=
  if pool.maxConnections = 0 ∨ pool.acquireTimeout = 0 then throw .poolTimedOut
  else
    match script.startup with
    | .welcome => return {}
    | .refusal code detail =>
      if code.any isBusyCode then throw .poolTimedOut else throw (.reported code detail)
    | .silence => throw .poolTimedOut
    | .absent => throw (.communication "No such file or directory (os error 2)")

end Script

end Recommendation.Rehearsal
