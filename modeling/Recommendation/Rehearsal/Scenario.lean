import Recommendation.Failure
import Recommendation.Json.Lookup
import Recommendation.Rehearsal.Assembly
import Recommendation.Rehearsal.Overrides
import Recommendation.Rehearsal.Peer
import Recommendation.Store.Memory
import Recommendation.Wire.Requests
import Recommendation.Wire.Rules

/-!
Rehearsals as data texts: the data of tenants, what the reads of a store are told to do, the failures
they end in, the script of a database, and the context of a request.
-/

namespace Recommendation.Rehearsal

open Json

def storeError : Decoder StoreError := fun x => do
  match ← x.need "kind" text with
  | "timeout" => return .timeout (← x.getD "ms" count 0)
  | "transient" => return .transient (← x.getD "message" text "")
  | "permanent" => return .permanent (← x.getD "message" text "")
  | "unavailable" =>
    return .unavailable (← x.getD "operation" text "") (← x.getD "attempts" count 0)
      (← x.getD "message" text "")
  | "canceled" => return .canceled
  | _ => none

def invariant : Decoder Invariant := fun x => do
  let name ← text x
  [Invariant.leak, .strayRule, .listBound].find? fun i => i.name == name

def failure : Decoder Failure := fun x => do
  let detail ← x.getD "message" text ""
  match ← x.need "kind" text with
  | "invalid_request" => return .invalidRequest detail
  | "invalid_blend" => return .invalidBlend detail
  | "limit_too_large" =>
    return .limitTooLarge (← x.getD "requested" int64 0) (← x.getD "max" count 0)
  | "missing_namespace" => return .missingNamespace
  | "unauthorized" => return .unauthorized detail
  | "not_found" => return .notFound detail
  | "store_unavailable" => return .storeUnavailable detail
  | "store_permanent" => return .storePermanent detail
  | "canceled" => return .canceled
  | "invariant" => return .broken (← x.need "invariant" invariant) detail
  | "internal" => return .internal detail
  | _ => none

def databaseError : Decoder Relational.DatabaseError := fun x => do
  let detail ← x.getD "message" text ""
  match ← x.need "kind" text with
  | "database" => return .reported (← x.get? "code" text) detail
  | "io" => return .communication detail
  | "tls" => return .secureChannel detail
  | "protocol" => return .protocol detail
  | "configuration" => return .configuration detail
  | "row_not_found" => return .rowNotFound
  | "column_not_found" => return .columnNotFound detail
  | "worker_crashed" => return .workerCrashed
  | "pool_closed" => return .poolClosed
  | "pool_timed_out" => return .poolTimedOut
  | _ => none

def eventTypeEntry : Decoder (Int × EventType) := fun x => do
  let code ← x.need "code" int16
  let name ← x.getD "name" text ""
  let weight ← x.getD "weight" anyFloat 0.0
  let isConversion ← x.getD "is_conversion" bool false
  some (code, { name, weight, isConversion })

def tenant : Decoder (Scope × Snapshot) := fun x => do
  let org ← x.getD "org" identifier .none
  let space ← x.getD "namespace" text ""
  let items ← x.listD "items" Wire.item
  let users ← x.listD "users" Wire.user
  let events ← x.listD "events" Wire.event
  let eventTypes ← x.listD "event_types" eventTypeEntry
  let rules ← x.listD "rules" Wire.rule
  some (⟨org, space⟩, { items, users, events, eventTypes, rules })

def tenants (x : Node) : Option Tenants := x.listD "tenants" tenant

def popularItem : Decoder (PopularItem Float) := fun x => do
  some ⟨← x.need "item_id" text, ← x.getD "score" anyFloat 0.0, ← x.need "last_ts" instant⟩

def coVisitor : Decoder CoVisitor := fun x => do
  let (itemId, count) ← pair text anyFloat x
  some { itemId, count }

def recentItem : Decoder RecentItem := fun x => do
  some ⟨← x.need "item_id" text, ← x.need "last_ts" instant,
    ← x.getD "best_event_weight" anyFloat 0.0⟩

def tagWeights : Decoder (Dictionary Float) := fun x => do
  some (.ofList (← entries anyFloat x))

def override {α : Type} (rows : Decoder α) : Decoder (Override α) := fun x => do
  let delay ← x.getD "delay_ms" count 0
  let failure ← x.get? "err" storeError
  let rows ← x.get? "rows" rows
  some { delay, failure, rows }

/-- No rows at all: what the read answers cannot be told. -/
def noRows {α : Type} : Decoder α := fun _ => none

def overrides (x : Node) : Option Overrides :=
  x.getD "overrides" (fun o => do
    let eventTypes ← o.get? "event_type_weights" (override noRows)
    let topPopular ← o.get? "top_popular" (override (list popularItem))
    let coVisitors ← o.get? "co_visitors" (override (entries (list coVisitor)))
    let recentItems ← o.get? "user_recent_items" (override (list recentItem))
    let tagProfile ← o.get? "user_tag_profile" (override tagWeights)
    let itemsByIds ← o.get? "items_by_ids" (override noRows)
    let itemsWithAnyTag ← o.get? "items_with_any_tag" (override noRows)
    let rulesFor ← o.get? "rules_for" (override (list Wire.rule))
    let recentEventItems ← o.get? "recent_event_items" (override noRows)
    let holdoutSamples ← o.get? "holdout_samples" (override noRows)
    some { eventTypes, topPopular, coVisitors, recentItems, tagProfile, itemsByIds,
           itemsWithAnyTag, rulesFor, recentEventItems, holdoutSamples }) {}

def store {σ : Type} (x : Node) : Option (Store σ) := do
  some ((← overrides x).apply (Store.memory (← tenants x)))

/-- The context of a request that starts at the given point. The fields of the first node come before
those of the second. -/
def context (clock : Nat) (first second : Node) : Option Context := do
  let either {α : Type} (name : String) (decode : Decoder α) : Option (Option α) := do
    match ← first.get? name decode with
    | some a => some (some a)
    | none => second.get? name decode
  let org ← either "org" identifier
  let now ← either "now" instant
  let timeout ← first.get? "timeout_ms" count
  let canceled ← first.getD "cancel" bool false
  let cancelAt ← first.get? "cancel_at_ms" count
  let later := cancelAt.map (clock + ·)
  some { org := org.getD .none, now := now.getD .epoch
         canceledAt := if canceled then some clock else later
         deadline := timeout.map (clock + ·) }

def columnType : Decoder Relational.ColumnType := fun x => do
  match ← text x with
  | "int2" => return .int2
  | "int4" => return .int4
  | "int8" => return .int8
  | "float8" => return .float8
  | "bool" => return .bool
  | "text" => return .text
  | "text[]" => return .texts
  | "timestamptz" => return .time
  | "uuid" => return .identifier
  | "jsonb" => return .data
  | _ => none

def refusal : Decoder (Option String × String) := fun x => do
  some (← x.get? "code" text, ← x.getD "message" text "")

def reply : Decoder Reply := fun x => do
  if ← x.getD "hang" bool false then return .silence
  if ← x.getD "drop" bool false then return .hangUp
  match ← x.get? "error" refusal with
  | some (code, detail) => return .refusal code detail
  | none => return .rows (← x.listD "rows" (list anyValue))

def script : Decoder Script := fun x => do
  let replies ← x.getD "replies" (entries (list reply)) []
  let columns ← x.getD "columns" (entries (list (pair text columnType))) []
  let startup ←
    if ← x.getD "no_server" bool false then pure .absent
    else if ← x.getD "startup_hang" bool false then pure .silence
    else
      match ← x.get? "startup_error" refusal with
      | some (code, detail) => pure (.refusal code detail)
      | none => pure .welcome
  some { replies, columns, startup }

def poolOptions (x : Node) : Option (PoolOptions × RetryOptions) := do
  let pool : PoolOptions :=
    { maxConnections := ← x.getD "db_max_connections" count 10
      acquireTimeout := ← x.getD "db_acquire_timeout_ms" count 2000 }
  let options : RetryOptions :=
    { queryTimeout := ← x.getD "query_timeout_ms" count 5000
      attempts := ← x.getD "retry_attempts" count 3
      initialBackoff := ← x.getD "retry_initial_backoff_ms" count 1
      maxBackoff := ← x.getD "retry_max_backoff_ms" count 2 }
  some (pool, options)

def namedStep {α : Type} (step : String → Node → Option α) : Decoder α := fun x =>
  match x with
  | .array [name, argument] => do step (← text name) argument
  | .array [name] => do step (← text name) .null
  | _ => none

def itemStep : Decoder ItemStep := namedStep fun name x =>
  match name with
  | "with_tags" => (list text x).map .tags
  | "with_price" => (anyFloat x).map .price
  | "created" => (instant x).map .created
  | "unavailable" => some .unavailable
  | _ => none

def ruleStep : Decoder RuleStep := namedStep fun name x =>
  match name with
  | "on_surface" => (text x).map .surface
  | "with_priority" => (int32 x).map .priority
  | "with_max_pins" => (count x).map .maxPins
  | _ => none

def snapshotStep : Decoder SnapshotStep := namedStep fun name x =>
  match name with
  | "item" => (Wire.item x).map fun i => .items [i]
  | "items" => (list Wire.item x).map .items
  | "user" => (Wire.user x).map .user
  | "event" => (Wire.event x).map fun e => .events [e]
  | "events" => (list Wire.event x).map .events
  | "event_type" => (pair int16 (Wire.eventType anyFloat) x).map fun t => .eventType t.1 t.2
  | "rule" => (Wire.rule x).map .rule
  | _ => none

end Recommendation.Rehearsal
