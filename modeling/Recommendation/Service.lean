import Recommendation.Decimal.Reading
import Recommendation.Metrics
import Recommendation.Service.MediaType
import Recommendation.Service.RequestId
import Recommendation.Wire.Requests

/-!
The service: lists for users, items like others, the counters, and a sign of life. Every response
carries the identifier of its request. A failure is told in one form, whatever its cause.
-/

namespace Recommendation

namespace Service

open Time (Instant)

/-- What is told apart in answering: what a request has asked for, if there is anything of the kind. -/
inductive Route
  | health
  | metrics
  | recommend
  | similar (item : List Char)

def route? : List (List Char) → Option (String × Route)
  | [[], segment] =>
    match String.ofList segment with
    | "health" => some ("GET", .health)
    | "metrics" => some ("GET", .metrics)
    | _ => none
  | [[], v1, segment] =>
    if String.ofList v1 == "v1" && String.ofList segment == "recommendations" then
      some ("POST", .recommend)
    else none
  | [[], v1, items, item, similar] =>
    if String.ofList v1 == "v1" && String.ofList items == "items" &&
        String.ofList similar == "similar" then
      some ("GET", .similar item)
    else none
  | _ => none

/-- A service over an engine, with a library that keeps its counters. -/
structure Server (σ ρ : Type) where
  engine : Engine σ
  counters : CounterLibrary ρ
  /-- How long a request may take, in milliseconds. -/
  timeout : Nat := 10000

/-- What a request meets: whether the service is shutting down, the present, and an identifier that
nobody has. -/
structure Arrival where
  shutdown : Bool := false
  now : Instant
  fresh : String

def ok (value : Json.Value) : Response :=
  { status := 200, contentType := some "application/json", body := .data value }

def plain (status : Nat) (text : String) : Response :=
  { status, contentType := some "text/plain; charset=utf-8", body := .text text }

def problem (id : String) (f : Failure) : Response :=
  { status := f.status, contentType := some "application/problem+json"
    body := .data (f.problem id) }

def organization (r : Request) : Except Failure Identifier :=
  match r.header? "x-org-id" with
  | none => throw (.unauthorized "X-Org-ID header is required")
  | some value =>
    match ((plainValue? value).map Text.trim).bind Identifier.ofText? with
    | some org => pure org
    | none => throw (.invalidRequest "X-Org-ID must be a UUID")

def recommendRequest (r : Request) : Except Failure (RecommendRequest Float) :=
  if !((r.header? "content-type").bind plainValue?).any isJsonType then
    throw (.invalidRequest
      "Expected request with \x60Content-Type: application/json\x60")
  else
    match (Json.Node.ofFront? r.body).bind Wire.recommendRequest with
    | some request => pure request
    | none => throw (.invalidRequest "<json>")

def int64? (s : String) : Option Int := ((Decimal.Bounds.signed 64).read s).toOption

def bool? : String → Option Bool
  | "true" => some true
  | "false" => some false
  | _ => none

def single? (pairs : List (String × String)) (key : String) : Except Failure (Option String) :=
  match pairs.filter fun p => p.1 == key with
  | [] => pure none
  | [p] => pure (some p.2)
  | _ => throw (.invalidRequest "<query>")

def readValue {α : Type} (read : String → Option α) : Option String → Except Failure (Option α)
  | none => pure none
  | some s =>
    match read s with
    | some a => pure (some a)
    | none => throw (.invalidRequest "<query>")

/-- How long a list of similar items is unless the query says otherwise. -/
def defaultLength : Int := 20

def similarRequest (item : String) (query : List Char) : Except Failure SimilarRequest := do
  let pairs := queryPairs query
  let k ← readValue int64? (← single? pairs "k")
  let space ← single? pairs "namespace"
  let surface ← single? pairs "surface"
  let includeReasons ← readValue bool? (← single? pairs "include_reasons")
  return { itemId := item, space := space.getD "", surface, k := k.getD defaultLength
           includeReasons := includeReasons.getD false }

variable {σ ρ : Type}

def Server.context (s : Server σ ρ) (arrival : Arrival) (org : Identifier) (clock : Nat) : Context :=
  { org, now := arrival.now
    canceledAt := if arrival.shutdown then some clock else none
    deadline := some (clock + s.timeout) }

/-- The response to a request that the engine has served, and what the policy has done for it. -/
def Server.respond (s : Server σ ρ) (id : String) (served : Served Float) :
    Response × Option Observation :=
  match served.answer with
  | .ok answer =>
    ({ ok (Wire.ofResponse (s.engine.response answer)) with overrun := served.overrun },
      served.observed)
  | .error f => (problem id f, served.observed)

def Server.recommend (s : Server σ ρ) (arrival : Arrival) (id : String) (r : Request) :
    Timed σ (Response × Option Observation) := do
  let parsed : Except Failure (Identifier × RecommendRequest Float) := do
    let org ← organization r
    return (org, ← recommendRequest r)
  match parsed with
  | .error f => return (problem id f, none)
  | .ok (org, request) =>
    let ctx := s.context arrival org (← Timed.clock)
    return s.respond id (← s.engine.recommend ctx request)

def Server.similar (s : Server σ ρ) (arrival : Arrival) (id : String) (r : Request)
    (item query : List Char) : Timed σ (Response × Option Observation) := do
  match organization r with
  | .error f => return (problem id f, none)
  | .ok org =>
    match segmentText? item with
    | none => return (plain 400 "Invalid URL: Invalid UTF-8 in \x60item_id\x60", none)
    | some item =>
      match similarRequest item query with
      | .error f => return (problem id f, none)
      | .ok request =>
        let ctx := s.context arrival org (← Timed.clock)
        return s.respond id (← s.engine.similar ctx request)

def Server.exposition (s : Server σ ρ) (m : ρ) : Response :=
  match s.counters.text? m with
  | some (type, text) => { status := 200, contentType := some type, body := .text text }
  | none => plain 500 "metric encode error"

def Server.answer (s : Server σ ρ) (m : ρ) (arrival : Arrival) (id : String) (r : Request)
    (query : List Char) : Route → Timed σ (Response × Option Observation)
  | .health => return (ok (.object [("status", .text "healthy")]), none)
  | .metrics => return (s.exposition m, none)
  | .recommend => s.recommend arrival id r
  | .similar item => s.similar arrival id r item query

/-- Answers a request that has an identifier. Asking for the head of a response is asking for the
response without its body. -/
def Server.dispatch (s : Server σ ρ) (m : ρ) (arrival : Arrival) (id : String) (r : Request) :
    Timed σ (Response × Option Observation) := do
  let (path, query) := r.split
  match route? path with
  | none => return ({ status := 404 }, none)
  | some (method, route) =>
    if r.method == method then s.answer m arrival id r query route
    else if r.method == "HEAD" && method == "GET" then
      let (response, observed) ← s.answer m arrival id r query route
      return ({ response with body := .none }, observed)
    else return ({ status := 405 }, none)

/-- Answers a request and counts what the policy has done for it. Questions about the options of a
resource are answered before anything else. -/
def Server.handle (s : Server σ ρ) (m : ρ) (arrival : Arrival) (r : Request) :
    Timed σ (Response × ρ) := do
  if r.method == "OPTIONS" then return ({ status := 200 }, m)
  else
    let id := r.id arrival.fresh
    let (response, observed) ← s.dispatch m arrival id r
    return ({ response with requestId := some id }, observed.elim m (s.counters.observe m))

end Service

end Recommendation
