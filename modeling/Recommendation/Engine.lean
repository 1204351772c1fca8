import Recommendation.Engine.Ranking
import Recommendation.ModelVersion
import Recommendation.Request
import Recommendation.Store.Calendar

/-!
The engine answers two kinds of requests. A request is checked first, one thing after another, then
the store is asked. Whatever the policy has done for a list is told to those who keep count, also
when the engine has found its own work wrong.
-/

namespace Recommendation

open Time (Instant)

structure Answer (α : Type) where
  kind : ListKind
  weights : Weights α
  items : List (Recommended α)
  degraded : Bool
  summary : PolicySummary

structure Observation where
  space : String
  surface : String
  summary : PolicySummary

structure Served (α : Type) where
  answer : Except Failure (Answer α)
  observed : Option Observation := none
  /-- It has broken down instead, because its pins have overrun the slots. -/
  overrun : Bool := false

structure Engine (σ : Type) where
  settings : Settings
  store : Store σ

namespace Engine

variable {σ α : Type} [Score α]

def dated (e : Engine σ) : Engine (Dated σ) := ⟨e.settings, e.store.dated⟩

def blend (e : Engine σ) : Blend α :=
  ⟨.ofFloats e.settings.weights, Score.ofFloat e.settings.profileBoost⟩

def coVisitationOnly : Weights α := ⟨Score.zero, Score.one, Score.zero⟩

/-- A namespace without blanks at the ends, which must leave something. -/
def checkSpace (space : String) : Except Failure String :=
  let space := Text.trim space
  if space == "" then throw .missingNamespace else pure space

def checkLength (e : Engine σ) (k : Int) : Except Failure Nat :=
  if k ≤ 0 then throw (.invalidRequest "k must be positive")
  else if k ≤ e.settings.maxListLength then pure k.toNat
  else throw (.limitTooLarge k e.settings.maxListLength)

def checkConstraints (c : Option Constraints) : Except Failure Unit :=
  if c.all (·.hasValidPrices) then pure ()
  else throw (.invalidRequest "price_between must be [min, max] with 0 <= min <= max")

def surfaceOf (surface : Option String) : String :=
  let s := Text.trim (surface.getD "")
  if s == "" then "default" else s

structure Checked (α : Type) where
  user : String
  space : String
  k : Nat
  weights : Weights α

/-- Checks a request; the first fault counts. -/
def check (e : Engine σ) (r : RecommendRequest α) : Except Failure (Checked α) := do
  let user := Text.trim r.userId
  if user == "" then throw (.invalidRequest "user_id is required")
  let space ← checkSpace r.space
  let k ← e.checkLength r.k
  checkConstraints r.constraints
  let weights ← ((e.blend : Blend α).resolve r.blend).mapError fun w => .invalidBlend w.message
  return { user, space, k, weights }

structure CheckedSimilar where
  seed : String
  space : String
  k : Nat

def checkSimilar (e : Engine σ) (r : SimilarRequest) : Except Failure CheckedSimilar := do
  let seed := Text.trim r.itemId
  if seed == "" then throw (.invalidRequest "item_id is required")
  let space ← checkSpace r.space
  let k ← e.checkLength r.k
  return { seed, space, k }

def finish (kind : ListKind) (weights : Weights α) (withReasons degraded : Bool) (space surface : String)
    (ranked : Ranked α) : Served α :=
  let observed := some { space, surface, summary := ranked.summary }
  let overrun := ranked.overrun
  match ranked.fault with
  | none =>
    { observed, overrun
      answer := .ok
        { kind, weights, degraded, summary := ranked.summary
          items := ranked.list.map (·.shown withReasons) } }
  | some (.listBound, detail) => { overrun, answer := .error (.broken .listBound detail) }
  | some (invariant, detail) => { observed, overrun, answer := .error (.broken invariant detail) }

/-- The context of a request about the past: right before the instant it asks for. -/
def contextOf (ctx : Context) (asOf : Option Instant) : Context :=
  match asOf with
  | none => ctx
  | some t => { ctx with now := t.after (-1000) }

def signalInput (ctx : Context) (checked : Checked α) (types : EventTypes) : SignalInput :=
  { scope := ⟨ctx.org, checked.space⟩, user := some checked.user, seeds := none, excluded := []
    types }

def rankInput (e : Engine σ) (ctx : Context) (r : RecommendRequest α) (checked : Checked α)
    (types : EventTypes) : RankInput α :=
  { scope := ⟨ctx.org, checked.space⟩, surface := surfaceOf r.surface, blend := e.blend
    weights := checked.weights, seeds := [], user := some checked.user
    constraints := r.constraints, types, k := checked.k }

/-- A list counts as blended unless popularity alone has a say. -/
def listKind (weights : Weights α) : ListKind :=
  if Score.isPositive weights.coVisitation || Score.isPositive weights.profile then .blend
  else .popularity

def recommendSteps (e : Engine σ) (ctx : Context) (r : RecommendRequest α) : Step σ (Served α) := do
  let checked ← e.check r
  let ctx := contextOf ctx r.asOf
  let types ← (e.store.eventTypes ctx ⟨ctx.org, checked.space⟩).step
  let proposals ← Proposals.askAll e.settings e.store ctx (signalInput ctx checked types)
    (Signal.all.filter (Proposals.isActive e.blend checked.weights))
  let ranked ← Ranked.ofProposals e.settings e.store ctx (e.rankInput ctx r checked types)
    proposals.sets
  return finish (listKind checked.weights) checked.weights r.includeReasons proposals.degraded
    checked.space (surfaceOf r.surface) ranked

def similarSignalInput (ctx : Context) (checked : CheckedSimilar) (types : EventTypes) :
    SignalInput :=
  { scope := ⟨ctx.org, checked.space⟩, user := none, seeds := some [checked.seed]
    excluded := [checked.seed], types }

def similarRankInput (ctx : Context) (r : SimilarRequest) (checked : CheckedSimilar)
    (types : EventTypes) : RankInput α :=
  { scope := ⟨ctx.org, checked.space⟩, surface := surfaceOf r.surface
    blend := ⟨coVisitationOnly, Score.zero⟩, weights := coVisitationOnly, seeds := [checked.seed]
    user := none, constraints := none, types, k := checked.k }

def findSeed (e : Engine σ) (ctx : Context) (checked : CheckedSimilar) : Step σ Unit := do
  let found ← (e.store.itemsByIds ctx ⟨ctx.org, checked.space⟩ [checked.seed]).step
  if found.contains checked.seed then return () else throw (.notFound ("item " ++ checked.seed))

def similarSteps (e : Engine σ) (ctx : Context) (r : SimilarRequest) : Step σ (Served α) := do
  let checked ← e.checkSimilar r
  e.findSeed ctx checked
  let types ← (e.store.eventTypes ctx ⟨ctx.org, checked.space⟩).step
  let proposals ← Proposals.askAll e.settings e.store ctx (similarSignalInput ctx checked types)
    [.coVisitation]
  let ranked ← Ranked.ofProposals e.settings e.store ctx (similarRankInput ctx r checked types)
    proposals.sets
  return finish .similar coVisitationOnly r.includeReasons false checked.space
    (surfaceOf r.surface) ranked

def serve (steps : Step σ (Served α)) : Timed σ (Served α) := do
  match ← steps.run with
  | .ok served => return served
  | .error f => return { answer := .error f }

def recommend (e : Engine σ) (ctx : Context) (r : RecommendRequest α) : Timed σ (Served α) :=
  serve (e.recommendSteps ctx r)

def similar (e : Engine σ) (ctx : Context) (r : SimilarRequest) : Timed σ (Served α) :=
  serve (e.similarSteps ctx r)

def response (e : Engine σ) (a : Answer Float) : Response :=
  ⟨modelVersion a.kind e.settings a.weights, a.items, a.degraded⟩

end Engine

end Recommendation
