import Recommendation.Engine
import Recommendation.Time.Span

/-!
How good weights are, judged by events that are held back. For each sampled user the last event is
hidden, a list is asked for as of right before it, and the list is good if it has the hidden item,
the better the further up. Weights are judged one after another on the same samples.
-/

namespace Recommendation

structure BlendCandidate where
  name : String
  weights : Weights Float

namespace BlendCandidate

def validate (c : BlendCandidate) : Except Failure Unit := do
  if Text.isBlankText c.name then throw (.invalidRequest "candidate name is required")
  c.weights.validate.mapError fun e => .invalidBlend (c.name ++ ": " ++ e.message)

end BlendCandidate

structure EvaluationOptions where
  space : String
  /-- How long the lists are. -/
  k : Int := 20
  /-- How many users are sampled, and how many events each must have. -/
  limit : Nat := 200
  minEvents : Nat := 5
  /-- How far back the events may lie, in days. -/
  lookback : Float := 30.0

structure Evaluation where
  name : String
  total : Nat
  hits : Nat
  hitRate : Float
  meanReciprocalRank : Float
  /-- Over the hits only. -/
  averageRank : Float
  coverage : Float
  averageLength : Float
  failures : Nat

namespace Evaluation

/-- A hidden item, and the list that was to have it if there is one. -/
abbrev Outcome := String × Option (List String)

/-- A quotient, nought over nothing. -/
def ratio (x : Float) (n : UInt64) : Float := if n = 0 then 0.0 else x / n.toFloat

/-- The place of the hidden item in the list, from one on. -/
def rank? (o : Outcome) : Option Nat :=
  o.2.bind fun list => (list.findIdx? (· == o.1)).map (· + 1)

/-- All lists together have more places than 64 bits count. An evaluation breaks down when it comes to
the share of them that is covered. -/
def overruns (k total : Nat) : Bool := 0x10000000000000000 ≤ total * k

/-- The marks for lists of the given length, if their places can be counted. -/
def ofOutcomes (name : String) (k : Nat) (outcomes : List Outcome) : Evaluation :=
  let lists := outcomes.filterMap (·.2)
  let ranks := outcomes.filterMap rank?
  let count (n : Nat) : Float := Score.ofNat n
  let total := outcomes.length
  { name
    total
    hits := ranks.length
    hitRate := ratio (count ranks.length) total.toUInt64
    meanReciprocalRank :=
      ratio (Score.sum (ranks.map fun r => 1.0 / count r)) total.toUInt64
    averageRank := ratio (count (ranks.foldl (· + ·) 0)) ranks.length.toUInt64
    coverage := ratio (count lists.flatten.eraseDups.length) (total * k).toUInt64
    averageLength := ratio (count (lists.foldl (· + ·.length) 0)) total.toUInt64
    failures := outcomes.countP (·.2.isNone) }

abbrev Recommender (σ : Type) :=
  Context → RecommendRequest Float → Timed σ (Except Failure (List String))

def engineRecommender {σ : Type} (e : Engine σ) : Recommender σ := fun ctx r => do
  return (← e.recommend ctx r).answer.map fun a => a.items.map (·.itemId)

variable {σ : Type}

/-- An engine over a backend with a note, where lists that overrun the slots are noted too. -/
def notedRecommender (e : Engine (Dated σ)) : Recommender (Dated σ) := fun ctx r => do
  let served ← e.recommend ctx r
  if served.overrun then Dated.note
  return served.answer.map fun a => a.items.map (·.itemId)

/-- The request that a sample makes: a list right before the event that is held back. -/
def requestFor (options : EvaluationOptions) (c : BlendCandidate) (s : HoldoutSample) :
    RecommendRequest Float :=
  { userId := s.userId, space := options.space, k := options.k, blend := some c.weights
    asOf := some s.time }

/-- The outcome of one sample. A list that cannot be made counts as a failure; only cancellation
ends everything. -/
def judgeSample (recommend : Recommender σ) (ctx : Context) (options : EvaluationOptions)
    (c : BlendCandidate) (s : HoldoutSample) : Step σ Outcome := do
  if ctx.isCanceledBy (← ExceptT.lift Timed.clock) then throw .canceled
  match ← ExceptT.lift (recommend ctx (requestFor options c s)) with
  | .ok list => return (s.itemId, some list)
  | .error .canceled => throw .canceled
  | .error _ => return (s.itemId, none)

def judge (recommend : Recommender σ) (ctx : Context) (options : EvaluationOptions)
    (samples : List HoldoutSample) (c : BlendCandidate) : Step σ Evaluation := do
  let outcomes ← samples.mapM (judgeSample recommend ctx options c)
  return ofOutcomes c.name options.k.toNat outcomes

/-- The candidates that an evaluation comes to: all of them, unless it breaks down at the first. -/
def reached (options : EvaluationOptions) (samples : List HoldoutSample)
    (candidates : List BlendCandidate) : List BlendCandidate :=
  if overruns options.k.toNat samples.length then candidates.take 1 else candidates

def evaluate (recommend : Recommender σ) (ctx : Context) (options : EvaluationOptions)
    (candidates : List BlendCandidate) (samples : List HoldoutSample) :
    Step σ (List Evaluation) := do
  if options.k ≤ 0 then throw (.invalidRequest "k must be positive")
  candidates.forM fun c => liftM c.validate
  (reached options samples candidates).mapM (judge recommend ctx options samples)

/-- The marks for lists of the given length; none if the evaluation has broken down. -/
def completed? (k : Nat) (marks : List Evaluation) : Option (List Evaluation) :=
  if marks.any fun e => overruns k e.total then none else some marks

def samples (store : Store σ) (ctx : Context) (options : EvaluationOptions) :
    Step σ (List HoldoutSample) :=
  (store.holdoutSamples ctx ⟨ctx.org, options.space⟩ (ctx.now.minusDays options.lookback)
    options.minEvents options.limit).step

def run (recommend : Recommender σ) (store : Store σ) (ctx : Context) (options : EvaluationOptions)
    (candidates : List BlendCandidate) : Step σ (List Evaluation) := do
  evaluate recommend ctx options candidates (← samples store ctx options)

end Evaluation

end Recommendation
