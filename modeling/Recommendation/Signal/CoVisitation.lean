import Recommendation.Signal.Input
import Recommendation.Time.Span

/-!
Items that share users with some seeds: items named by the request, or those that its user has met.
Each seed spreads its weight over the items that share users with it, the closest of them getting all
of it. An item adds up what it gets and remembers the seed that gave most.
-/

namespace Recommendation.Signal

open Time (Instant)

variable {σ α : Type} [Score α]

abbrev Seed (α : Type) := String × α

/-- The weight of an item that the user has met: its heaviest event, less with age. -/
def seedOf (settings : Settings) (now : Instant) (item : RecentItem) : Seed α :=
  (item.itemId, Score.ofFloat item.bestWeight *
    Score.ofFloat (Time.decay (now.since item.lastTime) settings.halfLife))

/-- The seeds of a request, those of the latest items first. -/
def seeds (settings : Settings) (store : Store σ) (ctx : Context) (input : SignalInput) :
    Read σ (List (Seed α)) :=
  match input.seeds, input.user with
  | some ids, _ => return ids.map fun id => (id, Score.one)
  | none, none => return []
  | none, some user => do
    let items ← store.recentItems ctx input.scope user
      (ctx.now.minusDays settings.coVisitationWindow) settings.maxSeeds input.types
    return (items.map (seedOf settings ctx.now)).filter fun s => Score.isPositive s.2

/-- What an item has got so far: the sum, the largest part and the seed that gave it. -/
structure Share (α : Type) where
  sum : α
  best : α
  seed : String

def Share.add (share : Share α) (part : α) (seed : String) : Share α :=
  if Score.below share.best part then ⟨share.sum + part, part, seed⟩
  else { share with sum := share.sum + part }

/-- Spreads the weight of a seed over the items that share users with it. Seeds get nothing. -/
def spread (seedIds : List String) (shares : Dictionary (Share α)) (seed : Seed α)
    (visitors : List CoVisitor) : Dictionary (Share α) :=
  let counts := visitors.map fun v => (v.itemId, (Score.ofFloat v.count : α))
  let largest := Score.largest (counts.map (·.2))
  if Score.isPositive largest then
    (counts.filter fun c => !seedIds.contains c.1).foldl (fun shares (id, count) =>
      shares.alter id fun old =>
        (old.getD ⟨Score.zero, Score.zero, seed.1⟩).add (seed.2 * (count / largest)) seed.1) shares
  else shares

def ofNeighbours (fanout : Nat) (neighbours : List (Seed α × List CoVisitor)) : CandidateSet α :=
  let seedIds := neighbours.map (·.1.1)
  let shares := neighbours.foldl (fun shares n => spread seedIds shares n.1 n.2) Dictionary.empty
  let scored := topScored fanout (shares.entries.map fun (id, s) => (id, s.sum, s.seed))
  .ofRaw .coVisitation (scored.map fun (id, score, seed) => (id, score, some seed))

def coVisited (settings : Settings) (store : Store σ) (ctx : Context) (input : SignalInput) :
    Read σ (CandidateSet α) := do
  let seeds : List (Seed α) ← seeds settings store ctx input
  if seeds.isEmpty then return .empty .coVisitation
  else
    let since := ctx.now.minusDays settings.coVisitationWindow
    let visitors ← Read.all (seeds.map fun s =>
      store.coVisitors ctx input.scope s.1 since settings.coVisitationFanout)
    return ofNeighbours settings.coVisitationFanout (seeds.zip visitors)

end Recommendation.Signal
