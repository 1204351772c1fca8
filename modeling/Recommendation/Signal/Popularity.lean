import Recommendation.Signal.Input
import Recommendation.Time.Span

/-!
Items that many events have touched, recent ones more than old ones.
-/

namespace Recommendation.Signal

open Time (Instant)

variable {σ α : Type} [Score α]

def ofPopular (items : List (PopularItem Float)) : CandidateSet α :=
  (CandidateSet.ofRaw .popularity
    (items.map fun p => (p.itemId, Score.ofFloat p.score, none))).withRecency
    (items.map fun p => (p.itemId, p.lastTime))

def popular (settings : Settings) (store : Store σ) (ctx : Context) (input : SignalInput) :
    Read σ (CandidateSet α) := do
  let items ← store.topPopular ctx input.scope
    { since := ctx.now.minusDays settings.popularityWindow
      halfLife := settings.halfLife
      limit := settings.popularityFanout
      excluded := input.excluded
      types := input.types }
  return ofPopular items

end Recommendation.Signal
