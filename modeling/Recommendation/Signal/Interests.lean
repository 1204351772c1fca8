import Recommendation.Signal.Input
import Recommendation.Time.Span

/-!
Items that carry the tags that a user's events weigh most on. Users with little history get less of
the boost that goes with it.
-/

namespace Recommendation.Signal

open Time (Instant)

variable {σ α : Type} [Score α]

/-- Heavier tags first, and of equal weights the smaller tag. -/
def tagOrder (a b : String × Float) : Ordering :=
  (floatOrder b.2 a.2).then (compare a.1 b.1)

def topTags (limit : Nat) (history : Dictionary Float) : List (String × Float) :=
  (sortWith tagOrder history.entries).take limit

/-- How far the boost applies to a user: all the way with enough recent items. -/
def attenuation (settings : Settings) (store : Store σ) (ctx : Context) (input : SignalInput)
    (user : String) : Read σ Float := do
  let enough := settings.profileMinEvents
  if enough = 0 then return 1.0
  else
    let recent ← store.recentItems ctx input.scope user (ctx.now.minusDays settings.profileWindow)
      enough input.types
    return if enough ≤ recent.length then 1.0 else Time.unitInterval settings.coldStart

def ofTagged (fanout : Nat) (profile : TagProfile α) (items : List Item) : CandidateSet α :=
  let scored := items.filterMap fun item =>
    (profile.overlap? item).map fun (score, tag) => (item.id, score, tag)
  (CandidateSet.ofRaw .profile ((topScored fanout scored).map fun (id, score, tag) =>
    (id, score, some tag))).withProfile profile

def interesting (settings : Settings) (store : Store σ) (ctx : Context) (input : SignalInput) :
    Read σ (CandidateSet α) :=
  match input.user with
  | none => return .empty .profile
  | some user => do
    let history ← store.tagProfile ctx input.scope user (ctx.now.minusDays settings.profileWindow)
      input.types
    let tags := topTags settings.profileTags history
    if tags.isEmpty then return .empty .profile
    else
      let attenuation ← attenuation settings store ctx input user
      let profile : TagProfile α :=
        .ofTags (tags.map fun t => (t.1, Score.ofFloat t.2)) (Score.ofFloat attenuation)
      let items ← store.itemsWithAnyTag ctx input.scope profile.tagNames settings.profileFanout
      return ofTagged settings.profileFanout profile items

end Recommendation.Signal
