import Recommendation.Signal.CandidateSet

/-!
One list out of the proposals of several signals. An item's score is the weighted sum of what the
signals say, and the profile can multiply it on top of that. Items whose sum is not positive are
left out.
-/

namespace Recommendation

open Time (Instant)

structure Blend (α : Type) where
  defaults : Weights α
  /-- How much a full match with the user's profile multiplies a score by, beyond one. -/
  profileBoost : α

namespace Blend

variable {α : Type} [Score α]

def resolve (blend : Blend α) (requested : Option (Weights α)) : Except WeightsError (Weights α) :=
  let weights := requested.getD blend.defaults
  weights.validate.map fun _ => weights

def usesProfile (blend : Blend α) (weights : Weights α) : Bool :=
  Score.isPositive weights.profile || Score.isPositive blend.profileBoost

def combined (weights : Weights α) (c : Candidate α) : α :=
  weights.popularity * c.popularity + weights.coVisitation * c.coVisitation +
    weights.profile * c.profile

structure Entries (α : Type) where
  popularity : Option (SignalEntry α)
  coVisitation : Option (SignalEntry α)
  profile : Option (SignalEntry α)

def entriesOf (sets : List (CandidateSet α)) (id : String) : Entries α :=
  let get (s : Signal) := (CandidateSet.find? sets s).bind (·.get? id)
  ⟨get .popularity, get .coVisitation, get .profile⟩

def scoreOf (e : Option (SignalEntry α)) : α :=
  match e with
  | none => Score.zero
  | some e => e.score

/-- The signals whose weight and whose score are positive. -/
def weighted (weights : Weights α) (c : Candidate α) : List Signal :=
  Signal.all.filter fun s => Score.isPositive (weights.get s) && Score.isPositive (c.signal s)

def multiplier (blend : Blend α) (attenuation : α) (c : Candidate α) : α :=
  Score.one + blend.profileBoost * c.profile * attenuation

def boosted (blend : Blend α) (attenuation : α) (c : Candidate α) : Candidate α :=
  if Score.isPositive blend.profileBoost && Score.isPositive c.profile then
    { c with
      score := c.score * blend.multiplier attenuation c
      provenance := if c.has .profile then c.provenance else c.provenance ++ [.profile] }
  else c

def lastTime (e : Entries α) : Option Instant :=
  [e.popularity, e.coVisitation, e.profile].foldl
    (fun t e => Time.laterOf t (e.bind (·.lastTime))) none

/-- The candidate that the entries of an item make, if its sum is positive. -/
def candidate? (blend : Blend α) (weights : Weights α) (attenuation : α) (id : String)
    (e : Entries α) : Option (Candidate α) :=
  let c : Candidate α :=
    { id, score := Score.zero, popularity := scoreOf e.popularity,
      coVisitation := scoreOf e.coVisitation, profile := scoreOf e.profile }
  let c := { c with score := combined weights c, provenance := weighted weights c }
  if Score.isPositive c.score then
    let c := blend.boosted attenuation c
    some { c with
      lastTime := lastTime e
      seed := if c.has .coVisitation then e.coVisitation.bind (·.detail) else none
      topTag := if c.has .profile then e.profile.bind (·.detail) else none }
  else none

def attenuationOf (sets : List (CandidateSet α)) : α :=
  match (CandidateSet.find? sets .profile).bind (·.profile) with
  | none => Score.one
  | some p => p.attenuation

def candidates (blend : Blend α) (weights : Weights α) (sets : List (CandidateSet α)) :
    List (Candidate α) :=
  Candidate.rank ((CandidateSet.union sets).filterMap fun id =>
    blend.candidate? weights (attenuationOf sets) id (entriesOf sets id))

end Blend

end Recommendation
