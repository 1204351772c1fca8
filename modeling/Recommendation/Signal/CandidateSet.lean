import Recommendation.Candidate
import Recommendation.Signal.TagProfile

/-!
What one signal proposes: items with scores between nought and one, the best of them at one. A set
that comes from a profile keeps it, so that items from elsewhere can be scored by it too.
-/

namespace Recommendation

open Time (Instant)

structure SignalEntry (α : Type) where
  /-- The raw score over the largest raw score of the set. -/
  score : α
  raw : α
  /-- The item or the tag that contributed most, if the signal tells. -/
  detail : Option String
  /-- The latest event behind the entry, if the signal tells. -/
  lastTime : Option Instant := none

structure CandidateSet (α : Type) where
  signal : Signal
  entries : Dictionary (SignalEntry α) := .empty
  profile : Option (TagProfile α) := none

/-- A score before it is divided by the largest, with its detail. -/
abbrev RawScore (α : Type) := String × α × Option String

namespace CandidateSet

variable {α : Type} [Score α]

def empty (signal : Signal) : CandidateSet α := { signal }

/-- The raw scores by item: those that are not finite or not positive count for nothing, several of
one item are added up, and the first detail is kept. -/
def gather (scores : List (RawScore α)) : Dictionary (α × Option String) :=
  scores.foldl (fun d (id, score, detail) =>
    if Score.isFinite score && Score.isPositive score then
      d.alter id fun old =>
        let (sum, kept) := old.getD (Score.zero, none)
        (sum + score, kept.or detail)
    else d) .empty

def ofRaw (signal : Signal) (scores : List (RawScore α)) : CandidateSet α :=
  let gathered := gather scores
  let largest := Score.largest (gathered.entries.map (·.2.1))
  if Score.isPositive largest then
    { signal, entries := gathered.map fun _ (raw, detail) =>
        { score := raw / largest, raw, detail } }
  else empty signal

def withRecency (set : CandidateSet α) (times : List (String × Instant)) : CandidateSet α :=
  { set with
    entries := times.foldl (fun d (id, time) =>
      if d.contains id then
        d.map fun id' e =>
          if id' = id then { e with lastTime := Time.laterOf e.lastTime (some time) } else e
      else d) set.entries }

def withProfile (set : CandidateSet α) (profile : TagProfile α) : CandidateSet α :=
  { set with profile := some profile }

def get? (set : CandidateSet α) (id : String) : Option (SignalEntry α) := set.entries.get? id

def ids (set : CandidateSet α) : List String := set.entries.keys

def ofProfile (profile : TagProfile α) (items : List Item) : CandidateSet α :=
  (ofRaw .profile (items.filterMap fun item =>
    (profile.overlap? item).map fun (score, tag) => (item.id, score, some tag))).withProfile profile

def union (sets : List (CandidateSet α)) : List String := sortedTexts (sets.flatMap ids)

def find? (sets : List (CandidateSet α)) (signal : Signal) : Option (CandidateSet α) :=
  sets.find? (·.signal == signal)

def replaceFirst (signal : Signal) (new : CandidateSet α) :
    List (CandidateSet α) → List (CandidateSet α)
  | [] => []
  | set :: rest => if set.signal = signal then new :: rest else set :: replaceFirst signal new rest

/-- Scores every proposed item by the profile of the profile set, if there is one, and not only the
items that the set has found by itself. -/
def widen (sets : List (CandidateSet α)) (items : Dictionary Item) : List (CandidateSet α) :=
  match (find? sets .profile).bind (·.profile) with
  | none => sets
  | some profile =>
    replaceFirst .profile (ofProfile profile ((union sets).filterMap items.get?)) sets

end CandidateSet

/-- Higher scores first, and of equal scores the smaller identifier. -/
def scoreOrder {α β : Type} [Score α] (a b : String × α × β) : Ordering :=
  (Score.order b.2.1 a.2.1).then (compare a.1 b.1)

def topScored {α β : Type} [Score α] (limit : Nat) (scored : List (String × α × β)) :
    List (String × α × β) :=
  (sortWith scoreOrder scored).take limit

end Recommendation
