import Recommendation.Catalog
import Recommendation.Score

/-!
A user's interests as weights of tags, and how much of them an item carries. Spellings of a tag that
compare equal share one weight.
-/

namespace Recommendation

structure TagProfile (α : Type) where
  weights : Dictionary α
  /-- One for users with enough of a history, less for others. -/
  attenuation : α

namespace TagProfile

variable {α : Type} [Score α]

/-- A profile from tags in any spelling; of spellings that compare equal the last one counts. -/
def ofTags (tags : List (String × α)) (attenuation : α) : TagProfile α :=
  ⟨.ofList (tags.map fun t => (normalTag t.1, t.2)), attenuation⟩

def tagNames (p : TagProfile α) : List String := p.weights.keys

def shared (p : TagProfile α) (item : Item) : List (String × α) :=
  (sortedTexts item.normalTags).filterMap fun t => (p.weights.get? t).map fun w => (t, w)

/-- The heaviest of weighted tags, the first one of equals. -/
def heaviest? : List (String × α) → Option String
  | [] => none
  | t :: rest => some (rest.foldl (fun best t => if Score.below best.2 t.2 then t else best) t).1

def overlap? (p : TagProfile α) (item : Item) : Option (α × String) :=
  let shared := p.shared item
  (heaviest? shared).map fun tag => (Score.sum (shared.map (·.2)), tag)

end TagProfile

end Recommendation
