import Recommendation.Json.Value
import Recommendation.Sorting
import Recommendation.Text.Lowercase

/-!
What a tenant's catalog holds: items, users, and the events in which users touched items. Tags are
free texts. Some carry a facet, such as a brand or a category, behind a configured start.
-/

namespace Recommendation

open Time (Instant)

structure Item where
  id : String
  available : Bool := true
  price : Option Float := none
  tags : List String := []
  /-- The client's own properties, which nothing here looks into. -/
  props : Json.Value := .null
  createdAt : Instant := Instant.epoch
deriving Inhabited

structure Event where
  userId : String
  itemId : String
  kind : Int
  value : Float := 1.0
  time : Instant
  details : Json.Value := .null

structure User where
  id : String
  traits : Json.Value := .null

/-- The form in which tags are compared: without blanks at the ends and in lower case. -/
def normalTag (tag : String) : String := Text.lowercase (Text.trim tag)

/-- What stands behind the first of the starts that the tag has and that leaves something. -/
def facetValue? (starts : List String) (tag : String) : Option String :=
  let tag := normalTag tag
  starts.findSome? fun start =>
    ((Text.dropStart? tag (Text.lowercase start)).map Text.trim).filter (· != "")

namespace Item

def normalTags (item : Item) : List String := item.tags.map normalTag

def facetValues (item : Item) (starts : List String) : List String :=
  sortedTexts (item.tags.filterMap (facetValue? starts))

/-- One of the tags is the given one up to blanks at the ends and the case of ASCII letters. -/
def hasTag (item : Item) (tag : String) : Bool :=
  item.tags.any fun t => Text.equalFolded (Text.trim t) (Text.trim tag)

end Item

end Recommendation
