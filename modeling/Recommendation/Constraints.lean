import Recommendation.Catalog
import Recommendation.Score

/-!
What a request asks of the items it gets: a tag out of some, a price in a range, an age, and none of
the items it names.
-/

namespace Recommendation

open Time (Instant)

structure Constraints where
  includeTagsAny : List String := []
  /-- The least and the greatest price, both allowed. -/
  priceBetween : Option (Float × Float) := none
  createdAfter : Option Instant := none
  excludeItemIds : List String := []

namespace Constraints

/-- The tags asked for, in the form in which tags are compared; blank ones ask for nothing. -/
def wantedTags (c : Constraints) : List String :=
  sortedTexts ((c.includeTagsAny.map normalTag).filter (· != ""))

def excluded (c : Constraints) : List String := c.excludeItemIds.map Text.trim

def allowsTags (c : Constraints) (item : Item) : Bool :=
  c.wantedTags.isEmpty || item.normalTags.any c.wantedTags.contains

/-- The price is in the range asked for; an item without a price is in none. -/
def allowsPrice (c : Constraints) (item : Item) : Bool :=
  match c.priceBetween, item.price with
  | none, _ => true
  | some _, none => false
  | some (low, high), some price => low ≤ price && price ≤ high

def allowsAge (c : Constraints) (item : Item) : Bool :=
  c.createdAfter.all fun t => decide (t < item.createdAt)

def allows (c : Constraints) (item : Item) : Bool :=
  c.allowsTags item && c.allowsPrice item && c.allowsAge item

/-- A range of prices is finite, not negative, and starts before it ends. -/
def hasValidPrices (c : Constraints) : Bool :=
  c.priceBetween.all fun (low, high) =>
    low.isFinite && high.isFinite && !(low < 0.0) && !(high < low)

end Constraints

end Recommendation
