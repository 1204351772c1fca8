import Recommendation.EventTypes
import Recommendation.Rule
import Recommendation.Timed

/-!
What the engine asks of a store: ten reads, each confined to one organization and namespace, and
none of which sees an event after the present of its context.
-/

namespace Recommendation

open Time (Instant)

structure PopularItem (α : Type) where
  itemId : String
  score : α
  lastTime : Instant

structure CoVisitor where
  itemId : String
  /-- How many users the two items share. -/
  count : Float

structure RecentItem where
  itemId : String
  lastTime : Instant
  bestWeight : Float

/-- The last event of a user, held back so that a list can be judged by it. -/
structure HoldoutSample where
  userId : String
  itemId : String
  time : Instant
  eventCount : Int

structure PopularityQuery where
  since : Instant
  halfLife : Float
  limit : Nat
  excluded : List String
  types : EventTypes

structure Store (σ : Type) where
  /-- The kinds of events of the tenant, over the defaults. -/
  eventTypes : Context → Scope → Read σ EventTypes
  /-- The most popular items, most popular first. -/
  topPopular : Context → Scope → PopularityQuery → Read σ (List (PopularItem Float))
  /-- The items that share users with a seed, those that share most first. -/
  coVisitors : Context → Scope → (seed : String) → (since : Instant) → (limit : Nat) →
    Read σ (List CoVisitor)
  /-- The items that a user has met, the latest first. -/
  recentItems : Context → Scope → (user : String) → (since : Instant) → (limit : Nat) →
    EventTypes → Read σ (List RecentItem)
  /-- How much a user's events weigh by tag. -/
  tagProfile : Context → Scope → (user : String) → (since : Instant) → EventTypes →
    Read σ (Dictionary Float)
  itemsByIds : Context → Scope → (ids : List String) → Read σ (Dictionary Item)
  /-- Available items with one of the tags, the newest first. -/
  itemsWithAnyTag : Context → Scope → (tags : List String) → (limit : Nat) → Read σ (List Item)
  /-- The rules that hold on a surface, in the order in which they apply. -/
  rulesFor : Context → Scope → (surface : String) → Read σ (List Rule)
  /-- The items on which a user has events of some kinds. -/
  recentEventItems : Context → Scope → (user : String) → (kinds : List Int) →
    (since : Instant) → Read σ (List String)
  /-- The last event of each user with enough of them, the latest first. -/
  holdoutSamples : Context → Scope → (since : Instant) → (minEvents limit : Nat) →
    Read σ (List HoldoutSample)

end Recommendation
