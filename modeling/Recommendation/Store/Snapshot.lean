import Recommendation.Score
import Recommendation.Store
import Recommendation.Time.Span

/-!
The data of one tenant in memory, and the reads of a store as functions of it. A read looks at the
events of a window that ends at the present. Every answer has an order of its own, so that the order
of the data does not show.
-/

namespace Recommendation

open Time (Instant)

structure Snapshot where
  items : List Item := []
  users : List User := []
  events : List Event := []
  eventTypes : List (Int × EventType) := []
  rules : List Rule := []

def Event.isVisible (since now : Instant) (e : Event) : Bool := since ≤ e.time && e.time ≤ now

/-- More popular items first, then later events, then the smaller identifier. -/
def PopularItem.order {α : Type} [Score α] (a b : PopularItem α) : Ordering :=
  ((Score.order b.score a.score).then (compare b.lastTime a.lastTime)).then
    (compare a.itemId b.itemId)

/-- Items that share more users first, then the smaller identifier. -/
def CoVisitor.order (a b : CoVisitor) : Ordering :=
  (floatOrder b.count a.count).then (compare a.itemId b.itemId)

def RecentItem.order (a b : RecentItem) : Ordering :=
  (compare b.lastTime a.lastTime).then (compare a.itemId b.itemId)

def Item.newestOrder (a b : Item) : Ordering :=
  (compare b.createdAt a.createdAt).then (compare a.id b.id)

def HoldoutSample.order (a b : HoldoutSample) : Ordering :=
  (compare b.time a.time).then (compare a.userId b.userId)

/-- The larger of two weights; one that is not a number does not count. -/
def heavier (a b : Float) : Float := if a.isNaN || a < b then b else a

namespace Snapshot

def window (s : Snapshot) (since now : Instant) : List Event :=
  s.events.filter (·.isVisible since now)

def windowOf (s : Snapshot) (user : String) (since now : Instant) : List Event :=
  (s.window since now).filter fun e => e.userId == user

def types (s : Snapshot) : EventTypes := .overDefaults s.eventTypes

def counts (q : PopularityQuery) (e : Event) : Bool :=
  !(q.types.weight e.kind ≤ 0.0) && !q.excluded.contains e.itemId

def contribution (q : PopularityQuery) (now : Instant) (e : Event) : Float :=
  q.types.weight e.kind * Time.decay (now.since e.time) q.halfLife

def popularity (s : Snapshot) (q : PopularityQuery) (now : Instant) : Dictionary (Float × Instant) :=
  ((s.window q.since now).filter (counts q)).foldl (fun d e =>
    d.alter e.itemId fun old =>
      let (score, last) := old.getD (0.0, e.time)
      (score + contribution q now e, last.later e.time)) .empty

def topPopular (s : Snapshot) (q : PopularityQuery) (now : Instant) : List (PopularItem Float) :=
  let items := (s.popularity q now).entries.map fun (id, score, last) => PopularItem.mk id score last
  (sortWith PopularItem.order (items.filter fun p => 0.0 < p.score)).take q.limit

/-- The users of each item other than the seed who have met the seed too, each user once. -/
def sharedUsers (seed : String) (events : List Event) : Dictionary (List String) :=
  let seedUsers := (events.filter fun e => e.itemId == seed).map (·.userId)
  (events.filter fun e => e.itemId != seed && seedUsers.contains e.userId).foldl
    (fun d e => d.alter e.itemId fun users => (users.getD []).insert e.userId) .empty

def coVisitors (s : Snapshot) (seed : String) (since now : Instant) (limit : Nat) :
    List CoVisitor :=
  let visitors := (sharedUsers seed (s.window since now)).entries.map fun (id, users) =>
    CoVisitor.mk id (Score.ofNat users.length)
  (sortWith CoVisitor.order visitors).take limit

def lastMet (types : EventTypes) (events : List Event) : Dictionary (Instant × Float) :=
  events.foldl (fun d e =>
    let weight := types.weight e.kind
    d.alter e.itemId fun old =>
      let (last, best) := old.getD (e.time, weight)
      (last.later e.time, heavier best weight)) .empty

def recentItems (s : Snapshot) (user : String) (since now : Instant) (limit : Nat)
    (types : EventTypes) : List RecentItem :=
  let items := (lastMet types (s.windowOf user since now)).entries.map fun (id, last, best) =>
    RecentItem.mk id last best
  (sortWith RecentItem.order items).take limit

/-- The records of the tenant's items; of two with one identifier the later one counts. -/
def records (s : Snapshot) : Dictionary Item := .ofList (s.items.map fun i => (i.id, i))

/-- How much a user's events weigh by tag: an event adds its weight once for every spelling of the
tag on its item. -/
def tagProfile (s : Snapshot) (user : String) (since now : Instant) (types : EventTypes) :
    Dictionary Float :=
  let records := s.records
  let credits := (s.windowOf user since now).flatMap fun e =>
    match records.get? e.itemId with
    | none => []
    | some item => item.normalTags.map fun tag => (tag, types.weight e.kind)
  (credits.foldl (fun d (tag, weight) => d.alter tag fun old => old.getD 0.0 + weight)
    Dictionary.empty).filter fun _ weight => 0.0 < weight

def itemsByIds (s : Snapshot) (ids : List String) : Dictionary Item :=
  .ofList ((s.items.filter fun i => ids.contains i.id).map fun i => (i.id, i))

def itemsWithAnyTag (s : Snapshot) (tags : List String) (limit : Nat) : List Item :=
  let wanted := tags.map normalTag
  let items := s.items.filter fun i => i.available && i.normalTags.any wanted.contains
  (sortWith Item.newestOrder items).take limit

def rulesFor (s : Snapshot) (space surface : String) (now : Instant) : List Rule :=
  Rule.sort (s.rules.filter fun r => r.space == space && r.holdsAt now && r.holdsOn surface)

def recentEventItems (s : Snapshot) (user : String) (kinds : List Int) (since now : Instant) :
    List String :=
  sortedTexts (((s.windowOf user since now).filter fun e => kinds.contains e.kind).map (·.itemId))

/-- The event comes later, or at the same time on an item with a smaller identifier. -/
def supersedes (e last : Event) : Bool :=
  last.time < e.time || (e.time == last.time && e.itemId < last.itemId)

def lastEvents (events : List Event) : Dictionary (Nat × Event) :=
  events.foldl (fun d e =>
    d.alter e.userId fun old =>
      let (count, last) := old.getD (0, e)
      (count + 1, if supersedes e last then e else last)) .empty

def holdoutSamples (s : Snapshot) (since now : Instant) (minEvents limit : Nat) :
    List HoldoutSample :=
  let samples := (lastEvents (s.window since now)).entries.filterMap fun (user, count, last) =>
    if minEvents ≤ count then some (HoldoutSample.mk user last.itemId last.time (count : Int)) else none
  (sortWith HoldoutSample.order samples).take limit

end Snapshot

end Recommendation
