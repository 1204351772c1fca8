import Recommendation.Catalog
import Recommendation.EventTypes
import Recommendation.Json.Decode

/-!
Items, events, users and kinds of events as data texts.
-/

namespace Recommendation.Wire

open Json

def item : Decoder Item := fun x => do
  let f ← Fields.of? [["item_id"], ["available"], ["price"], ["tags"], ["props"], ["created_at"]] x
  let id ← f.required 0 text
  let available ← f.required 1 bool
  let price ← f.optional 2 float
  let tags ← f.required 3 (list text)
  let props ← f.withDefault 4 (value 1) .null
  let createdAt ← f.required 5 instant
  some { id, available, price, tags, props, createdAt }

/-- Events. An event without a value counts as one. -/
def event : Decoder Event := fun x => do
  let f ← Fields.of? [["user_id"], ["item_id"], ["event_type"], ["value"], ["ts"], ["meta"]] x
  let userId ← f.required 0 text
  let itemId ← f.required 1 text
  let kind ← f.required 2 int16
  let worth ← f.withDefault 3 float 1.0
  let time ← f.required 4 instant
  let details ← f.withDefault 5 (value 1) .null
  some { userId, itemId, kind, value := worth, time, details }

def user : Decoder User := fun x => do
  let f ← Fields.of? [["user_id"], ["traits"]] x
  let id ← f.required 0 text
  let traits ← f.withDefault 1 (value 1) .null
  some { id, traits }

def eventType (number : Decoder Float) : Decoder EventType := fun x => do
  let f ← Fields.of? [["name"], ["weight"], ["is_conversion"]] x
  let name ← f.required 0 text
  let weight ← f.required 1 number
  let isConversion ← f.required 2 bool
  some { name, weight, isConversion }

def ofInstant (t : Time.Instant) : Value := .text t.toText

def ofText? (s : Option String) : Value := Value.ofOption .text s

def ofItem (i : Item) : Value :=
  .object [("item_id", .text i.id), ("available", .bool i.available),
    ("price", Value.ofOption .float i.price), ("tags", Value.texts i.tags), ("props", i.props),
    ("created_at", ofInstant i.createdAt)]

def ofEvent (e : Event) : Value :=
  .object [("user_id", .text e.userId), ("item_id", .text e.itemId), ("event_type", .int e.kind),
    ("value", .float e.value), ("ts", ofInstant e.time), ("meta", e.details)]

def ofUser (u : User) : Value := .object [("user_id", .text u.id), ("traits", u.traits)]

def ofEventType (t : EventType) : Value :=
  .object [("name", .text t.name), ("weight", .float t.weight),
    ("is_conversion", .bool t.isConversion)]

end Recommendation.Wire
