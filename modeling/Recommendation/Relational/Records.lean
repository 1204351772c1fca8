import Recommendation.Relational.Row
import Recommendation.Relational.RuleRow
import Recommendation.Store

/-!
Rows as the records that reads answer with. Columns are looked up one after another, and the first
one that is not as it should be fails the row.
-/

namespace Recommendation.Relational

namespace Row

open CellReader

def eventType (row : Row) : Decoded (Int × EventType) := do
  let code ← row.get "type" (int .int2)
  let name ← row.get "name" text
  let weight ← row.get "weight" float
  let isConversion ← row.get "is_conversion" bool
  return (code, { name, weight, isConversion })

def popularItem (row : Row) : Decoded (PopularItem Float) := do
  let itemId ← row.get "item_id" text
  let score ← row.get "score" float
  let lastTime ← row.get "last_ts" time
  return { itemId, score, lastTime }

def coVisitor (row : Row) : Decoded CoVisitor := do
  let itemId ← row.get "item_id" text
  let count ← row.get "count" float
  return { itemId, count }

def recentItem (row : Row) : Decoded RecentItem := do
  let itemId ← row.get "item_id" text
  let lastTime ← row.get "last_ts" time
  let bestWeight ← row.get "best_event_weight" float
  return { itemId, lastTime, bestWeight }

def tagWeight (row : Row) : Decoded (String × Float) := do
  let tag ← row.nth 0 text
  let weight ← row.nth 1 float
  return (tag, weight)

def item (row : Row) : Decoded Item := do
  let id ← row.get "item_id" text
  let available ← row.get "available" bool
  let price ← row.get? "price" float
  let tags ← row.get "tags" texts
  let props ← row.get? "props" data
  let createdAt ← row.get "created_at" time
  return { id, available, price, tags, props := props.getD .null, createdAt }

def ruleRow (row : Row) : Decoded RuleRow := do
  let id ← row.get "rule_id" identifier
  let space ← row.get "namespace" text
  let surface ← row.get "surface" text
  let targetType ← row.get "target_type" text
  let targetValue ← row.get? "target_value" text
  let itemIds ← row.get? "item_ids" texts
  let action ← row.get "action" text
  let boostValue ← row.get? "boost_value" float
  let pinPosition ← row.get? "pin_position" (int .int4)
  let maxPins ← row.get? "max_pins" (int .int4)
  let priority ← row.get "priority" (int .int4)
  let enabled ← row.get "enabled" bool
  let validFrom ← row.get? "valid_from" time
  let validUntil ← row.get? "valid_until" time
  return { id, space, surface, targetType, targetValue, itemIds, action, boostValue, pinPosition
           maxPins, priority, enabled, validFrom, validUntil }

def itemId (row : Row) : Decoded String := row.nth 0 text

def holdoutSample (row : Row) : Decoded HoldoutSample := do
  let userId ← row.get "user_id" text
  let itemId ← row.get "item_id" text
  let time ← row.get "ts" time
  let eventCount ← row.get "event_count" (int .int8)
  return { userId, itemId, time, eventCount }

end Row

end Recommendation.Relational
