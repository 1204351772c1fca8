import Recommendation.Relational.Row

/-!
The statements that a relational store sends: their texts, the columns they answer with, and the
parameters that go with them. Counts and times are fitted to what a database can hold.
-/

namespace Recommendation.Relational

open Time (Instant)

inductive Parameter
  | identifier (value : Identifier)
  | text (value : String)
  | texts (values : List String)
  | codes (values : List Int)
  | numbers (values : List Float)
  | number (value : Float)
  | time (value : Instant)
  | int (value : Int)

/-- A count as a signed number of 64 bits; larger ones become the largest. -/
def clampCount (n : Nat) : Int := min n 0x7fffffffffffffff

def databaseEpoch : Instant := ⟨946684800, 0⟩

/-- An instant in whole microseconds; what is left over goes, on either side of the start of 2000. -/
def wholeMicros (t : Instant) : Instant :=
  databaseEpoch.after (Int.tdiv (t.since databaseEpoch) 1000 * 1000)

namespace Parameter

def limit (n : Nat) : Parameter := .int (clampCount n)

def instant (t : Instant) : Parameter := .time (wholeMicros t)

end Parameter

structure Statement where
  name : String
  text : String
  columns : List Column

def sql (parts : List String) : String := " ".intercalate parts

namespace Statement

def eventTypes : Statement where
  name := "event_type_weights"
  text := sql [
    "SELECT type, name, weight, is_conversion",
    "FROM event_types",
    "WHERE org_id = $1 AND namespace = $2"]
  columns := [("type", .int2), ("name", .text), ("weight", .float8), ("is_conversion", .bool)]

def topPopular : Statement where
  name := "top_popular"
  text := sql [
    "WITH w AS ( SELECT * FROM unnest($3::int2[], $4::float8[]) AS w(type, weight) ),",
    "scored AS ( SELECT e.item_id,",
    "SUM(w.weight * EXP( -LN(2) * (EXTRACT(EPOCH FROM ($5::timestamptz - e.ts))::float8",
    "/ 86400.0) / $6 )) AS score,",
    "MAX(e.ts) AS last_ts",
    "FROM events e JOIN w ON w.type = e.type",
    "WHERE e.org_id = $1 AND e.namespace = $2 AND e.ts >= $7 AND e.ts <= $5",
    "AND NOT (e.item_id = ANY($8::text[]))",
    "GROUP BY e.item_id )",
    "SELECT item_id, score, last_ts FROM scored WHERE score > 0",
    "ORDER BY score DESC, last_ts DESC, item_id ASC LIMIT $9"]
  columns := [("item_id", .text), ("score", .float8), ("last_ts", .time)]

def coVisitors : Statement where
  name := "co_visitors"
  text := sql [
    "WITH seed_users AS ( SELECT DISTINCT user_id FROM events",
    "WHERE org_id = $1 AND namespace = $2 AND item_id = $3 AND ts >= $4 AND ts <= $5 )",
    "SELECT e.item_id, COUNT(DISTINCT e.user_id)::float8 AS count",
    "FROM events e JOIN seed_users s ON s.user_id = e.user_id",
    "WHERE e.org_id = $1 AND e.namespace = $2 AND e.item_id <> $3 AND e.ts >= $4 AND e.ts <= $5",
    "GROUP BY e.item_id ORDER BY count DESC, e.item_id ASC LIMIT $6"]
  columns := [("item_id", .text), ("count", .float8)]

def recentItems : Statement where
  name := "user_recent_items"
  text := sql [
    "SELECT e.item_id, MAX(e.ts) AS last_ts,",
    "MAX(COALESCE(w.weight, 0))::float8 AS best_event_weight",
    "FROM events e",
    "LEFT JOIN unnest($6::int2[], $7::float8[]) AS w(type, weight) ON w.type = e.type",
    "WHERE e.org_id = $1 AND e.namespace = $2 AND e.user_id = $3 AND e.ts >= $4 AND e.ts <= $5",
    "GROUP BY e.item_id ORDER BY last_ts DESC, e.item_id ASC LIMIT $8"]
  columns := [("item_id", .text), ("last_ts", .time), ("best_event_weight", .float8)]

def tagProfile : Statement where
  name := "user_tag_profile"
  text := sql [
    "SELECT LOWER(tag) AS tag, SUM(w.weight)::float8 AS weight",
    "FROM events e",
    "JOIN items i ON i.org_id = e.org_id AND i.namespace = e.namespace AND i.item_id = e.item_id",
    "JOIN unnest($6::int2[], $7::float8[]) AS w(type, weight) ON w.type = e.type",
    "CROSS JOIN LATERAL unnest(i.tags) AS tag",
    "WHERE e.org_id = $1 AND e.namespace = $2 AND e.user_id = $3 AND e.ts >= $4 AND e.ts <= $5",
    "GROUP BY LOWER(tag)"]
  columns := [("tag", .text), ("weight", .float8)]

def itemColumns : List Column :=
  [("item_id", .text), ("available", .bool), ("price", .float8), ("tags", .texts), ("props", .data),
    ("created_at", .time)]

def itemsByIds : Statement where
  name := "items_by_ids"
  text := sql [
    "SELECT item_id, available, price, tags, props, created_at",
    "FROM items",
    "WHERE org_id = $1 AND namespace = $2 AND item_id = ANY($3::text[])"]
  columns := itemColumns

def itemsWithAnyTag : Statement where
  name := "items_with_any_tag"
  text := sql [
    "SELECT i.item_id, i.available, i.price, i.tags, i.props, i.created_at",
    "FROM items i",
    "WHERE i.org_id = $1 AND i.namespace = $2 AND i.available",
    "AND EXISTS (SELECT 1 FROM unnest(i.tags) AS t WHERE LOWER(t) = ANY($3::text[]))",
    "ORDER BY i.created_at DESC, i.item_id ASC LIMIT $4"]
  columns := itemColumns

def rulesFor : Statement where
  name := "rules_for"
  text := sql [
    "SELECT rule_id, namespace, surface, target_type, target_value, item_ids, action, boost_value,",
    "pin_position, max_pins, priority, enabled, valid_from, valid_until",
    "FROM rules",
    "WHERE org_id = $1 AND namespace = $2 AND enabled",
    "AND (surface = '' OR surface = '*' OR LOWER(surface) = LOWER($3))",
    "AND (valid_from IS NULL OR valid_from <= $4)",
    "AND (valid_until IS NULL OR $4 < valid_until)",
    "ORDER BY priority DESC, rule_id ASC"]
  columns := [("rule_id", .identifier), ("namespace", .text), ("surface", .text),
    ("target_type", .text), ("target_value", .text), ("item_ids", .texts), ("action", .text),
    ("boost_value", .float8), ("pin_position", .int4), ("max_pins", .int4), ("priority", .int4),
    ("enabled", .bool), ("valid_from", .time), ("valid_until", .time)]

def recentEventItems : Statement where
  name := "recent_event_items"
  text := sql [
    "SELECT DISTINCT item_id",
    "FROM events",
    "WHERE org_id = $1 AND namespace = $2 AND user_id = $3 AND type = ANY($4::int2[])",
    "AND ts >= $5 AND ts <= $6"]
  columns := [("item_id", .text)]

def holdoutSamples : Statement where
  name := "holdout_samples"
  text := sql [
    "WITH ranked AS ( SELECT user_id, item_id, ts,",
    "ROW_NUMBER() OVER (PARTITION BY user_id ORDER BY ts DESC, item_id ASC) AS rn,",
    "COUNT(*) OVER (PARTITION BY user_id) AS event_count",
    "FROM events WHERE org_id = $1 AND namespace = $2 AND ts >= $3 AND ts <= $4 )",
    "SELECT user_id, item_id, ts, event_count",
    "FROM ranked WHERE rn = 1 AND event_count >= $5",
    "ORDER BY ts DESC, user_id ASC LIMIT $6"]
  columns := [("user_id", .text), ("item_id", .text), ("ts", .time), ("event_count", .int8)]

end Statement

end Recommendation.Relational
