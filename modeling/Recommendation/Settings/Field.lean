import Recommendation.Settings
import Recommendation.Json.Decode

/-!
The settings one by one: the name under which each is written, and how it is read out of the record
and put into it. Data texts and the environment both go by this list.
-/

namespace Recommendation

/-- One setting, by the kind of its value. -/
inductive SettingsField
  | number (get : Settings → Float) (set : Float → Settings → Settings)
  | count (get : Settings → Nat) (set : Nat → Settings → Settings)
  | flag (get : Settings → Bool) (set : Bool → Settings → Settings)
  | codes (get : Settings → List Int) (set : List Int → Settings → Settings)
  | texts (get : Settings → List String) (set : List String → Settings → Settings)

namespace Settings

def fields : List (String × SettingsField) := [
  ("half_life_days", .number (·.halfLife) fun x s => { s with halfLife := x }),
  ("popularity_window_days", .number (·.popularityWindow) fun x s => { s with popularityWindow := x }),
  ("covis_window_days", .number (·.coVisitationWindow) fun x s => { s with coVisitationWindow := x }),
  ("popularity_fanout", .count (·.popularityFanout) fun n s => { s with popularityFanout := n }),
  ("cooc_fanout", .count (·.coVisitationFanout) fun n s => { s with coVisitationFanout := n }),
  ("covis_max_seeds", .count (·.maxSeeds) fun n s => { s with maxSeeds := n }),
  ("mmr_lambda", .number (·.balance) fun x s => { s with balance := x }),
  ("brand_cap", .count (·.brandCap) fun n s => { s with brandCap := n }),
  ("category_cap", .count (·.categoryCap) fun n s => { s with categoryCap := n }),
  ("rule_exclude_events", .flag (·.excludesRecent) fun b s => { s with excludesRecent := b }),
  ("exclude_event_types", .codes (·.excludedKinds) fun xs s => { s with excludedKinds := xs }),
  ("brand_tag_prefixes", .texts (·.brandStarts) fun xs s => { s with brandStarts := xs }),
  ("category_tag_prefixes", .texts (·.categoryStarts) fun xs s => { s with categoryStarts := xs }),
  ("purchased_window_days", .number (·.purchasedWindow) fun x s => { s with purchasedWindow := x }),
  ("profile_window_days", .number (·.profileWindow) fun x s => { s with profileWindow := x }),
  ("profile_boost", .number (·.profileBoost) fun x s => { s with profileBoost := x }),
  ("profile_top_n_tags", .count (·.profileTags) fun n s => { s with profileTags := n }),
  ("profile_fanout", .count (·.profileFanout) fun n s => { s with profileFanout := n }),
  ("profile_min_events_for_boost", .count (·.profileMinEvents) fun n s =>
    { s with profileMinEvents := n }),
  ("profile_cold_start_multiplier", .number (·.coldStart) fun x s => { s with coldStart := x }),
  ("max_pin_slots", .count (·.maxPinSlots) fun n s => { s with maxPinSlots := n }),
  ("blend_alpha", .number (·.weights.popularity) fun x s =>
    { s with weights := { s.weights with popularity := x } }),
  ("blend_beta", .number (·.weights.coVisitation) fun x s =>
    { s with weights := { s.weights with coVisitation := x } }),
  ("blend_gamma", .number (·.weights.profile) fun x s =>
    { s with weights := { s.weights with profile := x } }),
  ("k_max", .count (·.maxListLength) fun n s => { s with maxListLength := n })]

def fieldValue (s : Settings) : SettingsField → Json.Value
  | .number get _ => .float (get s)
  | .count get _ => .int (get s)
  | .flag get _ => .bool (get s)
  | .codes get _ => .array ((get s).map .int)
  | .texts get _ => Json.Value.texts (get s)

def toValue (s : Settings) : Json.Value :=
  .object (fields.map fun f => (f.1, s.fieldValue f.2))

def putNode (s : Settings) (number : Json.Decoder Float) (x : Json.Node) :
    SettingsField → Option Settings
  | .number _ set => (number x).map fun v => set v s
  | .count _ set => (Json.count x).map fun v => set v s
  | .flag _ set => (Json.bool x).map fun v => set v s
  | .codes _ set => (Json.list Json.int16 x).map fun v => set v s
  | .texts _ set => (Json.list Json.text x).map fun v => set v s

/-- The settings that a node has, over others; `number` reads the settings that are doubles. -/
def overNode? (base : Settings) (number : Json.Decoder Float) (x : Json.Node) : Option Settings := do
  let found ← Json.Fields.of? (fields.map fun f => [f.1]) x
  (fields.zip found.nodes).foldlM (fun s (f, node) =>
    match node with
    | none => some s
    | some node => s.putNode number node f.2) base

end Settings

end Recommendation
