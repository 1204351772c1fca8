import Recommendation.Rule
import Recommendation.Wire.Catalog

/-!
Rules as data texts. An action names its kind beside its other fields, or before them in an array; a
target has its kind and its value as two fields of their own.
-/

namespace Recommendation.Wire

open Json

def actionFields (kind : String) (x : Node) : Option RuleAction :=
  match kind with
  | "block" =>
    match x with
    | .array (_ :: _) => none
    | _ => some .block
  | "pin" => do
    let f ← Fields.of? [["position"]] x
    return .pin (← f.required 0 count)
  | "boost" => do
    let f ← Fields.of? [["strength"]] x
    return .boost (← f.required 0 float)
  | _ => none

/-- Actions that lie inside `outer` arrays and objects. All of an action must be sound data, also
what it has no use for. -/
def action (outer : Nat) : Decoder RuleAction := fun x => do
  let _ ← value outer x
  match x with
  | .array (kind :: rest) => actionFields (← text kind) (.array rest)
  | .object fields =>
    let keyed ← keyed? fields
    let kind ← (← atMostOne? (named ["type"] keyed)).bind text
    actionFields kind (.object (fields.filter fun f => f.1 != some "type"))
  | _ => none

/-- The name of a kind, written as a text or as the only key of an object with null under it. -/
def kindName : Decoder String
  | .text s => s
  | .object [(key, .null)] => key
  | _ => none

def target : Decoder RuleTarget := fun x => do
  let f ← match x with
    | .object _ => Fields.of? [["type"], ["value"]] x
    | .array [kind, value] => some ⟨true, [some kind, some value]⟩
    | _ => none
  match ← f.required 0 kindName with
  | "tag" => return .tag (← f.required 1 text)
  | "brand" => return .brand (← f.required 1 text)
  | "category" => return .category (← f.required 1 text)
  | "items" => return .items (← f.required 1 (list text))
  | _ => none

def rule : Decoder Rule := fun x => do
  let f ← Fields.of? [["rule_id"], ["namespace"], ["surface"], ["target"], ["action"], ["priority"],
    ["max_pins"], ["enabled"], ["valid_from"], ["valid_until"]] x
  let id ← f.required 0 identifier
  let space ← f.required 1 text
  let surface ← f.withDefault 2 text ""
  let target ← f.required 3 target
  let action ← f.required 4 (action 1)
  let priority ← f.withDefault 5 int32 0
  let maxPins ← f.optionalDefault 6 count
  let enabled ← f.withDefault 7 bool true
  let validFrom ← f.optional 8 instant
  let validUntil ← f.optional 9 instant
  some { id, space, surface, target, action, priority, maxPins, enabled, validFrom, validUntil }

def ofAction (a : RuleAction) : Value :=
  .object (("type", .text a.kind.name) ::
    match a with
    | .block => []
    | .pin position => [("position", .int position)]
    | .boost strength => [("strength", .float strength)])

def ofTarget : RuleTarget → Value
  | .tag tag => .object [("type", .text "tag"), ("value", .text tag)]
  | .brand value => .object [("type", .text "brand"), ("value", .text value)]
  | .category value => .object [("type", .text "category"), ("value", .text value)]
  | .items ids => .object [("type", .text "items"), ("value", Value.texts ids)]

def ofRule (r : Rule) : Value :=
  .object [("rule_id", .text r.id.toText), ("namespace", .text r.space),
    ("surface", .text r.surface), ("target", ofTarget r.target), ("action", ofAction r.action),
    ("priority", .int r.priority), ("max_pins", Value.ofOption (fun n => .int n) r.maxPins),
    ("enabled", .bool r.enabled), ("valid_from", Value.ofOption ofInstant r.validFrom),
    ("valid_until", Value.ofOption ofInstant r.validUntil)]

end Recommendation.Wire
