import Recommendation.ModelVersion
import Recommendation.Request
import Recommendation.Wire.Catalog

/-!
Requests and responses as data texts.
-/

namespace Recommendation.Wire

open Json

/-- Weights under any of their names, with the given reading of numbers. -/
def weights (number : Decoder Float) : Decoder (Weights Float) := fun x => do
  let f ← Fields.of? [["pop", "alpha"], ["cooc", "beta"], ["als", "gamma"]] x
  some ⟨← f.withDefault 0 number 0.0, ← f.withDefault 1 number 0.0, ← f.withDefault 2 number 0.0⟩

def constraints : Decoder Constraints := fun x => do
  let f ← Fields.of? [["include_tags_any"], ["exclude_item_ids"], ["price_between"],
    ["created_after"]] x
  let includeTagsAny ← f.withDefault 0 (list text) []
  let excludeItemIds ← f.withDefault 1 (list text) []
  let priceBetween ← f.optionalDefault 2 (pair float float)
  let createdAfter ← f.optionalDefault 3 instant
  some { includeTagsAny, excludeItemIds, priceBetween, createdAfter }

def recommendRequest : Decoder (RecommendRequest Float) := fun x => do
  let f ← Fields.of? [["user_id"], ["namespace"], ["surface"], ["k"], ["constraints"], ["blend"],
    ["include_reasons"]] x
  let userId ← f.withDefault 0 text ""
  let space ← f.withDefault 1 text ""
  let surface ← f.optionalDefault 2 text
  let k ← f.withDefault 3 int64 0
  let constraints ← f.optionalDefault 4 constraints
  let blend ← f.optionalDefault 5 (weights float)
  let includeReasons ← f.withDefault 6 bool false
  some { userId, space, surface, k, constraints, blend, includeReasons }

def similarRequest : Decoder SimilarRequest := fun x => do
  let f ← Fields.of? [["item_id"], ["namespace"], ["surface"], ["k"], ["include_reasons"]] x
  let itemId ← f.required 0 text
  let space ← f.withDefault 1 text ""
  let surface ← f.optionalDefault 2 text
  let k ← f.withDefault 3 int64 0
  let includeReasons ← f.withDefault 4 bool false
  some { itemId, space, surface, k, includeReasons }

def recommended : Decoder (Recommended Float) := fun x => do
  let f ← Fields.of? [["item_id"], ["score"], ["reasons"]] x
  some ⟨← f.required 0 text, ← f.required 1 float, ← f.optionalDefault 2 (list text)⟩

def response : Decoder Response := fun x => do
  let f ← Fields.of? [["model_version"], ["items"], ["degraded"]] x
  some ⟨← f.required 0 text, ← f.required 1 (list recommended), ← f.withDefault 2 bool false⟩

def ofConstraints (c : Constraints) : Value :=
  .object [("include_tags_any", Value.texts c.includeTagsAny),
    ("exclude_item_ids", Value.texts c.excludeItemIds),
    ("price_between",
      Value.ofOption (fun (low, high) => .array [.float low, .float high]) c.priceBetween),
    ("created_after", Value.ofOption ofInstant c.createdAfter)]

def ofRecommendRequest (r : RecommendRequest Float) : Value :=
  .object [("user_id", .text r.userId), ("namespace", .text r.space), ("surface", ofText? r.surface),
    ("k", .int r.k), ("constraints", Value.ofOption ofConstraints r.constraints),
    ("blend", Value.ofOption Weights.toValue r.blend), ("include_reasons", .bool r.includeReasons)]

def ofSimilarRequest (r : SimilarRequest) : Value :=
  .object [("item_id", .text r.itemId), ("namespace", .text r.space),
    ("surface", ofText? r.surface), ("k", .int r.k), ("include_reasons", .bool r.includeReasons)]

/-- An item of a response; reasons that were not asked for are left out. -/
def ofRecommended (r : Recommended Float) : Value :=
  .object ([("item_id", .text r.itemId), ("score", .float r.score)] ++
    r.reasons.toList.map fun xs => ("reasons", Value.texts xs))

/-- A response; that nothing is missing is not said. -/
def ofResponse (r : Response) : Value :=
  .object ([("model_version", .text r.modelVersion),
    ("items", .array (r.items.map ofRecommended))] ++
    if r.degraded then [("degraded", .bool true)] else [])

end Recommendation.Wire
