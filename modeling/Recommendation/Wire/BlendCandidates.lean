import Recommendation.Evaluation
import Recommendation.Wire.Requests

/-!
Lists of weights to judge as data texts.
-/

namespace Recommendation.Wire

open Json

def blendCandidate : Decoder BlendCandidate := fun x => do
  let f ← Fields.of? [["name"], ["alpha"], ["beta"], ["gamma"]] x
  let name ← f.required 0 text
  let popularity ← f.required 1 float
  let coVisitation ← f.required 2 float
  let profile ← f.required 3 float
  some { name, weights := { popularity, coVisitation, profile } }

def blendCandidates : Decoder (List BlendCandidate) := list blendCandidate

def ofBlendCandidate (c : BlendCandidate) : Value :=
  .object [("name", .text c.name), ("alpha", .float c.weights.popularity),
    ("beta", .float c.weights.coVisitation), ("gamma", .float c.weights.profile)]

end Recommendation.Wire
