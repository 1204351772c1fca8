import Recommendation.Digest.Fingerprint
import Recommendation.Settings.Field

/-!
The name of the model that a list comes from. It tells the kind of list and the version of the
program, and ends in a fingerprint of everything that was set: the settings and the weights.
-/

namespace Recommendation

def programVersion : String := "0.1.0"

def Weights.toValue (w : Weights Float) : Json.Value :=
  .object [("pop", .float w.popularity), ("cooc", .float w.coVisitation), ("als", .float w.profile)]

def fingerprintText (settings : Settings) (weights : Weights Float) : String :=
  settings.toValue.compact ++ weights.toValue.compact

inductive ListKind
  | popularity
  | blend
  | similar
deriving DecidableEq, Repr

def ListKind.name : ListKind → String
  | .popularity => "popularity"
  | .blend => "blend"
  | .similar => "similar"

def modelVersion (kind : ListKind) (settings : Settings) (weights : Weights Float) : String :=
  kind.name ++ "_v1+" ++ programVersion ++ "." ++
    Digest.fingerprint 12 (fingerprintText settings weights)

end Recommendation
