import Recommendation.Json.Decode

/-!
Loose reading of objects: a key whose value is null counts as missing, unknown keys do not matter,
and of a repeated key the last one counts.
-/

namespace Recommendation.Json

/-- The node of a key, if it is not null. -/
def Node.key? (x : Node) (name : String) : Option Node :=
  match x with
  | .object fields =>
    match (fields.filter fun f => f.1 == some name).getLast? with
    | some (_, .null) => none
    | some (_, v) => some v
    | none => none
  | _ => none

variable {α : Type}

def Node.need (x : Node) (name : String) (decode : Decoder α) : Option α :=
  (x.key? name).bind decode

def Node.getD (x : Node) (name : String) (decode : Decoder α) (d : α) : Option α :=
  match x.key? name with
  | none => some d
  | some v => decode v

def Node.get? (x : Node) (name : String) (decode : Decoder α) : Option (Option α) :=
  x.getD name (fun v => (decode v).map some) none

def Node.listD (x : Node) (name : String) (decode : Decoder α) : Option (List α) :=
  x.getD name (list decode) []

def entries (decode : Decoder α) : Decoder (List (String × α))
  | .object fields => fields.mapM fun f => do
    let key ← f.1
    let v ← decode f.2
    some (key, v)
  | _ => none

def anyValue : Decoder Value := value 0

end Recommendation.Json
