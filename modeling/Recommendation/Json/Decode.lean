import Recommendation.Identifier
import Recommendation.Json.Value

/-!
Reading records from nodes. A record is an object whose known fields occur at most once, under one
of their names, and whose other fields do not matter; or it is an array of the fields in order. A
field without a value is an error, its default, or nothing, as the record says.
-/

namespace Recommendation.Json

abbrev Decoder (α : Type) := Node → Option α

structure Fields where
  /-- The record was written as an array. -/
  positional : Bool
  nodes : List (Option Node)

def named (names : List String) (fields : List (String × Node)) : List Node :=
  (fields.filter fun f => names.contains f.1).map (·.2)

def keyed? (fields : List (Option String × Node)) : Option (List (String × Node)) :=
  fields.mapM fun f => f.1.map fun key => (key, f.2)

def atMostOne? : List Node → Option (Option Node)
  | [] => some none
  | [x] => some (some x)
  | _ => none

/-- The fields of a record with the given names, each field with all its names. -/
def Fields.of? (names : List (List String)) : Node → Option Fields
  | .object fields => do
    let fields ← keyed? fields
    let nodes ← names.mapM fun ns => atMostOne? (named ns fields)
    some ⟨false, nodes⟩
  | .array items =>
    if items.length ≤ names.length then
      some ⟨true, items.map some ++ List.replicate (names.length - items.length) none⟩
    else none
  | _ => none

def Fields.node? (f : Fields) (i : Nat) : Option Node := f.nodes[i]?.join

def Fields.required {α : Type} (f : Fields) (i : Nat) (decode : Decoder α) : Option α :=
  (f.node? i).bind decode

def Fields.withDefault {α : Type} (f : Fields) (i : Nat) (decode : Decoder α) (d : α) : Option α :=
  match f.node? i with
  | none => some d
  | some x => decode x

def optional {α : Type} (decode : Decoder α) : Decoder (Option α)
  | .null => some none
  | x => (decode x).map some

/-- A field that may be null, or absent from an object, but not from an array. -/
def Fields.optional {α : Type} (f : Fields) (i : Nat) (decode : Decoder α) : Option (Option α) :=
  match f.node? i with
  | none => if f.positional then none else some none
  | some x => Json.optional decode x

def Fields.optionalDefault {α : Type} (f : Fields) (i : Nat) (decode : Decoder α) :
    Option (Option α) :=
  f.withDefault i (Json.optional decode) none

def text : Decoder String
  | .text s => s
  | _ => none

def bool : Decoder Bool
  | .bool b => some b
  | _ => none

def intBetween (low high : Int) : Decoder Int
  | .number n => n.int?.filter fun i => low ≤ i && i ≤ high
  | _ => none

def int64 : Decoder Int := intBetween (-0x8000000000000000) 0x7fffffffffffffff

def int32 : Decoder Int := intBetween (-0x80000000) 0x7fffffff

def int16 : Decoder Int := intBetween (-0x8000) 0x7fff

def count : Decoder Nat := fun x => (intBetween 0 maxWord x).map Int.toNat

def float : Decoder Float
  | .number n => n.float?
  | _ => none

/-- A double; what is not finite is written as a string. -/
def anyFloat : Decoder Float
  | .number n => n.float?
  | .text (some "NaN") => some (0.0 / 0.0)
  | .text (some "inf") => some (1.0 / 0.0)
  | .text (some "-inf") => some (-1.0 / 0.0)
  | _ => none

def list {α : Type} (decode : Decoder α) : Decoder (List α)
  | .array items => items.mapM decode
  | _ => none

def pair {α β : Type} (first : Decoder α) (second : Decoder β) : Decoder (α × β)
  | .array [a, b] => do
    let a ← first a
    let b ← second b
    some (a, b)
  | _ => none

/-- Any value that lies inside `outer` arrays and objects already. -/
def value (outer : Nat) : Decoder Value := Node.value? (maxDepth - outer)

def instant : Decoder Time.Instant := fun x => (text x).bind Time.Instant.ofText?

def identifier : Decoder Identifier := fun x => (text x).bind Identifier.ofText?

end Recommendation.Json
