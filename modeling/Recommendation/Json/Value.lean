import Recommendation.Json.Node
import Recommendation.Text.Quoted
import Recommendation.Dictionary

/-!
Data values and their compact text. Fields are written in the order they have; a double that is not
finite has no form of its own and is written as null. A node becomes a value when its numerals are
numbers, its strings are texts and its nesting is bounded; of fields with one key the last counts,
and fields go in order of key.
-/

namespace Recommendation.Json

inductive Value
  | null
  | bool (value : Bool)
  | int (value : Int)
  | float (value : Float)
  | text (value : String)
  | array (items : List Value)
  | object (fields : List (String × Value))

instance : Inhabited Value := ⟨.null⟩

def maxDepth : Nat := 127

mutual

/-- The value of a node that lies inside at most `depth` more arrays and objects. -/
def Node.value? (depth : Nat) : Node → Option Value
  | .null => some .null
  | .bool b => some (.bool b)
  | .number n =>
    match n.int? with
    | some i => some (.int i)
    | none => n.float?.map .float
  | .text s => s.map .text
  | .array items =>
    match depth with
    | 0 => none
    | depth + 1 => (Node.values? depth items).map .array
  | .object fields =>
    match depth with
    | 0 => none
    | depth + 1 => (Node.fieldValues? depth fields).map fun fs => .object (Dictionary.ofList fs).entries

def Node.values? (depth : Nat) : List Node → Option (List Value)
  | [] => some []
  | x :: xs => do
    let v ← Node.value? depth x
    let vs ← Node.values? depth xs
    some (v :: vs)

def Node.fieldValues? (depth : Nat) : List (Option String × Node) → Option (List (String × Value))
  | [] => some []
  | f :: fs => do
    let v ← Node.fieldValue? depth f
    let vs ← Node.fieldValues? depth fs
    some (v :: vs)

def Node.fieldValue? (depth : Nat) : Option String × Node → Option (String × Value)
  | (key, x) => do
    let key ← key
    let v ← Node.value? depth x
    some (key, v)

end

def escapedChar (c : Char) : List Char :=
  if c == '"' then ['\\', '"']
  else if c == '\\' then ['\\', '\\']
  else if c == '\n' then ['\\', 'n']
  else if c == '\r' then ['\\', 'r']
  else if c == '\t' then ['\\', 't']
  else if c == '\x08' then ['\\', 'b']
  else if c == '\x0c' then ['\\', 'f']
  else if c.toNat < 0x20 then
    ['\\', 'u', '0', '0', Text.hexDigit (c.toNat / 16), Text.hexDigit (c.toNat % 16)]
  else [c]

def stringText (s : String) : String :=
  String.ofList ('"' :: s.toList.flatMap escapedChar ++ ['"'])

def commaSeparated (texts : List String) : String := ",".intercalate texts

mutual

def Value.compact : Value → String
  | .null => "null"
  | .bool b => if b then "true" else "false"
  | .int n => if n < 0 then "-" ++ n.natAbs.repr else n.natAbs.repr
  | .float x => Decimal.data x
  | .text s => stringText s
  | .array items => "[" ++ commaSeparated (Value.compactItems items) ++ "]"
  | .object fields => "\x7b" ++ commaSeparated (Value.compactFields fields) ++ "\x7d"

def Value.compactItems : List Value → List String
  | [] => []
  | x :: xs => Value.compact x :: Value.compactItems xs

def Value.compactFields : List (String × Value) → List String
  | [] => []
  | f :: fs => Value.compactField f :: Value.compactFields fs

def Value.compactField : String × Value → String
  | (key, x) => stringText key ++ ":" ++ Value.compact x

end

def Value.ofOption {α : Type} (f : α → Value) : Option α → Value
  | none => .null
  | some a => f a

def Value.texts (xs : List String) : Value := .array (xs.map .text)

end Recommendation.Json
