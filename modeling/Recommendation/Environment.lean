import Recommendation.Decimal.Reading
import Recommendation.Text.Lowercase
import Recommendation.Text.Split

/-!
Records from the variables of an environment. A variable sets the field that it is named after,
whatever the case of its letters; the others do not matter. A field may be set once. Lists are
written with commas between their elements, and nothing is trimmed.
-/

namespace Recommendation

abbrev Environment := List (String × String)

inductive ValueFault
  | number (fault : Decimal.NumberFault)
  | notFlag
deriving DecidableEq, Repr

def ValueFault.message : ValueFault → String
  | .number fault => fault.message
  | .notFlag => "provided string was not \x60true\x60 or \x60false\x60"

inductive EnvironmentError
  /-- A value, or an element of it, cannot be read. -/
  | malformed (fault : ValueFault) (value name : String)
  | repeated (field : String)
deriving DecidableEq, Repr

def EnvironmentError.message : EnvironmentError → String
  | .malformed fault value name =>
    fault.message ++ " while parsing value '" ++ value ++ "' provided by " ++ name
  | .repeated field => "duplicate field \x60" ++ field ++ "\x60"

namespace Environment

/-- A reading of values; an error comes with the text that it is about. -/
abbrev Reading (α : Type) := String → Except (ValueFault × String) α

def whole (b : Decimal.Bounds) : Reading Int := fun s =>
  (b.read s).mapError fun fault => (.number fault, s)

def count (bits : Nat) : Reading Nat := fun s => return (← whole (.unsigned bits) s).toNat

def number : Reading Float := fun s => (Decimal.readDouble s).mapError fun fault => (.number fault, s)

def flag : Reading Bool
  | "true" => pure true
  | "false" => pure false
  | s => throw (.notFlag, s)

def text : Reading String := pure

/-- The parts of a text between commas. A text without characters has none. -/
def elements (s : String) : List String :=
  if s == "" then [] else (Text.splitOn ',' s.toList).map String.ofList

def list {α : Type} (read : Reading α) : Reading (List α) := fun s => (elements s).mapM read

/-- How a field of a record is set: its name, and how a value is put into it. -/
structure Setter (α : Type) where
  name : String
  put : String → α → Except (ValueFault × String) α

variable {α β : Type}

def setter (name : String) (read : Reading β) (set : β → α → α) : Setter α :=
  ⟨name, fun s a => return set (← read s) a⟩

/-- Sets a field by a variable, unless it has been set before. -/
def assign (fields : List (Setter α)) (state : α × List String) (entry : String × String) :
    Except EnvironmentError (α × List String) :=
  match fields.find? fun f => f.name == Text.lowercase entry.1 with
  | none => return state
  | some f =>
    if state.2.contains f.name then throw (.repeated f.name)
    else
      match f.put entry.2 state.1 with
      | .ok a => return (a, f.name :: state.2)
      | .error (fault, value) => throw (.malformed fault value entry.1)

/-- A record with the fields that the environment sets, over a record of defaults. -/
def fill (env : Environment) (fields : List (Setter α)) (defaults : α) :
    Except EnvironmentError α :=
  return (← env.foldlM (assign fields) (defaults, [])).1

end Environment

end Recommendation
