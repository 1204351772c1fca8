import Recommendation.Decimal.Reading
import Recommendation.Identifier
import Recommendation.Text.Split

/-!
The arguments of an evaluation: options that take a value each, behind a blank or an equals sign.
Arguments are gone through from the left, and the first one that is not as it should be ends it.
-/

namespace Recommendation.CommandLine

structure EvaluationArguments where
  org : Identifier
  space : String
  /-- The file with the weights to judge. -/
  candidates : String
  k : Int := 20
  limit : Nat := 200
  minEvents : Nat := 5
  /-- In days. -/
  lookback : Float := 30.0

structure Given where
  org : Option Identifier := none
  space : Option String := none
  candidates : Option String := none
  k : Option Int := none
  limit : Option Nat := none
  minEvents : Option Nat := none
  lookback : Option Float := none

def once {α : Type} (old new : Option α) : Option (Option α) :=
  if old.isSome then none else new.map some

def countOf? (value : String) : Option Nat :=
  ((Decimal.Bounds.unsigned 64).read value).toOption.map Int.toNat

namespace Given

/-- Takes note of an option, if there is one of the name that takes the value. -/
def add? (g : Given) (name value : String) : Option Given := do
  match name with
  | "org" => return { g with org := ← once g.org (Identifier.ofText? value) }
  | "namespace" => return { g with space := ← once g.space (some value) }
  | "candidates" =>
    return { g with candidates := ← once g.candidates (if value == "" then none else some value) }
  | "k" => return { g with k := ← once g.k ((Decimal.Bounds.signed 64).read value).toOption }
  | "limit" => return { g with limit := ← once g.limit (countOf? value) }
  | "min-events" => return { g with minEvents := ← once g.minEvents (countOf? value) }
  | "lookback-days" =>
    return { g with lookback := ← once g.lookback (Decimal.readDouble value).toOption }
  | _ => none

/-- What the options ask for, if none is missing that must be there. -/
def complete? (g : Given) : Option EvaluationArguments := do
  let asked : EvaluationArguments :=
    { org := ← g.org, space := ← g.space, candidates := ← g.candidates }
  some { asked with
    k := g.k.getD asked.k
    limit := g.limit.getD asked.limit
    minEvents := g.minEvents.getD asked.minEvents
    lookback := g.lookback.getD asked.lookback }

end Given

inductive Command
  | evaluate (arguments : EvaluationArguments)
  | version
  | help
  /-- The arguments make no sense. -/
  | misuse

inductive Word
  /-- An option by its name, and its value behind an equals sign. -/
  | named (name : String) (value : Option String)
  | version
  | help
  /-- Two hyphens: no options follow. -/
  | stop
  | other

def wordOf (argument : String) : Word :=
  match argument.toList with
  | ['-', '-'] => .stop
  | '-' :: '-' :: cs =>
    let (name, value) := Text.splitFirst '=' cs
    match String.ofList name, value with
    | "version", none => .version
    | "help", none => .help
    | name, value => .named name (value.map String.ofList)
  | '-' :: 'V' :: _ => .version
  | '-' :: 'h' :: _ => .help
  | _ => .other

def isValue (argument : String) : Bool :=
  match argument.toList with
  | '-' :: _ :: _ => false
  | _ => true

def Given.command (g : Given) : Command :=
  match g.complete? with
  | some a => .evaluate a
  | none => .misuse

def commandFrom (g : Given) : List String → Command
  | [] => g.command
  | argument :: rest =>
    match wordOf argument with
    | .version => .version
    | .help => .help
    | .other => .misuse
    | .stop => if rest.isEmpty then g.command else .misuse
    | .named name (some value) =>
      match g.add? name value with
      | some g => commandFrom g rest
      | none => .misuse
    | .named name none =>
      match rest with
      | [] => .misuse
      | value :: rest =>
        match if isValue value then g.add? name value else none with
        | some g => commandFrom g rest
        | none => .misuse

def commandOf (arguments : List String) : Command := commandFrom {} arguments

end Recommendation.CommandLine
