import Recommendation.CommandLine.Arguments
import Recommendation.Evaluation.Table
import Recommendation.ServerSettings
import Recommendation.Service
import Recommendation.Service.Address
import Recommendation.Store.Relational
import Recommendation.Wire.BlendCandidates

/-!
The two programs. One judges weights by the events of a database and prints a table; the other opens
the service. Both read their settings from the environment and then open the database. Whatever is
wrong first is reported, and nothing is printed then.
-/

namespace Recommendation.CommandLine

open Relational (Database DatabaseError)

structure Session (σ : Type) where
  database : Database σ
  backend : σ
  now : Time.Instant

abbrev Opener (σ : Type) := ServerSettings → Except DatabaseError (Session σ)

structure Outcome where
  code : Nat
  output : String := ""
  report : Option String := none
deriving DecidableEq

def hasScheme (url : String) : Bool :=
  match Text.splitFirst ':' url.toList with
  | (c :: cs, some _) => c.isAlpha && cs.all fun c => c.isAlphanum || ['+', '-', '.'].contains c
  | _ => false

def openStore {σ : Type} (opener : Opener σ) (env : Environment) :
    Except String (ServerSettings × Engine σ × Session σ) := do
  let server ← (ServerSettings.ofEnvironment env).mapError StartError.message
  let settings ← (Settings.ofEnvironment env).mapError StartError.message
  if !hasScheme server.databaseUrl then
    throw (DatabaseError.configuration "relative URL without a base").message
  let session ← (opener server).mapError DatabaseError.message
  return (server, ⟨settings, .relational session.database server.retryOptions⟩, session)

def readCandidates (path : String) (file : Option String) : Except String (List BlendCandidate) := do
  let some text := file | throw ("reading " ++ path)
  let some candidates := (Json.Node.ofText? text).bind Wire.blendCandidates
    | throw "parsing candidate list"
  if candidates.isEmpty then throw "candidate list is empty"
  candidates.forM fun c => c.validate.mapError Failure.message
  return candidates

/-- The table of an evaluation, `file` being what the file with the weights holds; none if it breaks
down. -/
def evaluation {σ : Type} (opener : Opener σ) (env : Environment) (file : Option String)
    (a : EvaluationArguments) : Except String (Option String) := do
  let candidates ← readCandidates a.candidates file
  let (_, engine, session) ← openStore opener env
  let options : EvaluationOptions :=
    { space := a.space, k := a.k, limit := a.limit, minEvents := a.minEvents, lookback := a.lookback }
  let ctx : Context := { org := a.org, now := session.now }
  let steps := Evaluation.run (Evaluation.notedRecommender engine.dated) engine.dated.store ctx
    options candidates
  match Timed.completed? steps.run ⟨0, session.backend⟩ with
  | none => return none
  | some marks =>
    return (Evaluation.completed? a.k.toNat (← marks.mapError Failure.message)).map Evaluation.table

def evaluationName : String := "blend-eval"

def evaluate {σ : Type} (opener : Opener σ) (env : Environment) (file : String → Option String)
    (arguments : List String) : Outcome :=
  match commandOf arguments with
  | .version => { code := 0, output := evaluationName ++ " " ++ programVersion ++ "\n" }
  | .help => { code := 0 }
  | .misuse => { code := 2 }
  | .evaluate a =>
    match evaluation opener env (file a.candidates) a with
    | .ok (some table) => { code := 0, output := table }
    | .ok none => { code := 101 }
    | .error report => { code := 1, report := some report }

/-- Opens the service, if its counters can be registered and there is an address that it can listen
at. -/
def serve {σ ρ : Type} (counters : CounterLibrary ρ) (registry : ρ) (opener : Opener σ)
    (env : Environment) : Except String (Service.Server σ ρ × ρ × Session σ) := do
  let (server, engine, session) ← openStore opener env
  let registry ← counters.registerAll registry
  if !Service.isHostAddress server.host then throw "invalid socket address syntax"
  return ({ engine, counters, timeout := server.requestTimeout }, registry, session)

end Recommendation.CommandLine
