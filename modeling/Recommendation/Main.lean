import Recommendation.CommandLine
import Recommendation.Metrics.Registry
import Recommendation.Rehearsal.Scenario

/-!
The programs as they are called. `evaluate` judges weights and `serve` opens the service; the rest of
the arguments is theirs. The only databases that can be opened are scripts: the file that an address
such as `script:lists.json` names.
-/

namespace Recommendation.CommandLine

def variableNames : List String :=
  (ServerSettings.fields.map (·.name) ++ Settings.fields.map (·.1)).map String.toUpper

def readEnvironment : IO Environment :=
  variableNames.filterMapM fun name => do return (← IO.getEnv name).map fun value => (name, value)

def readFile? (path : String) : IO (Option String) := do
  try return some (← IO.FS.readFile path) catch _ => return none

def scriptOpener (script : Option Rehearsal.Script) : Opener Rehearsal.Peer := fun server =>
  let script := script.getD { startup := .absent }
  let pool : Rehearsal.PoolOptions := ⟨server.maxConnections, server.acquireTimeout⟩
  (script.connect pool).map fun peer => ⟨script.database pool, peer, .epoch⟩

def readScript (url : String) : IO (Option Rehearsal.Script) := do
  match Text.splitFirst ':' url.toList with
  | (scheme, some path) =>
    if String.ofList scheme == "script" then
      return ((← readFile? (String.ofList path)).bind Json.Node.ofText?).bind Rehearsal.script
    else return none
  | _ => return none

def readOpener (env : Environment) : IO (Opener Rehearsal.Peer) := do
  match ServerSettings.ofEnvironment env with
  | .ok server => return scriptOpener (← readScript server.databaseUrl)
  | .error _ => return scriptOpener none

def finish (o : Outcome) : IO UInt32 := do
  IO.print o.output
  if let some report := o.report then IO.eprintln ("Error: " ++ report)
  return o.code.toUInt32

def runEvaluation (env : Environment) (arguments : List String) : IO UInt32 := do
  let file ←
    match commandOf arguments with
    | .evaluate a => readFile? a.candidates
    | _ => pure none
  finish (evaluate (← readOpener env) env (fun _ => file) arguments)

def runService (env : Environment) : IO UInt32 := do
  match serve (Registry.library fnv1a) {} (← readOpener env) env with
  | .ok _ => finish { code := 0, output := "ready\n" }
  | .error report => finish { code := 1, report := some report }

end Recommendation.CommandLine

def main (arguments : List String) : IO UInt32 := do
  let env ← Recommendation.CommandLine.readEnvironment
  match arguments with
  | "evaluate" :: rest => Recommendation.CommandLine.runEvaluation env rest
  | "serve" :: _ => Recommendation.CommandLine.runService env
  | _ => Recommendation.CommandLine.finish { code := 2 }
