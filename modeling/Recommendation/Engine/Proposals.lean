import Recommendation.Blend
import Recommendation.Failure
import Recommendation.Signal.CoVisitation
import Recommendation.Signal.Interests
import Recommendation.Signal.Popularity

/-!
All signals of a request side by side. A signal that the store cannot answer is left out as long as
another one has been answered; any other failure ends the request, and so does its cancellation.
-/

namespace Recommendation

abbrev Step (σ α : Type) := ExceptT Failure (StateM (World σ)) α

def Read.step {σ α : Type} (read : Read σ α) : Step σ α :=
  ExceptT.mk do return (← read.run).mapError Failure.ofStore

structure Proposals (α : Type) where
  sets : List (CandidateSet α)
  /-- A signal has been left out. -/
  degraded : Bool

namespace Proposals

variable {σ α : Type} [Score α]

def fatal? : Except StoreError (CandidateSet α) → Option StoreError
  | .error e => if e.isUnavailable then none else some e
  | .ok _ => none

def skipped? : Except StoreError (CandidateSet α) → Option StoreError
  | .error e => if e.isUnavailable then some e else none
  | .ok _ => none

def ofResults (results : List (Except StoreError (CandidateSet α))) :
    Except Failure (Proposals α) :=
  match results.findSome? fatal? with
  | some e => throw (.ofStore e)
  | none =>
    let sets := results.filterMap Except.toOption
    match results.filterMap skipped? with
    | [] => return ⟨sets, false⟩
    | e :: _ => if sets.isEmpty then throw (.ofStore e) else return ⟨sets, true⟩

def isActive (blend : Blend α) (weights : Weights α) : Signal → Bool
  | .profile => blend.usesProfile weights
  | s => Score.isPositive (weights.get s)

def ask (settings : Settings) (store : Store σ) (ctx : Context) (input : SignalInput) :
    Signal → Read σ (CandidateSet α)
  | .popularity => Signal.popular settings store ctx input
  | .coVisitation => Signal.coVisited settings store ctx input
  | .profile => Signal.interesting settings store ctx input

def askAll (settings : Settings) (store : Store σ) (ctx : Context) (input : SignalInput)
    (signals : List Signal) : Step σ (Proposals α) := do
  let asked : List (Timed σ (Except StoreError (CandidateSet α))) :=
    signals.map fun s => (ask settings store ctx input s).run
  match ← ExceptT.lift (Timed.unlessCanceled ctx (Timed.all asked)) with
  | none => throw .canceled
  | some results => ofResults results

end Proposals

end Recommendation
