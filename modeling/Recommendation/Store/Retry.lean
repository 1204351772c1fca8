import Recommendation.Timed

/-!
Reads that are tried more than once. Each attempt has a limit of time; failures that may pass are
followed by a pause and another attempt, the pause growing twofold up to a bound, until the attempts
are used up. Cancellation is heeded before an attempt, during it and in the pause behind it.

A pause can be doubled here however long it is. The run that breaks down over one that is too long
is `Read.withRetryPaced`.
-/

namespace Recommendation

/-- How reads are tried; times are in milliseconds. -/
structure RetryOptions where
  queryTimeout : Nat := 5000
  attempts : Nat := 3
  initialBackoff : Nat := 50
  maxBackoff : Nat := 500
deriving DecidableEq, Repr

structure Attempt (α : Type) where
  outcome : Except StoreError α
  /-- None if it never ends. -/
  duration : Option Nat := some 0

def Attempt.within {α : Type} (timeout : Nat) (a : Attempt α) : Nat × Except StoreError α :=
  match a.duration with
  | none => (timeout, .error (.timeout timeout))
  | some d => if d ≤ timeout then (d, a.outcome) else (timeout, .error (.timeout timeout))

namespace RetryOptions

def tries (o : RetryOptions) : Nat := max 1 o.attempts

def nextBackoff (o : RetryOptions) (backoff : Nat) : Nat := min (2 * backoff) o.maxBackoff

end RetryOptions

def Read.stop {σ α : Type} (ctx : Context) (w : World σ) : Except StoreError α × World σ :=
  (.error .canceled, { w with clock := max w.clock (ctx.stop?.getD w.clock) })

/-- Tries a read until it succeeds, with so many attempts to come after the one at hand. An attempt
is told when it starts. -/
def Read.retry {σ α : Type} (ctx : Context) (o : RetryOptions) (operation : String)
    (attempt : Nat → StateM σ (Attempt α)) : (left backoff : Nat) → Read σ α
  | left, backoff => fun w =>
    if ctx.isCanceledBy w.clock then Read.stop ctx w
    else
      let (a, backend) := attempt w.clock w.backend
      let (lasted, outcome) := a.within o.queryTimeout
      let w' : World σ := ⟨w.clock + lasted, backend⟩
      if ctx.isCanceledBy w'.clock then Read.stop ctx ⟨w.clock, backend⟩
      else
        match outcome with
        | .ok v => (.ok v, w')
        | .error e =>
          if !e.isTransient then (.error e, w')
          else
            match left with
            | 0 => (.error (.unavailable operation o.tries e.message), w')
            | left + 1 =>
              if ctx.isCanceledBy (w'.clock + backoff) then Read.stop ctx w'
              else
                Read.retry ctx o operation attempt left (o.nextBackoff backoff)
                  { w' with clock := w'.clock + backoff }

def Read.withRetry {σ α : Type} (ctx : Context) (o : RetryOptions) (operation : String)
    (attempt : Nat → StateM σ (Attempt α)) : Read σ α :=
  Read.retry ctx o operation attempt (o.tries - 1) o.initialBackoff

end Recommendation
