import Recommendation.Store.Retry

/-!
The pauses of a read that is tried more than once. A length of time is counted in seconds of 64 bits
and the fraction of a second. Twice a pause has to be such a length: a run that cannot double its
pause breaks down, whatever it would have come to.
-/

namespace Recommendation

/-- The longest time that can be counted, in milliseconds. -/
def Time.longestMillis : Nat := 0x10000000000000000 * 1000 - 1

def RetryOptions.nextBackoff? (o : RetryOptions) (backoff : Nat) : Option Nat :=
  if 2 * backoff ≤ Time.longestMillis then some (o.nextBackoff backoff) else none

structure Paced (σ α : Type) where
  /-- The pauses that the run goes into, at the length that they are meant to have. -/
  pauses : List Nat := []
  /-- None if the run breaks down. -/
  ending : Option (Except StoreError α × World σ)

namespace Read

variable {σ α : Type}

def retryPaced (ctx : Context) (o : RetryOptions) (operation : String)
    (attempt : Nat → StateM σ (Attempt α)) : (left backoff : Nat) → World σ → Paced σ α
  | left, backoff, w =>
    if ctx.isCanceledBy w.clock then { ending := some (Read.stop ctx w) }
    else
      let (a, backend) := attempt w.clock w.backend
      let (lasted, outcome) := a.within o.queryTimeout
      let w' : World σ := ⟨w.clock + lasted, backend⟩
      if ctx.isCanceledBy w'.clock then { ending := some (Read.stop ctx ⟨w.clock, backend⟩) }
      else
        match outcome with
        | .ok v => { ending := some (.ok v, w') }
        | .error e =>
          if !e.isTransient then { ending := some (.error e, w') }
          else
            match left with
            | 0 => { ending := some (.error (.unavailable operation o.tries e.message), w') }
            | left + 1 =>
              let later : Paced σ α :=
                if ctx.isCanceledBy (w'.clock + backoff) then { ending := some (Read.stop ctx w') }
                else
                  match o.nextBackoff? backoff with
                  | none => { ending := none }
                  | some next =>
                    retryPaced ctx o operation attempt left next
                      { w' with clock := w'.clock + backoff }
              { later with pauses := backoff :: later.pauses }

def withRetryPaced (ctx : Context) (o : RetryOptions) (operation : String)
    (attempt : Nat → StateM σ (Attempt α)) (w : World σ) : Paced σ α :=
  retryPaced ctx o operation attempt (o.tries - 1) o.initialBackoff w

end Read

end Recommendation
