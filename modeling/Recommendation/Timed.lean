import Recommendation.Context
import Recommendation.StoreError

/-!
Computations that take time. They run on a clock in milliseconds and against a backend that they may
change. Reads that run side by side all start at the same point; those who wait for all of them wait
for the slowest, and those who wait for the first failure wait for that.
-/

namespace Recommendation

structure World (σ : Type) where
  clock : Nat
  backend : σ

abbrev Timed (σ α : Type) := StateM (World σ) α

abbrev Read (σ α : Type) := ExceptT StoreError (StateM (World σ)) α

namespace Timed

variable {σ α : Type}

def sleep (millis : Nat) : Timed σ Unit :=
  modify fun w => { w with clock := w.clock + millis }

def clock : Timed σ Nat := do return (← get).clock

/-- Runs computations side by side, each from the clock as it stands, and tells when each has ended.
The clock itself does not move. -/
def sideBySide : List (Timed σ α) → Timed σ (List (α × Nat))
  | [] => pure []
  | m :: ms => fun w =>
    let (a, w₁) := m w
    let (rest, w₂) := sideBySide ms { w₁ with clock := w.clock }
    ((a, w₁.clock) :: rest, w₂)

def waitUntil (clock : Nat) : Timed σ Unit :=
  modify fun w => { w with clock := max w.clock clock }

def all (ms : List (Timed σ α)) : Timed σ (List α) := do
  let ended ← sideBySide ms
  ended.forM fun e => waitUntil e.2
  return ended.map (·.1)

def unlessCanceled (ctx : Context) (m : Timed σ α) : Timed σ (Option α) := fun w =>
  let (a, w') := m w
  match ctx.stop? with
  | none => (some a, w')
  | some stop =>
    if stop ≤ w.clock then (none, w)
    else if stop ≤ w'.clock then (none, { w' with clock := stop })
    else (some a, w')

end Timed

namespace Read

variable {σ α : Type}

/-- The failure that comes first, with its point on the clock; of two at one point the first in the
list. -/
def firstFailure? : List (Except StoreError α × Nat) → Option (StoreError × Nat)
  | [] => none
  | (.ok _, _) :: rest => firstFailure? rest
  | (.error e, t) :: rest =>
    match firstFailure? rest with
    | some (e', t') => if t' < t then some (e', t') else some (e, t)
    | none => some (e, t)

/-- Runs reads side by side until all have ended or one has failed. -/
def all (reads : List (Read σ α)) : Read σ (List α) :=
  ExceptT.mk do
    let ended ← Timed.sideBySide (reads.map ExceptT.run)
    match firstFailure? ended with
    | some (e, t) => Timed.waitUntil t; return .error e
    | none =>
      ended.forM fun e => Timed.waitUntil e.2
      return .ok (ended.filterMap fun e => e.1.toOption)

def checkCanceled (ctx : Context) : Read σ Unit := do
  if ctx.isCanceledBy (← get).clock then throw .canceled

end Read

end Recommendation
