import Mathlib.Order.Monotone.Basic
import Recommendation.Proofs.SideBySide
import Recommendation.Store.Pauses

/-!
Reads that are tried more than once. Attempts follow a schedule: each begins in the world that
the one before it and its pause have left. The schedule knows nothing of cancellation, and a run
follows it up to the attempt that settles the read or to the point at which the request is
canceled, whichever comes first. A run whose pauses are counted comes to the same, but for one that
breaks down over a pause that is too long to be doubled.
-/

namespace Recommendation

/-- The pauses of a run, from the one behind the first attempt on. -/
def RetryOptions.pause (o : RetryOptions) : Nat → Nat
  | 0 => o.initialBackoff
  | n + 1 => o.nextBackoff (o.pause n)

structure Retrying (σ α : Type) where
  options : RetryOptions
  attempt : Nat → StateM σ (Attempt α)
  start : World σ

namespace Retrying

variable {σ α : Type}

/-! ### The schedule -/

section Schedule

variable (r : Retrying σ α)

/-- What an attempt does if nobody interrupts it, and what it makes of the backend. -/
def asked (w : World σ) : Attempt α × σ := r.attempt w.clock w.backend

def once (w : World σ) : Except StoreError α × World σ :=
  let (lasted, outcome) := (r.asked w).1.within r.options.queryTimeout
  (outcome, ⟨w.clock + lasted, (r.asked w).2⟩)

/-- The world that an attempt begins in, if it comes to that. -/
def begun : Nat → World σ
  | 0 => r.start
  | n + 1 =>
    let w := (r.once (begun n)).2
    { w with clock := w.clock + r.options.pause n }

def ended (n : Nat) : World σ := (r.once (r.begun n)).2

def came (n : Nat) : Except StoreError α := (r.once (r.begun n)).1

def verdict (operation : String) (last : Nat) : Except StoreError α :=
  match r.came last with
  | .ok v => .ok v
  | .error e =>
    .error (if e.isTransient then .unavailable operation r.options.tries e.message else e)

/-- The attempt is the first that does not fail in passing, or the last that there is. -/
structure EndsAt (last : Nat) : Prop where
  among : last < r.options.tries
  passing : ∀ n < last, ∃ e, r.came n = .error e ∧ e.isTransient = true
  settled : last + 1 < r.options.tries → ∀ e, r.came last = .error e → e.isTransient = false

theorem clock_begun_le_ended (n : Nat) : (r.begun n).clock ≤ (r.ended n).clock :=
  Nat.le_add_right _ _

theorem clock_begun_succ (n : Nat) :
    (r.begun (n + 1)).clock = (r.ended n).clock + r.options.pause n := rfl

theorem clock_begun_mono : Monotone fun n => (r.begun n).clock := by
  apply monotone_nat_of_le_succ
  intro n
  rw [clock_begun_succ]
  exact Nat.le_add_right_of_le (r.clock_begun_le_ended n)

theorem clock_ended_le_begun {m n : Nat} (h : m < n) : (r.ended m).clock ≤ (r.begun n).clock := by
  have hnext : (r.ended m).clock ≤ (r.begun (m + 1)).clock := Nat.le_add_right _ _
  exact hnext.trans (r.clock_begun_mono h)

theorem exists_endsAt_from {left first : Nat} (hleft : first + left + 1 = r.options.tries)
    (hpassing : ∀ n < first, ∃ e, r.came n = .error e ∧ e.isTransient = true) :
    ∃ last, r.EndsAt last := by
  induction left generalizing first with
  | zero => exact ⟨first, by omega, hpassing, fun h => by omega⟩
  | succ left ih =>
      by_cases hfirst : ∃ e, r.came first = .error e ∧ e.isTransient = true
      · apply ih (by omega : first + 1 + left + 1 = r.options.tries)
        intro n hn
        rcases Nat.lt_succ_iff_lt_or_eq.1 hn with hlt | rfl
        · exact hpassing n hlt
        · exact hfirst
      · refine ⟨first, by omega, hpassing, fun _ e he => ?_⟩
        rw [← Bool.not_eq_true]
        exact fun htransient => hfirst ⟨e, he, htransient⟩

theorem exists_endsAt : ∃ last, r.EndsAt last := by
  have htries : 1 ≤ r.options.tries := Nat.le_max_left _ _
  have hleft : 0 + (r.options.tries - 1) + 1 = r.options.tries := by omega
  exact r.exists_endsAt_from hleft nofun

end Schedule

/-! ### The run -/

section Run

variable {r : Retrying σ α} {ctx : Context} {operation : String} {t k left last made : Nat}

def rest (r : Retrying σ α) (ctx : Context) (operation : String) (left k : Nat) :
    Except StoreError α × World σ :=
  Read.retry ctx r.options operation r.attempt left (r.options.pause k) (r.begun k)

theorem rest_eq (r : Retrying σ α) (ctx : Context) (operation : String) (left k : Nat) :
    r.rest ctx operation left k =
      if ctx.isCanceledBy (r.begun k).clock then Read.stop ctx (r.begun k)
      else if ctx.isCanceledBy (r.ended k).clock then
        Read.stop ctx { r.ended k with clock := (r.begun k).clock }
      else
        match r.came k with
        | .ok v => (.ok v, r.ended k)
        | .error e =>
          if !e.isTransient then (.error e, r.ended k)
          else
            match left with
            | 0 => (.error (.unavailable operation r.options.tries e.message), r.ended k)
            | left + 1 =>
              if ctx.isCanceledBy (r.begun (k + 1)).clock then Read.stop ctx (r.ended k)
              else r.rest ctx operation left (k + 1) := by
  rw [rest, Read.retry.eq_def]
  rfl

/-- So many attempts begin before the point. -/
structure Before (r : Retrying σ α) (t last made : Nat) : Prop where
  le : made ≤ last + 1
  iff : ∀ n ≤ last, n < made ↔ (r.begun n).clock < t

end Run

/-! ### The run with its pauses -/

section Paced

variable (r : Retrying σ α)

def pacedRest (ctx : Context) (operation : String) (left k : Nat) : Paced σ α :=
  Read.retryPaced ctx r.options operation r.attempt left (r.options.pause k) (r.begun k)

theorem pacedRest_eq (ctx : Context) (operation : String) (left k : Nat) :
    r.pacedRest ctx operation left k =
      if ctx.isCanceledBy (r.begun k).clock then { ending := some (Read.stop ctx (r.begun k)) }
      else if ctx.isCanceledBy (r.ended k).clock then
        { ending := some (Read.stop ctx { r.ended k with clock := (r.begun k).clock }) }
      else
        match r.came k with
        | .ok v => { ending := some (.ok v, r.ended k) }
        | .error e =>
          if !e.isTransient then { ending := some (.error e, r.ended k) }
          else
            match left with
            | 0 =>
              { ending :=
                  some (.error (.unavailable operation r.options.tries e.message), r.ended k) }
            | left + 1 =>
              let later : Paced σ α :=
                if ctx.isCanceledBy (r.begun (k + 1)).clock then
                  { ending := some (Read.stop ctx (r.ended k)) }
                else if 2 * r.options.pause k ≤ Time.longestMillis then
                  r.pacedRest ctx operation left (k + 1)
                else { ending := none }
              { later with pauses := r.options.pause k :: later.pauses } := by
  rw [pacedRest, Read.retryPaced.eq_def]
  by_cases hpause : 2 * r.options.pause k ≤ Time.longestMillis
  · simp only [RetryOptions.nextBackoff?, if_pos hpause]
    rfl
  · simp only [RetryOptions.nextBackoff?, if_neg hpause]
    rfl

/-- Some pause that another attempt may follow is too long to be doubled. -/
def IsOverlong : Prop :=
  ∃ n, n + 1 < r.options.tries ∧ Time.longestMillis < 2 * r.options.pause n

/-- A run with its pauses comes to what it comes to without them, or it breaks down. -/
theorem ending_pacedRest_cases (ctx : Context) (operation : String) {left k : Nat}
    (hleft : k + left + 1 = r.options.tries) :
    (r.pacedRest ctx operation left k).ending = some (r.rest ctx operation left k) ∨
      (r.pacedRest ctx operation left k).ending = none ∧ r.IsOverlong := by
  induction left generalizing k with
  | zero =>
      left
      rw [pacedRest_eq, rest_eq]
      by_cases hbegun : ctx.isCanceledBy (r.begun k).clock = true
      · rw [if_pos hbegun, if_pos hbegun]
      by_cases hended : ctx.isCanceledBy (r.ended k).clock = true
      · rw [if_neg hbegun, if_neg hbegun, if_pos hended, if_pos hended]
      rw [if_neg hbegun, if_neg hbegun, if_neg hended, if_neg hended]
      cases r.came k with
      | ok v => rfl
      | error e => cases htransient : e.isTransient <;> simp [htransient]
  | succ left ih =>
      rw [pacedRest_eq, rest_eq]
      by_cases hbegun : ctx.isCanceledBy (r.begun k).clock = true
      · rw [if_pos hbegun, if_pos hbegun]
        exact .inl rfl
      by_cases hended : ctx.isCanceledBy (r.ended k).clock = true
      · rw [if_neg hbegun, if_neg hbegun, if_pos hended, if_pos hended]
        exact .inl rfl
      rw [if_neg hbegun, if_neg hbegun, if_neg hended, if_neg hended]
      cases r.came k with
      | ok v => exact .inl rfl
      | error e =>
          cases htransient : e.isTransient with
          | false => simp [htransient]
          | true =>
              by_cases hpause : ctx.isCanceledBy (r.begun (k + 1)).clock = true
              · simp [htransient, hpause]
              by_cases hlong : 2 * r.options.pause k ≤ Time.longestMillis
              · simpa [htransient, hpause, hlong] using ih (by omega)
              · right
                simp only [htransient, hpause, hlong, Bool.not_true, Bool.false_eq_true, if_false,
                  true_and]
                exact ⟨k, by omega, not_le.1 hlong⟩

theorem ending_withRetryPaced_cases (ctx : Context) (operation : String) :
    (Read.withRetryPaced ctx r.options operation r.attempt r.start).ending =
        some ((Read.withRetry ctx r.options operation r.attempt).run r.start) ∨
      (Read.withRetryPaced ctx r.options operation r.attempt r.start).ending = none ∧
        r.IsOverlong := by
  have htries : 1 ≤ r.options.tries := Nat.le_max_left _ _
  have hleft : 0 + (r.options.tries - 1) + 1 = r.options.tries := by omega
  exact r.ending_pacedRest_cases ctx operation hleft

end Paced

/-! ### The attempts that are made -/

section Noted

variable (r : Retrying σ α)

/-- The same read with a note of the points at which attempts begin. -/
def noted : Retrying (List Nat × σ) α where
  options := r.options
  attempt clock s :=
    let (a, backend) := r.attempt clock s.2
    (a, s.1 ++ [clock], backend)
  start := ⟨r.start.clock, [], r.start.backend⟩

theorem once_noted (w : World (List Nat × σ)) : r.noted.once w =
    ((r.once ⟨w.clock, w.backend.2⟩).1, ⟨(r.once ⟨w.clock, w.backend.2⟩).2.clock,
      w.backend.1 ++ [w.clock], (r.once ⟨w.clock, w.backend.2⟩).2.backend⟩) := rfl

theorem begun_noted (n : Nat) : r.noted.begun n =
    ⟨(r.begun n).clock, (List.range n).map fun m => (r.begun m).clock, (r.begun n).backend⟩ := by
  induction n with
  | zero => rfl
  | succ n ih =>
      rw [begun, once_noted, ih, List.range_succ, List.map_append]
      rfl

theorem came_noted (n : Nat) : r.noted.came n = r.came n := by
  rw [came, begun_noted, once_noted]
  rfl

variable {r} {t last made : Nat}

theorem EndsAt.noted (h : r.EndsAt last) : r.noted.EndsAt last where
  among := h.among
  passing n hn := by
    rw [came_noted]
    exact h.passing n hn
  settled hn := by
    rw [came_noted]
    exact h.settled hn

theorem Before.noted (h : r.Before t last made) : r.noted.Before t last made where
  le := h.le
  iff n hn := by
    rw [begun_noted]
    exact h.iff n hn

end Noted

/-! ### The course of a run -/

section Course

variable {r : Retrying σ α} {ctx : Context} {operation : String} {t last made : Nat}

def alwaysReset : Retrying Unit Nat where
  options := {}
  attempt _ := pure ⟨.error (.transient "reset"), some 10⟩
  start := ⟨0, ()⟩

/-- The pause behind the second attempt is cut short. -/
example (org : Identifier) (now : Time.Instant) :
    (Read.withRetry { org, now, deadline := some 120 } {} "read" alwaysReset.noted.attempt).run
        alwaysReset.noted.start =
      (.error .canceled, ⟨120, [0, 60], ()⟩) := rfl

end Course

end Retrying

end Recommendation
