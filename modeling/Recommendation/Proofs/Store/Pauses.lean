import Recommendation.Proofs.Environment
import Recommendation.Proofs.Store.Retrying
import Recommendation.Store.Pauses

/-!
The pauses between attempts. A run goes into the pauses of its schedule, one behind each attempt
that fails in passing and has another one to come. From the second one on pauses grow and keep to
the bound. The first is as long as it is set, so it keeps to the bound, and the others do not fall
behind it, if and only if it is not set beyond the bound.
-/

namespace Recommendation

/-! ### The schedule of pauses -/

namespace RetryOptions

variable {o : RetryOptions} {limit : Nat}

theorem pause_succ (o : RetryOptions) (n : Nat) :
    o.pause (n + 1) = min (2 ^ (n + 1) * o.initialBackoff) o.maxBackoff := by
  induction n with
  | zero => rfl
  | succ n ih =>
      have hdouble : 2 ^ (n + 1 + 1) * o.initialBackoff = 2 * (2 ^ (n + 1) * o.initialBackoff) := by
        rw [Nat.pow_succ', Nat.mul_assoc]
      rw [pause, ih, nextBackoff, hdouble]
      omega

theorem pause_le_maxBackoff {n : Nat} (hn : 0 < n) : o.pause n ≤ o.maxBackoff := by
  obtain ⟨k, rfl⟩ : ∃ k, n = k + 1 := ⟨n - 1, by omega⟩
  rw [pause_succ]
  exact Nat.min_le_right _ _

/-- From the second one on no pause is shorter than the one before it. -/
theorem pause_le_succ {n : Nat} (hn : 0 < n) : o.pause n ≤ o.pause (n + 1) := by
  have hbound := pause_le_maxBackoff (o := o) hn
  rw [pause, nextBackoff]
  omega

theorem pause_zero_le_iff : o.pause 0 ≤ o.pause 1 ↔ o.initialBackoff ≤ o.maxBackoff := by
  rw [pause_succ, pause]
  omega

theorem pause_mono {m n : Nat} (hm : 0 < m) (h : m ≤ n) : o.pause m ≤ o.pause n := by
  induction n, h using Nat.le_induction with
  | base => exact le_rfl
  | succ n hn ih => exact ih.trans (pause_le_succ (hm.trans_le hn))

theorem pause_le (hinitial : o.initialBackoff ≤ limit) (hmax : o.maxBackoff ≤ limit) (n : Nat) :
    o.pause n ≤ limit := by
  rcases Nat.eq_zero_or_pos n with rfl | hn
  · exact hinitial
  · exact (pause_le_maxBackoff hn).trans hmax

/-! ### So many pauses of the schedule -/

def pauses (o : RetryOptions) (count : Nat) : List Nat := (List.range count).map o.pause

variable {count : Nat}

theorem mem_pauses_iff {p : Nat} : p ∈ o.pauses count ↔ ∃ n < count, o.pause n = p := by
  simp [pauses]

theorem pairwise_pauses_iff : (o.pauses count).Pairwise (· ≤ ·) ↔
    ∀ m n, m < n → n < count → o.pause m ≤ o.pause n := by
  rw [pauses, List.pairwise_iff_getElem]
  simp only [List.length_map, List.length_range, List.getElem_map, List.getElem_range]
  exact ⟨fun h m n hmn hn => h m n (hmn.trans hn) hn hmn, fun h m n _ hn hmn => h m n hmn hn⟩

theorem ascending_pauses_iff :
    (o.pauses count).Pairwise (· ≤ ·) ↔ o.initialBackoff ≤ o.maxBackoff ∨ count ≤ 1 := by
  rw [pairwise_pauses_iff, ← pause_zero_le_iff]
  constructor
  · intro h
    by_cases hone : count ≤ 1
    · exact .inr hone
    · exact .inl (h 0 1 Nat.one_pos (by omega))
  · rintro (hfirst | hone) m n hmn hn
    · rcases Nat.eq_zero_or_pos m with rfl | hm
      · exact hfirst.trans (pause_mono Nat.one_pos hmn)
      · exact pause_mono hm hmn.le
    · omega

theorem bounded_pauses_iff :
    (∀ p ∈ o.pauses count, p ≤ o.maxBackoff) ↔ o.initialBackoff ≤ o.maxBackoff ∨ count = 0 := by
  constructor
  · intro h
    rcases Nat.eq_zero_or_pos count with hnone | hsome
    · exact .inr hnone
    · exact .inl (h _ (mem_pauses_iff.2 ⟨0, hsome, rfl⟩))
  · intro h p hp
    obtain ⟨n, hn, rfl⟩ := mem_pauses_iff.1 hp
    exact pause_le (h.resolve_right (by omega)) le_rfl n

theorem tail_pauses (o : RetryOptions) (count : Nat) :
    (o.pauses count).tail = (List.range (count - 1)).map fun n => o.pause (n + 1) := by
  cases count with
  | zero => rfl
  | succ count => simp [pauses, List.range_succ_eq_map]

/-- The pauses behind the first one grow and keep to the bound, however they are set. -/
theorem tail_pauses_spec : (o.pauses count).tail.Pairwise (· ≤ ·) ∧
    ∀ p ∈ (o.pauses count).tail, p ≤ o.maxBackoff := by
  rw [tail_pauses]
  constructor
  · rw [List.pairwise_map]
    exact List.pairwise_lt_range.imp fun h => pause_mono (Nat.succ_pos _) (Nat.succ_le_succ h.le)
  · rintro p hp
    obtain ⟨n, -, rfl⟩ := List.mem_map.1 hp
    exact pause_le_maxBackoff n.succ_pos

end RetryOptions

/-! ### The pauses of a run -/

namespace Retrying

variable {σ α : Type} {r : Retrying σ α} {ctx : Context} {operation : String} {left k last : Nat}

/-- No pause of the options is too long to be doubled. -/
def IsCountable (r : Retrying σ α) : Prop :=
  2 * r.options.initialBackoff ≤ Time.longestMillis ∧ 2 * r.options.maxBackoff ≤ Time.longestMillis

theorem IsCountable.pause_le (h : r.IsCountable) (n : Nat) :
    2 * r.options.pause n ≤ Time.longestMillis := by
  obtain ⟨hinitial, hmax⟩ := h
  have hpause : r.options.pause n ≤ Time.longestMillis / 2 :=
    r.options.pause_le (by omega) (by omega) n
  omega

theorem IsCountable.ending_withRetryPaced (h : r.IsCountable) (ctx : Context)
    (operation : String) :
    (Read.withRetryPaced ctx r.options operation r.attempt r.start).ending =
      some ((Read.withRetry ctx r.options operation r.attempt).run r.start) := by
  obtain hending | ⟨-, n, -, hlong⟩ := r.ending_withRetryPaced_cases ctx operation
  · exact hending
  · exact absurd (h.pause_le n) (not_le.2 hlong)

theorem clock_ended_mono (r : Retrying σ α) {m n : Nat} (h : m ≤ n) :
    (r.ended m).clock ≤ (r.ended n).clock := by
  rcases h.lt_or_eq with hlt | rfl
  · exact (r.clock_ended_le_begun hlt).trans (r.clock_begun_le_ended n)
  · exact le_rfl

/-- Behind an attempt there is a pause: the attempt does not settle the read, and it ends before the
request is canceled. -/
def PausesBehind (r : Retrying σ α) (ctx : Context) (last n : Nat) : Prop :=
  n < last ∧ ctx.isCanceledBy (r.ended n).clock = false

theorem not_pausesBehind (h : ctx.isCanceledBy (r.ended k).clock = true) {n : Nat} (hn : k ≤ n) :
    ¬r.PausesBehind ctx last n := by
  rintro ⟨-, hfree⟩
  rw [Context.isCanceledBy_of_le (r.clock_ended_mono hn) hfree] at h
  cases h

/-- A request that is canceled by the end of an attempt does not get to a pause. -/
theorem pauses_pacedRest_of_canceled (hcanceled : ctx.isCanceledBy (r.ended k).clock = true) :
    (r.pacedRest ctx operation left k).pauses = [] := by
  rw [pacedRest_eq, if_pos hcanceled]
  split_ifs <;> rfl

/-- The attempt that settles the read is not followed by a pause. -/
theorem pauses_pacedRest_of_endsAt (hlast : r.EndsAt last)
    (hleft : last + left + 1 = r.options.tries) :
    (r.pacedRest ctx operation left last).pauses = [] := by
  cases hended : ctx.isCanceledBy (r.ended last).clock with
  | true => exact pauses_pacedRest_of_canceled hended
  | false =>
      rw [pacedRest_eq, Context.isCanceledBy_of_le (r.clock_begun_le_ended last) hended, hended]
      cases hcame : r.came last with
      | ok v => rfl
      | error e =>
          cases htransient : e.isTransient with
          | false => simp [htransient]
          | true =>
              cases left with
              | zero => simp [htransient]
              | succ left =>
                  have hpermanent := hlast.settled (by omega) e hcame
                  rw [htransient] at hpermanent
                  cases hpermanent

/-- Behind an attempt that fails in passing there is the pause of the schedule, and behind it what
the rest of the run has, if the request is not canceled meanwhile. -/
theorem pauses_pacedRest_of_passing (h : r.IsCountable) {e : StoreError}
    (hcame : r.came k = .error e) (htransient : e.isTransient = true)
    (hfree : ctx.isCanceledBy (r.ended k).clock = false) :
    (r.pacedRest ctx operation (left + 1) k).pauses =
      r.options.pause k :: if ctx.isCanceledBy (r.begun (k + 1)).clock then []
        else (r.pacedRest ctx operation left (k + 1)).pauses := by
  have hbegun := Context.isCanceledBy_of_le (r.clock_begun_le_ended k) hfree
  rw [pacedRest_eq, hbegun, hfree, hcame]
  by_cases hpause : ctx.isCanceledBy (r.begun (k + 1)).clock = true
  · simp [htransient, hpause]
  · simp [htransient, hpause, h.pause_le k]

/-- The pauses are those of the schedule from some attempt on, one behind each attempt that has
one. -/
def FollowSchedule (r : Retrying σ α) (ctx : Context) (last k : Nat) (pauses : List Nat) : Prop :=
  ∃ count, pauses = (List.range' k count).map r.options.pause ∧
    ∀ n, k ≤ n → (n < k + count ↔ r.PausesBehind ctx last n)

theorem followSchedule_nil (h : ∀ n, k ≤ n → ¬r.PausesBehind ctx last n) :
    r.FollowSchedule ctx last k [] :=
  ⟨0, rfl, fun n hn => iff_of_false (by omega) (h n hn)⟩

theorem FollowSchedule.cons {pauses : List Nat} (hk : r.PausesBehind ctx last k)
    (h : r.FollowSchedule ctx last (k + 1) pauses) :
    r.FollowSchedule ctx last k (r.options.pause k :: pauses) := by
  obtain ⟨count, rfl, hiff⟩ := h
  refine ⟨count + 1, by rw [List.range'_succ, List.map_cons], fun n hn => ?_⟩
  rcases hn.lt_or_eq with hlt | rfl
  · rw [← hiff n hlt]
    omega
  · exact iff_of_true (by omega) hk

theorem followSchedule_pacedRest (h : r.IsCountable) (hlast : r.EndsAt last) (hk : k ≤ last)
    (hleft : k + left + 1 = r.options.tries) :
    r.FollowSchedule ctx last k (r.pacedRest ctx operation left k).pauses := by
  have hnothing (n : Nat) (hn : last ≤ n) : ¬r.PausesBehind ctx last n :=
    fun hbehind => absurd hbehind.1 (by omega)
  induction left generalizing k with
  | zero =>
      have hamong := hlast.among
      obtain rfl : k = last := by omega
      have hnone : (r.pacedRest ctx operation 0 k).pauses = [] :=
        pauses_pacedRest_of_endsAt hlast hleft
      rw [hnone]
      exact followSchedule_nil hnothing
  | succ left ih =>
      rcases hk.lt_or_eq with hlt | rfl
      · obtain ⟨e, hcame, htransient⟩ := hlast.passing k hlt
        cases hended : ctx.isCanceledBy (r.ended k).clock with
        | true =>
            rw [pauses_pacedRest_of_canceled hended]
            exact followSchedule_nil fun n => not_pausesBehind hended
        | false =>
            rw [pauses_pacedRest_of_passing h hcame htransient hended]
            refine .cons ⟨hlt, hended⟩ ?_
            split_ifs with hpause
            · refine followSchedule_nil fun n hn => ?_
              rintro ⟨-, hfree⟩
              have hbegun : (r.begun (k + 1)).clock ≤ (r.ended n).clock :=
                (r.clock_begun_mono hn).trans (r.clock_begun_le_ended n)
              rw [Context.isCanceledBy_of_le hbegun hfree] at hpause
              cases hpause
            · exact ih hlt (by omega)
      · rw [pauses_pacedRest_of_endsAt hlast hleft]
        exact followSchedule_nil hnothing

/-! ### Runs as settings say -/

/-- How pauses follow each other: they are doubled up to a bound, but the first is as it is set. So
those behind it grow and keep to the bound, and all of them do if the first is within the bound. -/
structure GrowWithin (initial bound : Nat) (pauses : List Nat) : Prop where
  doubled : ∀ n p, pauses[n]? = some p → p = if n = 0 then initial else min (2 ^ n * initial) bound
  ascending_later : pauses.tail.Pairwise (· ≤ ·)
  bounded_later : ∀ p ∈ pauses.tail, p ≤ bound
  ascending_iff : pauses.Pairwise (· ≤ ·) ↔ initial ≤ bound ∨ pauses.length ≤ 1
  bounded_iff : (∀ p ∈ pauses, p ≤ bound) ↔ initial ≤ bound ∨ pauses = []

theorem growWithin_pauses (o : RetryOptions) (count : Nat) :
    GrowWithin o.initialBackoff o.maxBackoff (o.pauses count) := by
  have hlength : (o.pauses count).length = count := by simp [RetryOptions.pauses]
  refine ⟨fun n p hp => ?_, RetryOptions.tail_pauses_spec.1, RetryOptions.tail_pauses_spec.2, ?_, ?_⟩
  · obtain ⟨hn, rfl⟩ := List.getElem?_eq_some_iff.1 hp
    simp only [RetryOptions.pauses, List.getElem_map, List.getElem_range]
    cases n with
    | zero => rfl
    | succ n => exact o.pause_succ n
  · rw [RetryOptions.ascending_pauses_iff, hlength]
  · rw [RetryOptions.bounded_pauses_iff, ← List.length_eq_zero_iff, hlength]

def under (r : Retrying σ α) (s : ServerSettings) : Retrying σ α :=
  { r with options := s.retryOptions }

theorem isCountable_under {s : ServerSettings} (h : s.FitsBits) (r : Retrying σ α) :
    (r.under s).IsCountable := by
  have hinitial := h.initialBackoff
  have hmax := h.maxBackoff
  rw [IsCountable, under, ServerSettings.retryOptions, Time.longestMillis]
  dsimp only
  omega

/-- How a run goes with its pauses. Each of them can be doubled, so that the run comes to what it
comes to, and there is one behind each attempt that has another one to come. -/
structure PacedCourse (r : Retrying σ α) (ctx : Context) (operation : String) (last : Nat)
    (pauses : List Nat) : Prop where
  endsAt : r.EndsAt last
  pausesBehind_iff : ∀ n, n < pauses.length ↔ r.PausesBehind ctx last n
  run_eq : Read.withRetryPaced ctx r.options operation r.attempt r.start =
    ⟨pauses, some ((Read.withRetry ctx r.options operation r.attempt).run r.start)⟩

theorem exists_pacedCourse (h : r.IsCountable) (ctx : Context) (operation : String) :
    ∃ last count, r.PacedCourse ctx operation last (r.options.pauses count) := by
  obtain ⟨last, hlast⟩ := r.exists_endsAt
  have hamong := hlast.among
  obtain ⟨count, hpauses, hiff⟩ : r.FollowSchedule ctx last 0
      (r.pacedRest ctx operation (r.options.tries - 1) 0).pauses :=
    followSchedule_pacedRest h hlast (Nat.zero_le _) (by omega)
  have hending := h.ending_withRetryPaced ctx operation
  rw [← List.range_eq_range'] at hpauses
  refine ⟨last, count, hlast, fun n => ?_, congrArg₂ Paced.mk hpauses hending⟩
  rw [RetryOptions.pauses, List.length_map, List.length_range, ← hiff n (Nat.zero_le _),
    Nat.zero_add]

/-- Whatever the settings and however attempts turn out, no pause is too long to be doubled, and
the pauses behind the first one grow and keep to the bound. All of them do if and only if the first
is not set beyond the bound, or too few pauses come of it. -/
theorem pauses_grow_within_bound {s : ServerSettings} (h : s.FitsBits) (r : Retrying σ α)
    (ctx : Context) (operation : String) :
    ∃ last pauses, (r.under s).PacedCourse ctx operation last pauses ∧
      GrowWithin s.initialBackoff s.maxBackoff pauses := by
  obtain ⟨last, count, hcourse⟩ := exists_pacedCourse (isCountable_under h r) ctx operation
  exact ⟨last, _, hcourse, growWithin_pauses s.retryOptions count⟩

def patientEnvironment : Environment :=
  [("RETRY_INITIAL_BACKOFF_MS", "18446744073709551615"),
    ("RETRY_MAX_BACKOFF_MS", "18446744073709551615")]

def patientSettings : ServerSettings :=
  { initialBackoff := 18446744073709551615, maxBackoff := 18446744073709551615 }

theorem ofEnvironment_patientEnvironment :
    ServerSettings.ofEnvironment patientEnvironment = .ok patientSettings := rfl

theorem pauses_grow_within_bound_patientSettings :
    patientSettings.FitsBits ∧
      ∃ last pauses, (alwaysReset.under patientSettings).PacedCourse { org := ⟨0⟩, now := ⟨0, 0⟩ }
          "read" last pauses ∧
        GrowWithin 18446744073709551615 18446744073709551615 pauses :=
  have hfits := ServerSettings.fitsBits_of_environment ofEnvironment_patientEnvironment
  ⟨hfits, pauses_grow_within_bound hfits alwaysReset { org := ⟨0⟩, now := ⟨0, 0⟩ } "read"⟩

def hastySettings : ServerSettings := { initialBackoff := 1000, maxBackoff := 500 }

/-- The first pause is as long as it is set, and the second is shorter. -/
theorem hastySettings_pause_beyond_bound :
    let pauses := (Read.withRetryPaced { org := ⟨0⟩, now := ⟨0, 0⟩ } hastySettings.retryOptions
      "read" alwaysReset.attempt alwaysReset.start).pauses
    hastySettings.FitsBits ∧ pauses = [1000, 500] ∧ ¬pauses.Pairwise (· ≤ ·) ∧
      ¬∀ pause ∈ pauses, pause ≤ hastySettings.maxBackoff :=
  ⟨by constructor <;> decide, by decide⟩

end Retrying

end Recommendation
