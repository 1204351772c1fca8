import Recommendation.Proofs.Doubles.NearestWhole
import Recommendation.Proofs.Time.Instant
import Recommendation.Time.Span

/-!
Where windows begin. A window ends at an instant and is as long as a number of days, in
whole milliseconds. It begins in the calendar if and only if it is no longer than what the
calendar has in front of the instant. For the instants from 1970 to 2100 that is between
96465291 and 96513140 days.
-/

namespace Recommendation.Time

open Doubles

/-! ### Days in milliseconds -/

theorem dayMillis_bounds : 0.0 < dayMillis ∧ 0.0 ≤ dayMillis ∧ dayMillis.isFinite = true := by
  decide +kernel

theorem daysMillis_mono {days days' : Float} (hdays : 0.0 ≤ days) (h : days ≤ days') :
    daysMillis days ≤ daysMillis days' := by
  obtain ⟨hpos, hnonneg, hfinite⟩ := dayMillis_bounds
  have hself : dayMillis ≤ dayMillis := le_refl (isNaN_of_isFinite hfinite)
  have hzero : (0.0 : Float) ≤ 0.0 ∧ 0.0 * dayMillis = 0.0 := by decide +kernel
  have hproduct : 0.0 * dayMillis ≤ days * dayMillis :=
    mul_mono hzero.1 hnonneg hdays hself hfinite (.inr hpos)
  rw [hzero.2] at hproduct
  exact nearestInt64_mono hproduct (mul_mono hdays hnonneg h hself hfinite (.inr hpos))

theorem daysMillis_nonneg {days : Float} (hdays : 0.0 ≤ days) : 0 ≤ daysMillis days := by
  have hzero : (0.0 : Float) ≤ 0.0 ∧ daysMillis 0.0 = 0 := by decide +kernel
  rw [← hzero.2]
  exact daysMillis_mono hzero.1 hdays

namespace Instant

/-! ### The calendar in front of an instant -/

def first : Instant := ⟨(⟨firstYear, 1, 1⟩ : Date).toDays * daySeconds, 0⟩

/-- How many whole milliseconds the calendar has in front of an instant. -/
def reach (t : Instant) : Int := (t.total - first.total) / 1000000

theorem isRepresentable_iff {t : Instant} : t.isRepresentable = true ↔
    -96465292 * 86400 ≤ t.seconds ∧ t.seconds < 95026237 * 86400 := by
  rw [isRepresentable, Bool.and_eq_true, decide_eq_true_eq, decide_eq_true_eq]
  rfl

theorem reach_eq (t : Instant) :
    t.reach = (t.seconds * 1000000000 + t.nanos + 96465292 * 86400 * 1000000000) / 1000000 := by
  have hfirst : first.total = -96465292 * 86400 * 1000000000 := rfl
  have htotal : t.total = t.seconds * 1000000000 + t.nanos := rfl
  rw [reach, hfirst, htotal]
  congr 1

/-- A step back of less than a second stays within a leap second; all others go by the total. -/
theorem seconds_beforeMillis (t : Instant) {millis : Int} (hmillis : 0 ≤ millis) :
    (t.beforeMillis millis).seconds =
      if t.isLeap = true ∧ millis < 1000 then t.seconds
      else (t.total - millis * 1000000) / 1000000000 := by
  have hspan : t.total + -millis * 1000000 = t.total - millis * 1000000 := by ring
  have hwhole : (-millis * 1000000).tdiv secondNanos = -(millis * 1000000 / 1000000000) := by
    rw [Int.neg_mul, Int.neg_tdiv, Int.tdiv_eq_ediv_of_nonneg (by omega)]
    rfl
  have hrest : (-millis * 1000000).tmod secondNanos = -(millis * 1000000 % 1000000000) := by
    rw [Int.neg_mul, Int.neg_tmod, Int.tmod_eq_emod_of_nonneg (by omega)]
    rfl
  rw [beforeMillis, after]
  cases hleap : t.isLeap with
  | false =>
      rw [if_neg (by decide), if_neg (by simp), seconds_ofTotal, hspan]
  | true =>
      simp only [true_and, if_true, hwhole, hrest, hspan]
      rw [if_neg (by omega)]
      split_ifs with hback hshort hshort
      · omega
      · exact seconds_ofTotal _
      · rfl
      · omega

/-- So many milliseconds before an instant of the calendar there is one if and only if the calendar
has so many milliseconds in front of it. -/
theorem isRepresentable_beforeMillis_iff {t : Instant} (ht : t.isRepresentable = true)
    (hnanos : t.nanos < 2 * secondNanos) {millis : Int} (hmillis : 0 ≤ millis) :
    (t.beforeMillis millis).isRepresentable = true ↔ millis ≤ t.reach := by
  rw [isRepresentable_iff] at *
  rw [seconds_beforeMillis t hmillis, reach_eq]
  have htotal : t.total = t.seconds * 1000000000 + t.nanos := rfl
  rw [secondNanos] at hnanos
  split_ifs with hshort
  · -- Within a leap second there is room for a step of less than a second.
    obtain ⟨hleap, hless⟩ := hshort
    rw [isLeap, decide_eq_true_eq, secondNanos] at hleap
    omega
  · rw [isLeap, decide_eq_true_eq, secondNanos] at hshort
    omega

/-! ### From 1970 to 2100 -/

structure IsCurrent (t : Instant) : Prop where
  begins : 0 ≤ t.seconds
  ends : t.seconds < (⟨2101, 1, 1⟩ : Date).toDays * daySeconds
  nanos : t.nanos < 2 * secondNanos

/-- The calendar has as much in front of the instant as of those from 1970 to 2100. -/
structure HasPast (t : Instant) : Prop where
  isRepresentable : t.isRepresentable = true
  nanos : t.nanos < 2 * secondNanos
  least : 96465292 * 86400000 - 1 ≤ t.reach
  most : t.reach < 96513139 * 86400000 + 1000

theorem hasPast_of_bounds {t : Instant} (hnanos : t.nanos < 2 * secondNanos)
    (hlow : -1000000 ≤ t.total) (hhigh : t.seconds < 47847 * 86400) : t.HasPast := by
  have htotal : t.total = t.seconds * 1000000000 + t.nanos := rfl
  have hnanos' : t.nanos < 2 * 1000000000 := hnanos
  refine ⟨?_, hnanos, ?_, ?_⟩
  · rw [isRepresentable_iff]
    omega
  · rw [reach_eq]
    omega
  · rw [reach_eq]
    omega

theorem IsCurrent.hasPast {t : Instant} (h : t.IsCurrent) : t.HasPast := by
  have htotal : t.total = t.seconds * 1000000000 + t.nanos := rfl
  have hbegins := h.begins
  exact hasPast_of_bounds h.nanos (by omega) h.ends

/-- A list about the past looks back from a microsecond before the instant it asks for. -/
theorem IsCurrent.hasPast_after {t : Instant} (h : t.IsCurrent) : (t.after (-1000)).HasPast := by
  have htotal : t.total = t.seconds * 1000000000 + t.nanos := rfl
  obtain ⟨hbegins, hends, hnanos⟩ := h
  have hends' : t.seconds < 47847 * 86400 := hends
  rw [secondNanos] at hnanos
  rw [after]
  split
  · rename_i hleap
    rw [isLeap, decide_eq_true_eq, secondNanos] at hleap
    have hwhole : (-1000 : Int).tdiv secondNanos = 0 := rfl
    have hrest : (-1000 : Int).tmod secondNanos = -1000 := rfl
    simp only [hwhole, hrest]
    rw [if_neg (by omega), if_neg (by omega)]
    refine hasPast_of_bounds ?_ ?_ hends'
    · rw [secondNanos]
      dsimp only
      omega
    · rw [total, secondNanos]
      dsimp only
      omega
  · rename_i hleap
    rw [isLeap, decide_eq_true_eq, secondNanos] at hleap
    have hseconds := seconds_ofTotal (t.total + -1000)
    have hrest := nanos_ofTotal (t.total + -1000)
    refine hasPast_of_bounds ?_ ?_ ?_
    · rw [secondNanos]
      omega
    · rw [total, secondNanos]
      omega
    · omega

/-- Windows of so many days begin in the calendar, whenever they end from 1970 to 2100. -/
def safeDays : Float := 96465291.0

/-- Windows of so many days begin outside it, whenever they end in those years. -/
def excessDays : Float := 96513140.0

section

variable {t : Instant} {days : Float} (h : t.HasPast)
include h

/-- A window begins in the calendar if and only if it is no longer than what lies in front of its
end. -/
theorem HasPast.isRepresentable_minusDays_iff (hdays : 0.0 ≤ days) :
    (t.minusDays days).isRepresentable = true ↔ daysMillis days ≤ t.reach :=
  isRepresentable_beforeMillis_iff h.isRepresentable h.nanos (daysMillis_nonneg hdays)

theorem HasPast.isRepresentable_of_le (hdays : 0.0 ≤ days) (hle : days ≤ safeDays) :
    (t.minusDays days).isRepresentable = true := by
  have hsafe : daysMillis safeDays = 96465291 * 86400000 := by decide +kernel
  have hmillis := daysMillis_mono hdays hle
  have hleast := h.least
  rw [h.isRepresentable_minusDays_iff hdays]
  omega

theorem HasPast.isRepresentable_of_ge (hdays : 0.0 ≤ days) (hge : excessDays ≤ days) :
    (t.minusDays days).isRepresentable = false := by
  have hexcess : 0.0 ≤ excessDays ∧ daysMillis excessDays = 96513140 * 86400000 := by
    decide +kernel
  have hmillis := daysMillis_mono hexcess.1 hge
  have hmost := h.most
  rw [← Bool.not_eq_true, h.isRepresentable_minusDays_iff hdays]
  omega

end

end Instant

end Recommendation.Time
