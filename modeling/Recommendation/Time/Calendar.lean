/-!
The proleptic Gregorian calendar, counted in days from the first of January 1970. Years begin in
March here, so that the leap day is the last day of a year and months repeat in a cycle of five.
-/

namespace Recommendation.Time

structure Date where
  year : Int
  month : Int
  day : Int
deriving DecidableEq, Repr

/-- The day as a count of days from 1970-01-01. -/
def Date.toDays (d : Date) : Int :=
  let year := if d.month ≤ 2 then d.year - 1 else d.year
  let era := Int.fdiv year 400
  let yearOfEra := year - era * 400
  let dayOfYear := (153 * (if 2 < d.month then d.month - 3 else d.month + 9) + 2) / 5 + d.day - 1
  era * 146097 + yearOfEra * 365 + yearOfEra / 4 - yearOfEra / 100 + dayOfYear - 719468

def Date.ofDays (days : Int) : Date :=
  let shifted := days + 719468
  let era := Int.fdiv shifted 146097
  let dayOfEra := shifted - era * 146097
  let yearOfEra :=
    (dayOfEra - dayOfEra / 1460 + dayOfEra / 36524 - dayOfEra / 146096) / 365
  let dayOfYear := dayOfEra - (365 * yearOfEra + yearOfEra / 4 - yearOfEra / 100)
  let cycle := (5 * dayOfYear + 2) / 153
  let month := if cycle < 10 then cycle + 3 else cycle - 9
  ⟨yearOfEra + era * 400 + (if month ≤ 2 then 1 else 0), month, dayOfYear - (153 * cycle + 2) / 5 + 1⟩

def isLeapYear (year : Int) : Bool :=
  year % 4 = 0 && (year % 100 != 0 || year % 400 = 0)

def daysInMonth (year month : Int) : Int :=
  if month = 2 then (if isLeapYear year then 29 else 28)
  else if month = 4 ∨ month = 6 ∨ month = 9 ∨ month = 11 then 30
  else 31

def firstYear : Int := -262143

def lastYear : Int := 262142

def Date.isValid (d : Date) : Bool :=
  firstYear ≤ d.year && d.year ≤ lastYear && 1 ≤ d.month && d.month ≤ 12 && 1 ≤ d.day &&
    d.day ≤ daysInMonth d.year d.month

example : (⟨1970, 1, 1⟩ : Date).toDays = 0 ∧ Date.ofDays 19782 = ⟨2024, 2, 29⟩ := by decide

end Recommendation.Time
