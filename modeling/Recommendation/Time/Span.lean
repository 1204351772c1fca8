import Recommendation.Decimal.Binary
import Recommendation.Time.Instant

/-!
Spans of time: windows given in days and fractions of days, the weight that an event keeps as it
ages, and the text of a span of whole milliseconds.
-/

namespace Recommendation.Time

def dayMillis : Float := 86400000.0

/-- A number of days in whole milliseconds, to the nearest and within 64 bits. -/
def daysMillis (days : Float) : Int :=
  Decimal.nearestInt64 (days * dayMillis)

/-- The start of a window that ends at `t` and is so many days long. -/
def Instant.minusDays (t : Instant) (days : Float) : Instant :=
  t.beforeMillis (daysMillis days)

def ln2 : Float := Float.ofBits 0x3FE62E42FEFA39EF

/-- A number kept between nought and one. What is not a number stays as it is. -/
def unitInterval (x : Float) : Float :=
  if x < 0.0 then 0.0 else if 1.0 < x then 1.0 else x

/-- The weight left after `nanos` nanoseconds when half of it goes every `halfLife` days. Whole
milliseconds count. Nothing weighs anything before its time. -/
def decay (nanos : Int) (halfLife : Float) : Float :=
  if nanos < 0 || halfLife ≤ 0.0 then 0.0
  else
    let days := (nanos.toNat / 1000000).toUInt64.toFloat / dayMillis
    Float.exp (-ln2 * days / halfLife)

def withoutTrailingZeros (cs : List Char) : List Char :=
  (cs.reverse.dropWhile (· == '0')).reverse

/-- A number of milliseconds as a message shows it: in seconds from one second on. -/
def millisText (millis : Nat) : String :=
  if millis = 0 then "0ns"
  else if millis < 1000 then millis.repr ++ "ms"
  else
    let part := (1000 + millis % 1000).repr.toList.drop 1
    let part := withoutTrailingZeros part
    (millis / 1000).repr ++ (if part.isEmpty then "" else "." ++ String.ofList part) ++ "s"

end Recommendation.Time
