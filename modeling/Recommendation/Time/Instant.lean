import Recommendation.Time.Calendar

/-!
Points in time, as whole seconds from the start of 1970 in universal time and nanoseconds into the
second, and the spans between them. Seconds are those of a calendar in which every minute has sixty.
A leap second has no place of its own there: it prolongs the second before it, whose nanoseconds go
on beyond a thousand million. So the order of instants is that of seconds, then nanoseconds, while
spans and sums have to tell the two halves of a prolonged second apart.
-/

namespace Recommendation.Time

def secondNanos : Nat := 1000000000

def daySeconds : Nat := 86400

structure Instant where
  seconds : Int
  /-- Nanoseconds into the second, from a thousand million on within a leap second. -/
  nanos : Nat
deriving DecidableEq, Repr, Inhabited

namespace Instant

def before (a b : Instant) : Prop :=
  a.seconds < b.seconds ∨ a.seconds = b.seconds ∧ a.nanos < b.nanos

instance : LT Instant := ⟨before⟩
instance : LE Instant := ⟨fun a b => ¬before b a⟩
instance (a b : Instant) : Decidable (a < b) :=
  inferInstanceAs (Decidable (_ ∨ _))
instance (a b : Instant) : Decidable (a ≤ b) :=
  inferInstanceAs (Decidable ¬(b < a))

instance : Ord Instant :=
  ⟨fun a b => (compare a.seconds b.seconds).then (compare a.nanos b.nanos)⟩

theorem lt_iff {a b : Instant} :
    a < b ↔ a.seconds < b.seconds ∨ a.seconds = b.seconds ∧ a.nanos < b.nanos := Iff.rfl

theorem le_iff {a b : Instant} :
    a ≤ b ↔ a.seconds < b.seconds ∨ a.seconds = b.seconds ∧ a.nanos ≤ b.nanos := by
  change ¬before b a ↔ _
  simp only [before]
  omega

def epoch : Instant := ⟨0, 0⟩

def isLeap (t : Instant) : Bool := secondNanos ≤ t.nanos

/-- The nanoseconds from the start of 1970, with a leap second told as the second behind it. -/
def total (t : Instant) : Int := t.seconds * secondNanos + t.nanos

def ofTotal (nanos : Int) : Instant :=
  ⟨nanos.fdiv secondNanos, (nanos.fmod secondNanos).toNat⟩

def secondOfDay (t : Instant) : Int := t.seconds.fmod daySeconds

/-- The nanoseconds from `earlier` to `t`. A leap second within the earlier second of the day counts
as one more second. -/
def since (t earlier : Instant) : Int :=
  t.total - earlier.total +
    (if earlier.secondOfDay < t.secondOfDay && earlier.isLeap then (secondNanos : Int)
    else if t.secondOfDay < earlier.secondOfDay && t.isLeap then -(secondNanos : Int)
    else 0)

/-- The instant so many nanoseconds later. A step within a leap second stays in the prolonged
second; every other step leaves a leap second at its start or its end, whichever way it goes. -/
def after (t : Instant) (nanos : Int) : Instant :=
  if t.isLeap then
    let wholeSeconds := nanos.tdiv secondNanos
    let rest := nanos.tmod secondNanos
    if 0 < wholeSeconds ∨ 0 < rest ∧ 2 * (secondNanos : Int) ≤ t.nanos + rest then
      ofTotal (t.total - secondNanos + nanos)
    else if wholeSeconds < 0 then ofTotal (t.total + nanos)
    else ⟨t.seconds, (t.nanos + rest).toNat⟩
  else ofTotal (t.total + nanos)

def beforeMillis (t : Instant) (millis : Int) : Instant := t.after (-millis * 1000000)

def later (a b : Instant) : Instant := if a < b then b else a

def isRepresentable (t : Instant) : Bool :=
  (⟨firstYear, 1, 1⟩ : Date).toDays * daySeconds ≤ t.seconds &&
    t.seconds < (⟨lastYear + 1, 1, 1⟩ : Date).toDays * daySeconds

end Instant

/-- The later of two optional instants; any instant is later than none. -/
def laterOf : Option Instant → Option Instant → Option Instant
  | none, b => b
  | a, none => a
  | some a, some b => some (a.later b)

end Recommendation.Time
