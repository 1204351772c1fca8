import Recommendation.Text.Blank
import Recommendation.Text.AsciiFold
import Recommendation.Time.Instant

/-!
The written form of instants. Reading is lenient: fields may be short, blanks may stand between
them, and any offset from universal time is taken. Writing always gives universal time with the
fewest of no, three, six or nine fraction digits that lose nothing. A leap second is second sixty of
its minute in both.
-/

namespace Recommendation.Time

abbrev Front (α : Type) := List Char → Option (α × List Char)

def digitsValue (cs : List Char) : Nat :=
  cs.foldl (fun n c => 10 * n + (c.toNat - 48)) 0

def frontDigits (most : Nat) (cs : List Char) : List Char :=
  (cs.take most).takeWhile Char.isDigit

def readNumber (most : Nat) : Front Nat := fun cs =>
  let digits := frontDigits most cs
  if digits.isEmpty then none else some (digitsValue digits, cs.drop digits.length)

def skipBlanks (cs : List Char) : List Char := cs.dropWhile Text.isBlank

/-- A year of up to four digits, or of any number of digits behind a sign. -/
def readYear : Front Int := fun cs =>
  match skipBlanks cs with
  | '-' :: rest => (readNumber rest.length rest).map fun (n, r) => (-(n : Int), r)
  | '+' :: rest => (readNumber rest.length rest).map fun (n, r) => ((n : Int), r)
  | rest => (readNumber 4 rest).map fun (n, r) => ((n : Int), r)

def readField : Front Nat := fun cs => readNumber 2 (skipBlanks cs)

def readChar (allowed : List Char) : Front Unit
  | c :: rest => if allowed.contains c then some ((), rest) else none
  | [] => none

/-- A fraction of a second in nanoseconds; digits after the ninth are passed over. -/
def readFraction : Front Nat
  | '.' :: cs => do
    let digits := frontDigits 9 cs
    if digits.isEmpty then none
    else
      some (digitsValue digits * Nat.pow 10 (9 - digits.length),
        (cs.drop digits.length).dropWhile Char.isDigit)
  | cs => some (0, cs)

def readTwoDigits : Front Nat
  | a :: b :: rest => if a.isDigit && b.isDigit then some (digitsValue [a, b], rest) else none
  | _ => none

/-- The seconds that local time is ahead of universal time. -/
def readOffset (cs : List Char) : Option (Int × List Char) :=
  match cs with
  | 'Z' :: rest => some (0, rest)
  | 'z' :: rest => some (0, rest)
  | c :: rest =>
    if (String.ofList (cs.take 3 |>.map Text.foldChar)) == "utc" then some (0, cs.drop 3)
    else if c == '+' || c == '-' || c == '\u2212' then do
      let (hours, rest) ← readTwoDigits rest
      let rest := rest.dropWhile fun c => c == ':' || Text.isBlank c
      let (minutes, rest) ← readTwoDigits rest
      let seconds : Int := hours * 3600 + minutes * 60
      if minutes < 60 && seconds < 86400 then
        some (if c == '+' then seconds else -seconds, rest)
      else none
    else none
  | [] => none

/-- The instant that a text names. Second sixty of a minute is the leap second behind the last. -/
def Instant.ofText? (s : String) : Option Instant := do
  let (year, cs) ← readYear s.toList
  let (_, cs) ← readChar ['-'] (skipBlanks cs)
  let (month, cs) ← readField cs
  let (_, cs) ← readChar ['-'] (skipBlanks cs)
  let (day, cs) ← readField cs
  let (_, cs) ← readChar ['t', 'T', ' '] cs
  let (hour, cs) ← readField cs
  let (_, cs) ← readChar [':'] (skipBlanks cs)
  let (minute, cs) ← readField cs
  let (_, cs) ← readChar [':'] (skipBlanks cs)
  let (second, cs) ← readField cs
  let (fraction, cs) ← readFraction cs
  let (offset, cs) ← readOffset (skipBlanks cs)
  let date : Date := ⟨year, month, day⟩
  if (skipBlanks cs).isEmpty && date.isValid && hour < 24 && minute < 60 && second ≤ 60 then
    let start := date.toDays * daySeconds + hour * 3600 + minute * 60 - offset
    let t : Instant :=
      if second = 60 then ⟨start + 59, secondNanos + fraction⟩ else ⟨start + second, fraction⟩
    if t.isRepresentable then some t else none
  else none

def paddedDigits (width n : Nat) : String :=
  let digits := n.repr
  String.ofList (List.replicate (width - digits.length) '0') ++ digits

/-- A year of four digits; a year outside those has a sign. -/
def yearText (year : Int) : String :=
  if 0 ≤ year ∧ year ≤ 9999 then paddedDigits 4 year.toNat
  else (if year < 0 then "-" else "+") ++ paddedDigits 4 year.natAbs

/-- The fraction of a second, with none, three, six or nine digits. -/
def fractionText (nanos : Nat) : String :=
  if nanos = 0 then ""
  else if nanos % 1000000 = 0 then "." ++ paddedDigits 3 (nanos / 1000000)
  else if nanos % 1000 = 0 then "." ++ paddedDigits 6 (nanos / 1000)
  else "." ++ paddedDigits 9 nanos

def Instant.toText (t : Instant) : String :=
  let date := Date.ofDays (t.seconds.fdiv daySeconds)
  let minutes := t.secondOfDay.toNat / 60
  let second := t.secondOfDay.toNat % 60 + (if t.isLeap then 1 else 0)
  yearText date.year ++ "-" ++ paddedDigits 2 date.month.toNat ++ "-" ++
    paddedDigits 2 date.day.toNat ++ "T" ++ paddedDigits 2 (minutes / 60) ++ ":" ++
    paddedDigits 2 (minutes % 60) ++ ":" ++ paddedDigits 2 second ++
    fractionText (t.nanos % secondNanos) ++ "Z"

end Recommendation.Time
