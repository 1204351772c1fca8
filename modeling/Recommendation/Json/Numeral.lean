import Recommendation.Time.Rfc3339
import Recommendation.Decimal.Layout

/-!
Numbers as they stand in a data text, and the two readings they have. A numeral without fraction and
exponent is a whole number if it fits into 64 bits. Every numeral is a double: as many of its digits
as fit into 64 bits make a double, which one power of ten then scales. The result is exact while
both are exact, and a numeral beyond the largest double has none.
-/

namespace Recommendation.Json

structure Numeral where
  negative : Bool
  whole : List Char
  fraction : List Char
  /-- The sign of the exponent, true below zero, and its digits. -/
  exponent : Option (Bool × List Char)
deriving Repr

def maxWord : Nat := 0xffffffffffffffff

/-- The value of the digits that fit into 64 bits, and the digits that do not. -/
def fitWord (n : Nat) : List Char → Nat × List Char
  | [] => (n, [])
  | c :: cs =>
    let next := 10 * n + (c.toNat - 48)
    if next ≤ maxWord then fitWord next cs else (n, c :: cs)

/-- The whole number that a numeral is. Minus nought is none: its sign would be lost. -/
def Numeral.int? (n : Numeral) : Option Int :=
  match n.fraction, n.exponent, fitWord 0 n.whole with
  | [], none, (value, []) =>
    if n.negative then
      if 0 < value ∧ value ≤ 0x8000000000000000 then some (-(value : Int)) else none
    else some value
  | _, _, _ => none

def powerOfTen (n : Nat) : Float := Float.ofScientific 1 false n

/-- A double times a power of ten, none beyond the largest double. A long way down goes in steps. -/
def scale? (x : Float) (exponent : Int) : Option Float :=
  if 0 ≤ exponent then
    if 308 < exponent then (if x == 0.0 then some x else none)
    else
      let y := x * powerOfTen exponent.toNat
      if y.isInf then none else some y
  else
    let down := (-exponent).toNat
    if down ≤ 308 then some (x / powerOfTen down)
    else if down ≤ 616 then some (x / powerOfTen 308 / powerOfTen (down - 308))
    else if down ≤ 924 then some (x / powerOfTen 308 / powerOfTen 308 / powerOfTen (down - 616))
    else some 0.0

def exponentValue? : Option (Bool × List Char) → Option Int
  | none => some 0
  | some (negative, digits) =>
    let n := Time.digitsValue digits
    if n ≤ 0x7fffffff then some (if negative then -(n : Int) else n) else none

def Numeral.float? (n : Numeral) : Option Float :=
  let (whole, spilled) := fitWord 0 n.whole
  let (significand, dropped) :=
    if spilled.isEmpty then fitWord whole n.fraction
    else if n.fraction.isEmpty then (whole, [])
    else fitWord whole n.fraction
  let kept : Int := n.fraction.length - dropped.length
  let signed (x : Float) : Float := if n.negative then -x else x
  match exponentValue? n.exponent with
  | some e =>
    (scale? significand.toUInt64.toFloat ((spilled.length : Int) - kept + e)).map signed
  | none =>
    if significand = 0 ∨ (n.exponent.map (·.1)) = some true then some (signed 0.0) else none

end Recommendation.Json
