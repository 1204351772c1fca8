import Recommendation.Decimal.Binary

/-!
The numbers that scores are made of. The ranking is written for any numbers with the four
operations, a comparison that not-a-number fails, and a total order for sorting. Doubles are what
the program runs on. Exact fractions obey the laws of arithmetic, so they show what a formula says
apart from rounding.
-/

namespace Recommendation

class Score (α : Type) extends Add α, Sub α, Mul α, Div α where
  /-- The number that a double stands for. -/
  ofFloat : Float → α
  ofNat : Nat → α
  /-- The first number is below the second. -/
  below : α → α → Bool
  /-- A total order for sorting, in which only equal numbers compare equal. -/
  order : α → α → Ordering
  isFinite : α → Bool

namespace Score

variable {α : Type} [Score α]

def zero : α := ofNat 0

def one : α := ofNat 1

def isPositive (x : α) : Bool := below zero x

/-- The larger of two numbers; the first one if neither is larger. -/
def larger (x y : α) : α := if below x y then y else x

/-- The largest of the numbers that are above zero, zero if there are none. -/
def largest (xs : List α) : α := xs.foldl larger zero

def sum (xs : List α) : α := xs.foldl (· + ·) zero

end Score

/-- The place of a double among all doubles: minus infinity first, minus nought right before nought,
not-a-number after infinity. -/
def floatRank (x : Float) : Int :=
  let bits := x.toBits.toNat
  if bits < 0x8000000000000000 then (bits : Int) else 0x7fffffffffffffff - (bits : Int)

def floatOrder (x y : Float) : Ordering := compare (floatRank x) (floatRank y)

/-- Doubles, with the rounding of each operation. -/
instance : Score Float where
  ofFloat x := x
  ofNat n := n.toUInt64.toFloat
  below x y := x < y
  order := floatOrder
  isFinite := Float.isFinite

/-- The fraction that a finite double is. What is not finite counts as zero. -/
def exactValue (x : Float) : Rat :=
  match Decimal.read x with
  | .finite b =>
    let size : Rat := (b.ratio.1 : Rat) / (b.ratio.2 : Rat)
    if b.negative then -size else size
  | _ => 0

instance : Score Rat where
  ofFloat := exactValue
  ofNat n := (n : Rat)
  below x y := decide (x < y)
  order x y := if x < y then .lt else if y < x then .gt else .eq
  isFinite _ := true

end Recommendation
