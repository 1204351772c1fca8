/-!
What the bits of a double say: a finite double is a sign, a whole number and a power of two. All
exact arithmetic on doubles, in printing and in rounding, starts from this reading.
-/

namespace Recommendation.Decimal

/-- A finite double: `mantissa * 2 ^ exponent`, with a sign of its own so that zero has one. -/
structure Binary where
  negative : Bool
  mantissa : Nat
  exponent : Int
deriving DecidableEq, Repr

inductive Reading
  | finite (value : Binary)
  | infinite (negative : Bool)
  | nan
deriving DecidableEq, Repr

def read (x : Float) : Reading :=
  let bits := x.toBits.toNat
  let negative := 0x8000000000000000 ≤ bits
  let field : Nat := bits / 0x10000000000000 % 0x800
  let fraction : Nat := bits % 0x10000000000000
  if field = 2047 then
    if fraction = 0 then .infinite negative else .nan
  else if field = 0 then .finite ⟨negative, fraction, -1074⟩
  else .finite ⟨negative, fraction + 0x10000000000000, (field : Int) - 1075⟩

/-- The exact value without its sign as a fraction, numerator before denominator. -/
def Binary.ratio (b : Binary) : Nat × Nat :=
  if 0 ≤ b.exponent then (b.mantissa * Nat.pow 2 b.exponent.toNat, 1)
  else (b.mantissa, Nat.pow 2 (-b.exponent).toNat)

/-- The nearest whole number of a nonnegative fraction, a half going up. -/
def roundHalfUp (num den : Nat) : Nat :=
  (2 * num + den) / (2 * den)

/-- The nearest whole number of a nonnegative fraction, a half going to the even neighbour. -/
def roundHalfEven (num den : Nat) : Nat :=
  let floor := num / den
  let rest := 2 * (num % den)
  if rest < den then floor
  else if den < rest then floor + 1
  else if floor % 2 = 0 then floor else floor + 1

def clamp (low high n : Int) : Int :=
  if n < low then low else if high < n then high else n

/-- The nearest whole number of a double, a half going away from zero and everything outside 64 bits
to the nearer end of that range. What is not a number counts as zero. -/
def nearestInt64 (x : Float) : Int :=
  match read x with
  | .nan => 0
  | .infinite negative => if negative then -0x8000000000000000 else 0x7fffffffffffffff
  | .finite b =>
    let n := roundHalfUp b.ratio.1 b.ratio.2
    clamp (-0x8000000000000000) 0x7fffffffffffffff (if b.negative then -(n : Int) else n)

end Recommendation.Decimal
