import Recommendation.Decimal.Binary

/-!
The shortest decimal that reads back as a given double. The reals that round to a double form an
interval around it, which holds its ends exactly when the mantissa is even. Decimals with one digit,
two digits and so on are tried in turn; on each grid only the two neighbours of the value can lie in
the interval, and of two that do the nearer one is taken. Seventeen digits always suffice.
-/

namespace Recommendation.Decimal

/-- The decimal `coefficient * 10 ^ exponent`. -/
structure Shortest where
  coefficient : Nat
  exponent : Int
deriving DecidableEq, Repr

/-- The reals that round to a double, in units of a quarter of its last place:
`value`, `low` and `high` are over the common denominator `den`. -/
structure Interval where
  value : Nat
  low : Nat
  high : Nat
  den : Nat
  closed : Bool

/-- The interval of a positive double. Below a power of two doubles lie twice as close. -/
def Binary.interval (b : Binary) : Interval :=
  let scale := Nat.pow 2 (b.exponent - 2).toNat
  let below := if b.mantissa = 0x10000000000000 ∧ -1074 < b.exponent then 1 else 2
  { value := 4 * b.mantissa * scale
    low := (4 * b.mantissa - below) * scale
    high := (4 * b.mantissa + 2) * scale
    den := Nat.pow 2 (2 - b.exponent).toNat
    closed := b.mantissa % 2 = 0 }

/-- The least power of ten above the value. -/
def Interval.place (i : Interval) : Int :=
  ((i.value * Nat.pow 10 400 / i.den).repr.length : Int) - 400

/-- The decimal `c * up / down` lies in the interval. -/
def Interval.contains (i : Interval) (up down c : Nat) : Bool :=
  let x := c * up * i.den
  if i.closed then i.low * down ≤ x && x ≤ i.high * down
  else i.low * down < x && x < i.high * down

/-- The neighbour of the value with `n` digits that reads back as it, the nearer one of two. -/
def Interval.withDigits? (i : Interval) (n : Nat) : Option Shortest :=
  let exponent := i.place - n
  let up := Nat.pow 10 exponent.toNat
  let down := Nat.pow 10 (-exponent).toNat
  let c := i.value * down / (up * i.den)
  match i.contains up down c, i.contains up down (c + 1) with
  | false, false => none
  | true, false => some ⟨c, exponent⟩
  | false, true => some ⟨c + 1, exponent⟩
  | true, true => some ⟨roundHalfEven (i.value * down) (up * i.den), exponent⟩

/-- The first of the digit counts `n`, `n + 1`, … that has a decimal, with `fuel` counts to try. -/
def Interval.shortestFrom (i : Interval) : (fuel : Nat) → (n : Nat) → Shortest
  | 0, _ => ⟨0, 0⟩
  | fuel + 1, n =>
    match i.withDigits? n with
    | some d => d
    | none => i.shortestFrom fuel (n + 1)

def Shortest.stripped (d : Shortest) : Shortest :=
  if h : d.coefficient ≠ 0 ∧ d.coefficient % 10 = 0 then
    Shortest.stripped ⟨d.coefficient / 10, d.exponent + 1⟩
  else d
termination_by d.coefficient
decreasing_by omega

/-- The fewest digits that read back as the double without its sign. -/
def Binary.shortest (b : Binary) : Shortest :=
  if b.mantissa = 0 then ⟨0, 0⟩ else (b.interval.shortestFrom 17 1).stripped

end Recommendation.Decimal
