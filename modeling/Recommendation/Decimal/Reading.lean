import Recommendation.Text.AsciiFold
import Recommendation.Time.Rfc3339

/-!
Numbers read from texts that hold nothing else. A whole number is read digit by digit, and the first
thing that goes wrong tells why it is none. A double is rounded once, from the exact value of its
digits.
-/

namespace Recommendation.Decimal

inductive NumberFault
  | emptyWhole
  | badDigit
  | tooLarge
  | tooSmall
  | emptyDouble
  | badDouble
deriving DecidableEq, Repr

def NumberFault.message : NumberFault → String
  | .emptyWhole => "cannot parse integer from empty string"
  | .badDigit => "invalid digit found in string"
  | .tooLarge => "number too large to fit in target type"
  | .tooSmall => "number too small to fit in target type"
  | .emptyDouble => "cannot parse float from empty string"
  | .badDouble => "invalid float literal"

structure Bounds where
  low : Int
  high : Int

namespace Bounds

def signed (bits : Nat) : Bounds := ⟨-Nat.pow 2 (bits - 1), Nat.pow 2 (bits - 1) - 1⟩

def unsigned (bits : Nat) : Bounds := ⟨0, Nat.pow 2 bits - 1⟩

def addDigit (b : Bounds) (negative : Bool) (n : Int) (c : Char) : Except NumberFault Int :=
  if !c.isDigit then throw .badDigit
  else
    let digit : Int := (c.toNat : Int) - 48
    let n := if negative then 10 * n - digit else 10 * n + digit
    if b.high < n then throw .tooLarge else if n < b.low then throw .tooSmall else pure n

/-- The whole number that a text is. A sign may stand before the digits, a minus sign only if there
are numbers below nought. -/
def read (b : Bounds) (s : String) : Except NumberFault Int :=
  match s.toList with
  | [] => throw .emptyWhole
  | c :: cs =>
    let signed := c == '+' || (c == '-' && b.low < 0)
    if signed && cs.isEmpty then throw .badDigit
    else (if signed then cs else c :: cs).foldlM (b.addDigit (signed && c == '-')) 0

end Bounds

/-- The double nearest to a row of digits times a power of ten. Beyond four hundred places on either
side of the point no double is left. -/
def scaled (digits : List Char) (exponent : Int) : Float :=
  let n := Time.digitsValue digits
  let places : Int := n.repr.length + exponent
  if n = 0 || places < -400 then 0.0
  else if 400 < places then 1.0 / 0.0
  else Float.ofScientific n (exponent < 0) exponent.natAbs

def exponent? (cs : List Char) : Option Int :=
  let (negative, digits) :=
    match cs with
    | '-' :: rest => (true, rest)
    | '+' :: rest => (false, rest)
    | _ => (false, cs)
  if digits.isEmpty || !digits.all Char.isDigit then none
  else
    let n : Int := Time.digitsValue digits
    some (if negative then -n else n)

def digitsDouble? (cs : List Char) : Option Float := do
  let whole := cs.takeWhile Char.isDigit
  let rest := cs.drop whole.length
  let (fraction, rest) :=
    match rest with
    | '.' :: more => (more.takeWhile Char.isDigit, more.dropWhile Char.isDigit)
    | _ => ([], rest)
  if whole.isEmpty && fraction.isEmpty then none
  else
    let exponent ←
      match rest with
      | [] => some 0
      | c :: more => if c == 'e' || c == 'E' then exponent? more else none
    some (scaled (whole ++ fraction) (exponent - fraction.length))

def unsignedDouble? (cs : List Char) : Option Float :=
  let word := String.ofList (cs.map Text.foldChar)
  if word == "inf" || word == "infinity" then some (1.0 / 0.0)
  else if word == "nan" then some (0.0 / 0.0)
  else digitsDouble? cs

def readDouble (s : String) : Except NumberFault Float :=
  let found :=
    match s.toList with
    | '-' :: cs => (unsignedDouble? cs).map fun x => -x
    | '+' :: cs => unsignedDouble? cs
    | cs => unsignedDouble? cs
  match found with
  | some x => pure x
  | none => throw (if s == "" then .emptyDouble else .badDouble)

end Recommendation.Decimal
