import Recommendation.Decimal.Shortest

/-!
How numbers are written. Data texts switch to powers of ten outside a range of exponents and always
show that a number is not whole by its form; messages never use powers of ten; tables have a fixed
number of places. A record of decisions fixes each of the first two.
-/

namespace Recommendation.Decimal

structure Format where
  /-- The exponents of the first digit that are written without a power of ten; `none` for all. -/
  positional : Option (Int × Int)
  wholeEnd : String
  nan : String
  /-- The text of an infinite number, its sign included or not. -/
  infinite : Bool → String

def minus (negative : Bool) : String := if negative then "-" else ""

def zeros (n : Nat) : String := String.ofList (List.replicate n '0')

/-- Numbers in data: from a hundred-thousandth up to below ten quadrillion they are written out, and
what is not finite has no form of its own there. -/
def dataFormat : Format := ⟨some (-5, 15), ".0", "null", fun _ => "null"⟩

/-- Numbers in messages: never a power of ten, and whole numbers without a point. -/
def messageFormat : Format := ⟨none, "", "NaN", (minus · ++ "inf")⟩

def Shortest.written (d : Shortest) (wholeEnd : String) : String :=
  let digits := d.coefficient.repr
  let point : Int := digits.length + d.exponent
  if 0 ≤ d.exponent then digits ++ zeros d.exponent.toNat ++ wholeEnd
  else if 0 < point then
    String.ofList (digits.toList.take point.toNat) ++ "." ++
      String.ofList (digits.toList.drop point.toNat)
  else "0." ++ zeros (-point).toNat ++ digits

/-- Digits with a power of ten whose sign is always shown. -/
def Shortest.scientific (d : Shortest) : String :=
  let digits := d.coefficient.repr.toList
  let exponent : Int := digits.length - 1 + d.exponent
  let rest := digits.drop 1
  String.ofList (digits.take 1) ++ (if rest.isEmpty then "" else "." ++ String.ofList rest) ++
    (if exponent < 0 then "e-" else "e+") ++ exponent.natAbs.repr

def Shortest.format (f : Format) (d : Shortest) : String :=
  match f.positional with
  | none => d.written f.wholeEnd
  | some (low, high) =>
    let exponent : Int := d.coefficient.repr.length - 1 + d.exponent
    if low ≤ exponent ∧ exponent ≤ high then d.written f.wholeEnd else d.scientific

def format (f : Format) (x : Float) : String :=
  match read x with
  | .nan => f.nan
  | .infinite negative => f.infinite negative
  | .finite b => minus b.negative ++ b.shortest.format f

def data (x : Float) : String := format dataFormat x

def message (x : Float) : String := format messageFormat x

/-- A double with a fixed number of places; a half goes to the even neighbour of the exact value. -/
def fixed (places : Nat) (x : Float) : String :=
  match read x with
  | .nan => "NaN"
  | .infinite negative => minus negative ++ "inf"
  | .finite b =>
    let n := roundHalfEven (b.ratio.1 * Nat.pow 10 places) b.ratio.2
    let whole := (n / Nat.pow 10 places).repr
    let part := (n % Nat.pow 10 places).repr
    minus b.negative ++ whole ++
      (if places = 0 then "" else "." ++ zeros (places - part.length) ++ part)

def padRight (width : Nat) (s : String) : String :=
  s ++ String.ofList (List.replicate (width - s.length) ' ')

def padLeft (width : Nat) (s : String) : String :=
  String.ofList (List.replicate (width - s.length) ' ') ++ s

end Recommendation.Decimal
