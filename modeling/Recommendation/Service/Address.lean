import Recommendation.Decimal.Reading
import Recommendation.Identifier
import Recommendation.Text.Split

/-!
The addresses that a service can listen at: four numbers with points between them, or groups of digits
in base sixteen with colons between them in brackets. Names are none.
-/

namespace Recommendation.Service

open Text (splitOn splitFirst)

/-- A number up to 255 without zeros before it. -/
def isByte (cs : List Char) : Bool :=
  (cs.length == 1 || (cs.length ≤ 3 && cs.head? != some '0')) && cs.all Char.isDigit &&
    0 < cs.length && Time.digitsValue cs ≤ 255

def isShortAddress (cs : List Char) : Bool :=
  let parts := splitOn '.' cs
  parts.length == 4 && parts.all isByte

def isGroup (cs : List Char) : Bool :=
  0 < cs.length && cs.length ≤ 4 && cs.all fun c => (Identifier.hexValue? c).isSome

/-- How many groups a row of groups has; a short address at its end makes two. -/
def groupCount? (cs : List Char) : Option Nat :=
  if cs.isEmpty then some 0
  else
    let parts := splitOn ':' cs
    match parts.getLast? with
    | none => none
    | some last =>
      if !(parts.dropLast.all isGroup) then none
      else if isGroup last then some parts.length
      else if isShortAddress last then some (parts.length + 1)
      else none

def splitGap : List Char → Option (List Char × List Char)
  | ':' :: ':' :: rest => some ([], rest)
  | c :: rest => (splitGap rest).map fun (front, behind) => (c :: front, behind)
  | [] => none

/-- Eight groups, or fewer with a pair of colons for those that are nought. -/
def isLongAddress (cs : List Char) : Bool :=
  match splitGap cs with
  | none => groupCount? cs == some 8
  | some (front, behind) =>
    match groupCount? front, groupCount? behind with
    | some m, some n => m + n ≤ 7 && !(front.contains '.')
    | _, _ => false

/-- A long address without its brackets; a number may name the part of the network. -/
def isScopedAddress (cs : List Char) : Bool :=
  let (address, scope) := splitFirst '%' cs
  isLongAddress address &&
    scope.all fun s => ((Decimal.Bounds.unsigned 32).read (String.ofList s)).isOk && s.head? != some '+'

def isHostAddress (host : String) : Bool :=
  match host.toList with
  | '[' :: cs => cs.getLast? == some ']' && isScopedAddress cs.dropLast
  | cs => isShortAddress cs

end Recommendation.Service
