import Recommendation.Text.Quoted

/-!
Identifiers of 128 bits, which name organizations and rules. They are written as thirty-two digits
in five groups, and read from that form, from the digits alone, from braces and from a name of the
`urn:uuid:` scheme. Their order is the order of the bits as a number.
-/

namespace Recommendation

structure Identifier where
  bits : BitVec 128
deriving DecidableEq

namespace Identifier

def none : Identifier := ⟨0#128⟩

instance : Inhabited Identifier := ⟨none⟩

instance : Ord Identifier := ⟨fun a b => compare a.bits.toNat b.bits.toNat⟩

def hexValue? (c : Char) : Option Nat :=
  if '0' ≤ c && c ≤ '9' then some (c.toNat - 48)
  else if 'a' ≤ c && c ≤ 'f' then some (c.toNat - 87)
  else if 'A' ≤ c && c ≤ 'F' then some (c.toNat - 55)
  else Option.none

def hexNumber? (cs : List Char) : Option Nat :=
  cs.foldlM (fun n c => (hexValue? c).map (16 * n + ·)) 0

def ofDigits? (cs : List Char) : Option Identifier :=
  if cs.length = 32 then (hexNumber? cs).map fun n => ⟨BitVec.ofNat 128 n⟩ else Option.none

/-- Groups of eight, four, four, four and twelve digits with hyphens between them. -/
def ofGroups? (cs : List Char) : Option Identifier :=
  if cs.length = 36 && [8, 13, 18, 23].all (fun i => cs[i]? == some '-') then
    ofDigits? (cs.take 8 ++ (cs.drop 9).take 4 ++ (cs.drop 14).take 4 ++ (cs.drop 19).take 4 ++
      cs.drop 24)
  else Option.none

def ofText? (s : String) : Option Identifier :=
  let cs := s.toList
  if cs.length = 32 then ofDigits? cs
  else if cs.length = 36 then ofGroups? cs
  else if cs.length = 38 && cs.head? == some '\x7b' && cs.getLast? == some '\x7d' then
    ofGroups? ((cs.drop 1).take 36)
  else if cs.take 9 == "urn:uuid:".toList then ofGroups? (cs.drop 9)
  else Option.none

def digits (id : Identifier) : List Char :=
  (List.range 32).map fun i => Text.hexDigit (id.bits.toNat / Nat.pow 16 (31 - i) % 16)

def toText (id : Identifier) : String :=
  let cs := id.digits
  String.ofList (cs.take 8 ++ '-' :: (cs.drop 8).take 4 ++ '-' :: (cs.drop 12).take 4 ++
    '-' :: (cs.drop 16).take 4 ++ '-' :: cs.drop 20)

end Identifier

end Recommendation
