import Recommendation.Text.CaseTable

/-!
Lower case by the rules of Unicode. Almost every character has a lower case of its own; two rules
look further. A capital I with a dot becomes two characters, and a capital sigma becomes a final
sigma when a cased letter stands before it and none after it.
-/

namespace Recommendation.Text

def inRanges (ranges : List (Nat × Nat)) (n : Nat) : Bool :=
  ranges.any fun r => r.1 ≤ n && n ≤ r.2

def isCased (c : Char) : Bool := inRanges casedRanges c.toNat

def isCaseIgnorable (c : Char) : Bool := inRanges caseIgnorableRanges c.toNat

def CaseRun.contains (run : CaseRun) (n : Nat) : Bool :=
  run.first ≤ n && n ≤ run.last && (n - run.first) % run.step == 0

def lowercaseChar (c : Char) : List Char :=
  if c.toNat < 0x80 then
    [if 'A' ≤ c && c ≤ 'Z' then Char.ofNat (c.toNat + 32) else c]
  else if c == 'İ' then ['i', '\u0307']
  else
    match caseRuns.find? (·.contains c.toNat) with
    | some run => [Char.ofNat (c.toNat + run.shift).toNat]
    | none => [c]

/-- The first character that is not passed over has case. -/
def casedNext (cs : List Char) : Bool :=
  match cs.dropWhile isCaseIgnorable with
  | [] => false
  | c :: _ => isCased c

/-- Lower case of the characters `cs` that follow `before`, which is in reverse. -/
def lowercaseFrom (before : List Char) : List Char → List Char
  | [] => []
  | c :: cs =>
    (if c == 'Σ' then [if casedNext before && !casedNext cs then 'ς' else 'σ']
      else lowercaseChar c) ++ lowercaseFrom (c :: before) cs

def lowercase (s : String) : String :=
  String.ofList (lowercaseFrom [] s.toList)

end Recommendation.Text
