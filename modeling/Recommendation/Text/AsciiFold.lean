/-!
Comparison of texts in which only the letters `A` to `Z` and `a` to `z` lose their case.
-/

namespace Recommendation.Text

def foldChar (c : Char) : Char :=
  if 'A' ≤ c && c ≤ 'Z' then Char.ofNat (c.toNat + 32) else c

def fold (s : String) : String :=
  String.ofList (s.toList.map foldChar)

def equalFolded (a b : String) : Bool :=
  a.toList.map foldChar == b.toList.map foldChar

def dropStart? (s start : String) : Option String :=
  if start.toList.isPrefixOf s.toList then
    some (String.ofList (s.toList.drop start.toList.length))
  else none

theorem equalFolded_iff {a b : String} : equalFolded a b = true ↔ fold a = fold b := by
  simp [equalFolded, fold, String.ofList_inj]

end Recommendation.Text
