/-!
Lists in order. Sorting goes by insertion, from the last element of a list to the first: an element
goes right in front of the first one that it may stand before, so that elements that compare equal
keep their order.
-/

namespace Recommendation

/-- Puts an element in front of the first one that it may stand before. -/
def insertWith {α : Type} (order : α → α → Ordering) (x : α) : List α → List α
  | [] => [x]
  | y :: rest => if (order x y).isLE then x :: y :: rest else y :: insertWith order x rest

/-- Puts elements in the order of a comparison; those that compare equal keep their order. -/
def sortWith {α : Type} (order : α → α → Ordering) (xs : List α) : List α :=
  xs.foldr (insertWith order) []

/-- Puts a text in its place among texts in ascending order, unless it is there already. -/
def insertText (x : String) : List String → List String
  | [] => [x]
  | y :: rest =>
    if x < y then x :: y :: rest
    else if x = y then y :: rest
    else y :: insertText x rest

def sortedTexts (xs : List String) : List String :=
  xs.foldr insertText []

end Recommendation
