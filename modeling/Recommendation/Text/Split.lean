/-!
Texts split at separators. What is split can be put together again: the parts with a separator
between each two of them are the text.
-/

namespace Recommendation.Text

def splitOn (separator : Char) : List Char → List (List Char)
  | [] => [[]]
  | c :: rest =>
    match splitOn separator rest with
    | [] => [[c]]
    | part :: parts => if c == separator then [] :: part :: parts else (c :: part) :: parts

/-- A text up to the first separator, and what stands behind it if there is one. -/
def splitFirst (separator : Char) : List Char → List Char × Option (List Char)
  | [] => ([], none)
  | c :: rest =>
    if c == separator then ([], some rest)
    else
      let (front, behind) := splitFirst separator rest
      (c :: front, behind)

end Recommendation.Text
