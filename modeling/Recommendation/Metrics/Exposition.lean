import Recommendation.Decimal.Layout
import Recommendation.Metrics

/-!
Counters as a text for scrapers: each family with its help and its type, then a line for each series.
-/

namespace Recommendation.Metrics

def expositionType : String := "text/plain; version=0.0.4"

def escapedLabelChar (c : Char) : List Char :=
  if c == '\\' then ['\\', '\\']
  else if c == '\n' then ['\\', 'n']
  else if c == '"' then ['\\', '"']
  else [c]

def labelText (label : String × String) : String :=
  label.1 ++ "=\"" ++ String.ofList (label.2.toList.flatMap escapedLabelChar) ++ "\""

def seriesLine (entry : Series × UInt64) : String :=
  entry.1.family.name ++ "\x7b" ++ ",".intercalate (entry.1.labels.map labelText) ++ "\x7d " ++
    Decimal.message entry.2.toFloat ++ "\n"

def familyLines (f : Family) : String :=
  "# HELP " ++ f.name ++ " " ++ f.help ++ "\n# TYPE " ++ f.name ++ " counter\n"

/-- The lines of counters in order, of which those before belong to the family given. -/
def linesFrom (last : Option Family) : List (Series × UInt64) → List String
  | [] => []
  | e :: rest =>
    let line := seriesLine e
    (if last = some e.1.family then line else familyLines e.1.family ++ line) ::
      linesFrom (some e.1.family) rest

def exposition (entries : List (Series × UInt64)) : String := String.join (linesFrom none entries)

end Recommendation.Metrics
