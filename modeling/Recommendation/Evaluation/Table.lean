import Recommendation.Decimal.Layout
import Recommendation.Evaluation

/-!
Marks as a table with one line for each candidate.
-/

namespace Recommendation.Evaluation

open Decimal

def line (name : String) (cells : List (Nat × String)) : String :=
  " ".intercalate (padRight 20 name :: cells.map fun c => padLeft c.1 c.2) ++ "\n"

def heading : String :=
  line "name" [(7, "total"), (7, "hits"), (8, "hit_rate"), (8, "mrr"), (8, "avg_rank"),
    (9, "coverage"), (8, "avg_len"), (8, "failures")]

def row (e : Evaluation) : String :=
  line e.name [(7, e.total.repr), (7, e.hits.repr), (8, fixed 4 e.hitRate),
    (8, fixed 4 e.meanReciprocalRank), (8, fixed 2 e.averageRank), (9, fixed 4 e.coverage),
    (8, fixed 2 e.averageLength), (8, e.failures.repr)]

def table (es : List Evaluation) : String := heading ++ String.join (es.map row)

end Recommendation.Evaluation
