import Recommendation.Metrics.Exposition
import Recommendation.Sorting

/-!
A registry that keeps the counters of a family under a hash of the values of their labels, written
one after another. Values with one hash share a counter, which shows the values that it was first
asked for by.
-/

namespace Recommendation

/-- The names that are taken, and the counters that have been asked for. -/
structure Registry where
  names : List String := []
  counters : List (Series × UInt64) := []
  /-- Some family has no name, so what is gathered cannot be written. -/
  nameless : Bool := false

namespace Registry

variable (hash : String → UInt64)

def key (s : Series) : Family × UInt64 := (s.family, hash (String.join s.values))

def add (series : Series) (n : UInt64) : List (Series × UInt64) → List (Series × UInt64)
  | [] => [(series, n)]
  | (s, v) :: rest =>
    if key hash s = key hash series then (s, v + n) :: rest else (s, v) :: add series n rest

/-- By name, then by the values of the labels. -/
def seriesOrder (a b : Series) : Ordering :=
  (compare a.family.name b.family.name).then
    (compare (a.labels.map (·.2)) (b.labels.map (·.2)))

def gather (r : Registry) : List (Series × UInt64) :=
  sortWith (fun a b => seriesOrder a.1 b.1) r.counters

def register (r : Registry) (name : String) : Except String Registry :=
  if r.names.contains name then throw "Duplicate metrics collector registration attempted"
  else pure { r with names := name :: r.names }

def library : CounterLibrary Registry where
  register r name _ _ := r.register name
  increase r series n := { r with counters := add hash series n r.counters }
  gather := gather
  text? r :=
    if r.nameless then none else some (Metrics.expositionType, Metrics.exposition r.gather)

end Registry

/-- The 64-bit FNV-1a hash of a text. -/
def fnv1a (s : String) : UInt64 :=
  s.toUTF8.toList.foldl (fun h b => (h ^^^ b.toUInt64) * 0x100000001b3) 0xcbf29ce484222325

end Recommendation
