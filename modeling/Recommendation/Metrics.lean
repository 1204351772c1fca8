import Recommendation.Engine

/-!
Counters of what the policy does, one series for each namespace and surface and, where it matters,
each action. They are kept by a library, which is asked to add to a series, be it nought, and to tell
which series there are.
-/

namespace Recommendation

/-- A label as counters carry it: in lower case, without blanks at the ends, never empty. -/
def normalLabel (label : String) : String :=
  let label := normalTag label
  if label == "" then "default" else label

inductive Family
  | includeFilterRequests
  | includeFilterDropped
  | includeFilterLeak
  | explicitExcludeHits
  | recentEventExcludeHits
  | ruleActions
  | ruleExposure
  | ruleZeroEffect
  | responseItems
deriving DecidableEq, Repr

namespace Family

def all : List Family :=
  [.includeFilterRequests, .includeFilterDropped, .includeFilterLeak, .explicitExcludeHits,
    .recentEventExcludeHits, .ruleActions, .ruleExposure, .ruleZeroEffect, .responseItems]

def name : Family → String
  | .includeFilterRequests => "policy_include_filter_requests_total"
  | .includeFilterDropped => "policy_include_filter_dropped_total"
  | .includeFilterLeak => "policy_include_filter_leak_total"
  | .explicitExcludeHits => "policy_explicit_exclude_hits_total"
  | .recentEventExcludeHits => "policy_recent_event_exclude_hits_total"
  | .ruleActions => "policy_rule_actions_total"
  | .ruleExposure => "policy_rule_exposure_total"
  | .ruleZeroEffect => "policy_rule_zero_effect_total"
  | .responseItems => "policy_response_items_total"

def labels : Family → List String
  | .ruleActions | .ruleExposure | .ruleZeroEffect => ["namespace", "surface", "action"]
  | _ => ["namespace", "surface"]

def help : Family → String
  | .includeFilterRequests => "Requests carrying an include-tags constraint"
  | .includeFilterDropped => "Candidates dropped by request constraints"
  | .includeFilterLeak => "Filtered candidates found in a response"
  | .explicitExcludeHits => "Candidates removed by caller exclude lists"
  | .recentEventExcludeHits => "Candidates removed because the user recently interacted with them"
  | .ruleActions => "Items matched by rule actions"
  | .ruleExposure => "Rule-matched items present in responses"
  | .ruleZeroEffect => "Requests where a rule action matched but left no trace"
  | .responseItems => "Items returned after policy and diversification"

end Family

structure Series where
  family : Family
  space : String
  surface : String
  /-- The action, in the families that tell actions apart. -/
  action : Option ActionKind := none
deriving DecidableEq

namespace Series

def values (s : Series) : List String := [s.space, s.surface] ++ s.action.toList.map (·.name)

/-- The labels, in ascending order of their names. -/
def labels (s : Series) : List (String × String) :=
  s.action.toList.map (fun a => ("action", a.name)) ++
    [("namespace", s.space), ("surface", s.surface)]

end Series

namespace Observation

def increments (o : Observation) : List (Series × Nat) :=
  let s := o.summary
  let space := normalLabel o.space
  let surface := normalLabel o.surface
  let plain (family : Family) (n : Nat) : Series × Nat := (⟨family, space, surface, none⟩, n)
  let byAction (family : Family) (a : ActionKind) (n : Nat) : Series × Nat :=
    (⟨family, space, surface, some a⟩, n)
  (if s.constraintIncludeTags.isEmpty then [] else [plain .includeFilterRequests 1]) ++
    [plain .includeFilterDropped s.constraintFilteredCount,
      plain .includeFilterLeak s.constraintLeakCount,
      plain .explicitExcludeHits s.explicitExcludeHits,
      plain .recentEventExcludeHits s.recentEventExcludeHits] ++
    (ActionKind.all.flatMap fun a =>
      [byAction .ruleActions a (s.ruleCount a), byAction .ruleExposure a (s.ruleExposure a)]) ++
    s.zeroEffectActions.map (fun a => byAction .ruleZeroEffect a 1) ++
    [plain .responseItems s.finalCount]

end Observation

/-- A library of counters by the calls that are made to it. Each call that changes the registry gives
the registry that there is from then on. -/
structure CounterLibrary (ρ : Type) where
  /-- Registers the counters with a name, a help text and labels of the names given. -/
  register : ρ → (name help : String) → (labels : List String) → Except String ρ
  /-- Adds to the counter of a series, which is asked for by the values of its labels. -/
  increase : ρ → Series → UInt64 → ρ
  /-- The series that there are, with their counts. -/
  gather : ρ → List (Series × UInt64)
  /-- What is gathered as a text for scrapers, with the type of the text, unless it cannot be written. -/
  text? : ρ → Option (String × String)

namespace CounterLibrary

variable {ρ : Type} (lib : CounterLibrary ρ)

def registerAll (r : ρ) : Except String ρ :=
  Family.all.foldlM (fun r f => lib.register r f.name f.help f.labels) r

/-- Adds what an observation tells. Counts have 64 bits. -/
def observe (r : ρ) (o : Observation) : ρ :=
  o.increments.foldl (fun r i => lib.increase r i.1 i.2.toUInt64) r

end CounterLibrary

end Recommendation
