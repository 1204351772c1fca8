import Recommendation.Blend
import Recommendation.Diversity
import Recommendation.Engine.Proposals
import Recommendation.Policy

/-!
From proposals to the list. The rules and the records of all items in question are read, the
proposals are blended, items that rules name are added, the policy is applied and the list is put
together. At the end the engine checks its own work.
-/

namespace Recommendation

structure RankInput (α : Type) where
  scope : Scope
  surface : String
  blend : Blend α
  weights : Weights α
  /-- Items that the request is about; rules do not add them. -/
  seeds : List String
  user : Option String
  constraints : Option Constraints
  types : EventTypes
  k : Nat

structure Ranked (α : Type) where
  list : List (Candidate α)
  summary : PolicySummary
  /-- What the engine has found wrong with its own work. -/
  fault : Option (Invariant × String) := none
  /-- The pins have overrun the slots, so the request has broken down before the list was there. -/
  overrun : Bool := false

namespace Ranked

variable {σ α : Type} [Score α]

def quotedList (xs : List String) : String :=
  "[" ++ ", ".intercalate (xs.map Text.quoted) ++ "]"

def isStray (ctx : Context) (input : RankInput α) (rule : Rule) : Bool :=
  rule.space != input.scope.space || !rule.holdsAt ctx.now || !rule.holdsOn input.surface

def namedByPin (rule : Rule) : List String :=
  match rule.action, rule.target with
  | .pin _, .items ids => ids.map Text.trim
  | _, _ => []

/-- The items that rules name for a place, without those the request is about. -/
def pinnedIds (rules : List Rule) (seeds : List String) : List String :=
  sortedTexts ((rules.flatMap namedByPin).filter fun id => id != "" && !seeds.contains id)

/-- The candidates of a request: what the blend makes of the proposals, then the items that only
rules name. -/
def candidates (input : RankInput α) (items : Dictionary Item) (pinned : List String)
    (sets : List (CandidateSet α)) : List (Candidate α) :=
  let blended := input.blend.candidates input.weights (CandidateSet.widen sets items)
  blended ++ (pinned.filter fun id => !blended.any fun c => c.id == id).map Candidate.pinned

/-- Reads the items that a user has met recently, by the kinds of events that count. Conversions
count for longer or shorter than other events. -/
def recentlyMet (settings : Settings) (store : Store σ) (ctx : Context) (scope : Scope)
    (user : String) (types : EventTypes) : Read σ (List String) := do
  let read (kinds : List Int) (days : Float) : Read σ (List String) :=
    if kinds.isEmpty then return []
    else store.recentEventItems ctx scope user kinds (ctx.now.minusDays days)
  let (conversions, others) := settings.excludedKinds.partition types.isConversion
  let bought ← read conversions settings.purchasedWindow
  let met ← read others settings.popularityWindow
  return bought ++ met

def conclude (diversity : Diversity α) (items : Dictionary Item) (k : Nat)
    (outcome : PolicyOutcome α) : Ranked α :=
  if 0 < outcome.summary.constraintLeakCount then
    { list := [], summary := outcome.summary
      fault := some (.leak, "policy survivors contain removed items: " ++
        quotedList outcome.summary.constraintLeakIds) }
  else
    let list := diversity.list items k outcome.survivors
    let overrun := Diversity.overruns k outcome.survivors
    let leaked := outcome.leaks (list.map (·.id))
    if !leaked.isEmpty then
      { list, overrun, summary := (outcome.withLeaks leaked).summary
        fault := some (.leak, "final list contains removed items: " ++ quotedList leaked) }
    else if k < list.length || (list.map (·.id)).eraseDups.length != list.length then
      { list, overrun, summary := outcome.summary
        fault := some (.listBound, list.length.repr ++ " items for k=" ++ k.repr) }
    else { list, overrun, summary := (outcome.withExposure list).summary }

def diversity (settings : Settings) : Diversity α :=
  { balance := Score.ofFloat settings.balance
    brandCap := settings.brandCap
    categoryCap := settings.categoryCap
    starts := settings.starts }

structure Reads where
  rules : List Rule
  /-- The records of the items in question. -/
  items : Dictionary Item
  /-- The items that the user has met recently, if those are left out. -/
  recent : List String

/-- Reads the rules of the request. A rule that does not belong to the request ends it. -/
def readRules (store : Store σ) (ctx : Context) (input : RankInput α) : Step σ (List Rule) := do
  let rules ← (store.rulesFor ctx input.scope input.surface).step
  match rules.find? (isStray ctx input) with
  | some rule =>
    throw (.broken .strayRule ("rule " ++ rule.id.toText ++ " is outside the request scope"))
  | none => return rules

def idsInQuestion (input : RankInput α) (rules : List Rule) (sets : List (CandidateSet α)) :
    List String :=
  sortedTexts (CandidateSet.union sets ++ pinnedIds rules input.seeds)

def readItems (store : Store σ) (ctx : Context) (scope : Scope) (ids : List String) :
    Read σ (Dictionary Item) :=
  if ids.isEmpty then return .empty else store.itemsByIds ctx scope ids

def readRecent (settings : Settings) (store : Store σ) (ctx : Context) (input : RankInput α) :
    Read σ (List String) :=
  match input.user with
  | none => return []
  | some user =>
    if settings.excludesRecent then
      recentlyMet settings store ctx input.scope user input.types
    else return []

def read (settings : Settings) (store : Store σ) (ctx : Context) (input : RankInput α)
    (sets : List (CandidateSet α)) : Step σ Reads := do
  let rules ← readRules store ctx input
  let items ← (readItems store ctx input.scope (idsInQuestion input rules sets)).step
  let recent ← (readRecent settings store ctx input).step
  return { rules, items, recent }

def outcome (settings : Settings) (input : RankInput α) (sets : List (CandidateSet α))
    (reads : Reads) : PolicyOutcome α :=
  let policy : Policy := ⟨settings.starts, some settings.maxPinSlots⟩
  policy.outcome ⟨input.constraints, reads.recent, reads.rules, reads.items⟩
    (candidates input reads.items (pinnedIds reads.rules input.seeds) sets)

def ofReads (settings : Settings) (input : RankInput α) (sets : List (CandidateSet α))
    (reads : Reads) : Ranked α :=
  conclude (diversity settings) reads.items input.k (outcome settings input sets reads)

def ofProposals (settings : Settings) (store : Store σ) (ctx : Context) (input : RankInput α)
    (sets : List (CandidateSet α)) : Step σ (Ranked α) := do
  let reads ← read settings store ctx input sets
  return ofReads settings input sets reads

end Ranked

end Recommendation
