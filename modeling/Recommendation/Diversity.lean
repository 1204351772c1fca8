import Recommendation.Candidate
import Recommendation.Dictionary

/-!
The final list out of the candidates that may be shown. Pinned candidates stand at their slots. The
other places are filled one after another by the candidate that is best in relevance less likeness
to what the list has already, among those whose brands and categories are not used up. When there is
none left, pins move up.
-/

namespace Recommendation

structure Diversity (α : Type) where
  /-- How much relevance counts against likeness, one for relevance alone. -/
  balance : α
  /-- How many items of a brand, and of a category, the list takes; nought for any number. -/
  brandCap : Nat
  categoryCap : Nat
  starts : FacetStarts

structure Facets where
  tags : List String := []
  brands : List String := []
  categories : List String := []

structure Choice (α : Type) where
  candidate : Candidate α
  facets : Facets

/-- Candidates at slots, in ascending order of slot. -/
abbrev SlotMap (α : Type) := List (Nat × Candidate α)

namespace SlotMap

variable {α : Type}

def isTaken (slots : SlotMap α) (slot : Nat) : Bool := slots.any fun s => s.1 == slot

/-- The first free slot at or after the one asked for, within so many steps. -/
def freeFrom (slots : SlotMap α) : (steps : Nat) → (slot : Nat) → Nat
  | 0, slot => slot
  | steps + 1, slot => if slots.isTaken slot then freeFrom slots steps (slot + 1) else slot

def put (slot : Nat) (c : Candidate α) : SlotMap α → SlotMap α
  | [] => [(slot, c)]
  | s :: rest => if slot < s.1 then (slot, c) :: s :: rest else s :: put slot c rest

def wanted (c : Candidate α) : Nat := (c.pin.map fun p => max p.position 1).getD 1 - 1

/-- Gives a candidate the first free slot at or after the one it asks for. -/
def assign (slots : SlotMap α) (c : Candidate α) : SlotMap α :=
  slots.put (slots.freeFrom slots.length (wanted c)) c

def ofPinned (cs : List (Candidate α)) : SlotMap α := cs.foldl assign []

/-- Slots are counted in 64 bits, and some candidate has come past the last one. -/
def isOverrun (slots : SlotMap α) : Bool := slots.any fun s => 0x10000000000000000 ≤ s.1

end SlotMap

/-- Earlier places first, then higher priorities, then the order in which candidates rank. -/
def pinOrder {α : Type} [Score α] (a b : Candidate α) : Ordering :=
  let position (c : Candidate α) : Nat := (c.pin.map (·.position)).getD 0
  let priority (c : Candidate α) : Int := (c.pin.map (·.priority)).getD 0
  ((compare (position a) (position b)).then (compare (priority b) (priority a))).then
    (Candidate.rankOrder a b)

/-- How alike two sets of tags are: what they share over what either has. -/
def likeness {α : Type} [Score α] (a b : List String) : α :=
  let common := a.countP b.contains
  let total := a.length + b.length - common
  if total = 0 then Score.zero else Score.ofNat common / Score.ofNat total

namespace Diversity

variable {α : Type} [Score α]

def facets (d : Diversity α) : Option Item → Facets
  | none => {}
  | some item =>
    { tags := sortedTexts item.normalTags
      brands := item.facetValues d.starts.brand
      categories := item.facetValues d.starts.category }

def choice (d : Diversity α) (items : Dictionary Item) (c : Candidate α) : Choice α :=
  ⟨c, d.facets (items.get? c.id)⟩

def isFull (cap : Nat) (listed values : List String) : Bool :=
  0 < cap && values.any fun v => cap ≤ listed.count v

/-- All brands and categories of the choices, each as often as it occurs. -/
def listed (chosen : List (Choice α)) : Facets :=
  { brands := chosen.flatMap (·.facets.brands), categories := chosen.flatMap (·.facets.categories) }

def violates (d : Diversity α) (listed f : Facets) : Bool :=
  isFull d.brandCap listed.brands f.brands || isFull d.categoryCap listed.categories f.categories

def relevance (largest : α) (c : Candidate α) : α :=
  if Score.isPositive largest then c.score / largest else Score.zero

def redundancy (chosen : List (Choice α)) (f : Facets) : α :=
  Score.largest (chosen.map fun x => likeness f.tags x.facets.tags)

def marginal (d : Diversity α) (largest : α) (chosen : List (Choice α)) (x : Choice α) : α :=
  d.balance * relevance largest x.candidate -
    (Score.one - d.balance) * redundancy chosen x.facets

/-- The first of the best elements and the others in their order. The best of those seen so far has a
value; those before it and those behind it stand in reverse. -/
def takeBestFrom {β : Type} (value : β → α) (before : List β) (best : β) (top : α)
    (behind : List β) : List β → β × List β
  | [] => (best, (behind ++ before).reverse)
  | y :: rest =>
    let v := value y
    if Score.below top v then takeBestFrom value (behind ++ best :: before) y v [] rest
    else takeBestFrom value before best top (y :: behind) rest

def takeBest? {β : Type} (value : β → α) : List β → Option (β × List β)
  | [] => none
  | x :: rest => some (takeBestFrom value [] x (value x) [] rest)

def withRoom (d : Diversity α) (chosen remaining : List (Choice α)) : List (Choice α) :=
  let listed := listed chosen
  remaining.filter fun x => !d.violates listed x.facets

def fill (d : Diversity α) (items : Dictionary Item) (largest : α) : (places : Nat) →
    SlotMap α → (remaining chosen : List (Choice α)) → List (Choice α)
  | 0, _, _, chosen => chosen
  | places + 1, slots, remaining, chosen =>
    match slots.find? fun s => s.1 == chosen.length with
    | some (slot, c) =>
      fill d items largest places (slots.filter fun s => s.1 != slot) remaining
        (chosen ++ [d.choice items c])
    | none =>
      match takeBest? (d.marginal largest chosen) (d.withRoom chosen remaining) with
      | some (x, others) => fill d items largest places slots others (chosen ++ [x])
      | none =>
        match slots with
        | [] => chosen
        | (_, c) :: later => fill d items largest places later [] (chosen ++ [d.choice items c])

/-- The pinned candidates in the order in which they get their slots. -/
def inTurn (cs : List (Candidate α)) : List (Candidate α) :=
  sortWith pinOrder (cs.filter (·.pin.isSome))

/-- No list of so many items comes about: the search for a free slot goes past the last one, and
breaks down. -/
def overruns (k : Nat) (cs : List (Candidate α)) : Bool :=
  0 < k && (SlotMap.ofPinned (inTurn cs)).isOverrun

/-- The final list of at most `k` items, and what it would have come to with slots without an end if
it overruns them. Space for `k` items is taken beforehand; that there is so much is taken for
granted. -/
def list (d : Diversity α) (items : Dictionary Item) (k : Nat) (cs : List (Candidate α)) :
    List (Candidate α) :=
  let others := Candidate.rank (cs.filter (·.pin.isNone))
  let largest := Score.largest (others.map (·.score))
  (d.fill items largest k (.ofPinned (inTurn cs)) (others.map (d.choice items)) []).map (·.candidate)

end Diversity

end Recommendation
