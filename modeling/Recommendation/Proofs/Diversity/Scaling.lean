import Recommendation.Diversity
import Recommendation.Proofs.Fractions
import Recommendation.Proofs.Sorting

/-!
The list when all scores are multiplied by one positive factor. The list looks at
scores in two ways: it compares them, and it divides them by the largest. Neither
sees the factor, so every place is filled as before.
-/

namespace Recommendation

section Scale

variable {α : Type} [Score α] (factor : α)

def Candidate.scale (c : Candidate α) : Candidate α :=
  { c with score := factor * c.score }

def Choice.scale (x : Choice α) : Choice α :=
  { x with candidate := x.candidate.scale factor }

def SlotMap.scale (slots : SlotMap α) : SlotMap α :=
  slots.map fun s => (s.1, s.2.scale factor)

@[simp] theorem Candidate.scale_id (c : Candidate α) : (c.scale factor).id = c.id := rfl

@[simp] theorem Candidate.scale_score (c : Candidate α) :
    (c.scale factor).score = factor * c.score := rfl

/-! ### Slots -/

namespace SlotMap

variable (slots : SlotMap α)

theorem isTaken_scale (slot : Nat) : (slots.scale factor).isTaken slot = slots.isTaken slot := by
  simp only [isTaken, scale, List.any_map]
  rfl

theorem freeFrom_scale (steps slot : Nat) :
    (slots.scale factor).freeFrom steps slot = slots.freeFrom steps slot := by
  induction steps generalizing slot with
  | zero => rfl
  | succ steps ih => rw [freeFrom, freeFrom, isTaken_scale, ih]

theorem isOverrun_scale : (slots.scale factor).isOverrun = slots.isOverrun := by
  simp only [isOverrun, scale, List.any_map]
  rfl

theorem put_scale (slot : Nat) (c : Candidate α) :
    (slots.scale factor).put slot (c.scale factor) = (slots.put slot c).scale factor := by
  induction slots with
  | nil => rfl
  | cons s rest ih =>
      rw [scale, List.map_cons, put, put]
      split
      · rfl
      · exact congrArg _ ih

theorem assign_scale (c : Candidate α) :
    (slots.scale factor).assign (c.scale factor) = (slots.assign c).scale factor := by
  rw [assign, assign, freeFrom_scale, scale, List.length_map]
  exact put_scale factor slots _ c

theorem ofPinned_scale (cs : List (Candidate α)) :
    ofPinned (cs.map (·.scale factor)) = (ofPinned cs).scale factor := by
  have hfoldl : ∀ (cs : List (Candidate α)) (slots : SlotMap α),
      (cs.map (·.scale factor)).foldl assign (slots.scale factor) =
        (cs.foldl assign slots).scale factor := by
    intro cs
    induction cs with
    | nil => intro slots; rfl
    | cons c rest ih =>
        intro slots
        rw [List.map_cons, List.foldl_cons, assign_scale, ih, List.foldl_cons]
  exact hfoldl cs []

theorem find?_scale (slot : Nat) : ((slots.scale factor).find? fun s => s.1 == slot) =
    (slots.find? fun s => s.1 == slot).map fun s => (s.1, s.2.scale factor) := by
  rw [scale, List.find?_map]
  rfl

theorem filter_scale (slot : Nat) : ((slots.scale factor).filter fun s => s.1 != slot) =
    SlotMap.scale factor (slots.filter fun s => s.1 != slot) := by
  rw [scale, List.filter_map]
  rfl

end SlotMap

end Scale

/-! ### The best of a list -/

section Best

variable {α β : Type} [Score α] {value value' : β → α} {f : β → β}
  (h : ∀ x, value' (f x) = value x)
include h

theorem Diversity.takeBestFrom_map (before : List β) (best : β) (top : α) (behind rest : List β) :
    takeBestFrom value' (before.map f) (f best) top (behind.map f) (rest.map f) =
      (takeBestFrom value before best top behind rest).map f (·.map f) := by
  induction rest generalizing before best top behind with
  | nil => simp [takeBestFrom]
  | cons y rest ih =>
      have hbetter := ih (behind ++ best :: before) y (value y) []
      have hworse := ih before best top (y :: behind)
      simp only [List.map_append, List.map_cons, List.map_nil] at hbetter hworse
      simp only [List.map_cons, takeBestFrom, h]
      split
      · exact hbetter
      · exact hworse

theorem Diversity.takeBest?_map (xs : List β) :
    takeBest? value' (xs.map f) = (takeBest? value xs).map (Prod.map f (·.map f)) := by
  cases xs with
  | nil => rfl
  | cons x rest =>
      have hfrom := takeBestFrom_map h [] x (value x) [] rest
      rw [List.map_nil] at hfrom
      rw [List.map_cons, takeBest?, h, hfrom]
      rfl

end Best

/-! ### Orders and values -/

variable {c : Rat} (hc : 0 < c)

namespace Candidate

include hc

theorem rankOrder_scale (x y : Candidate Rat) :
    rankOrder (x.scale c) (y.scale c) = rankOrder x y := by
  rw [rankOrder, scale_score, scale_score, Score.order_mul hc]
  rfl

theorem rank_scale (xs : List (Candidate Rat)) :
    rank (xs.map (·.scale c)) = (rank xs).map (·.scale c) :=
  sortWith_map _ (rankOrder_scale hc) xs

theorem pinOrder_scale (x y : Candidate Rat) :
    pinOrder (x.scale c) (y.scale c) = pinOrder x y := by
  rw [pinOrder, rankOrder_scale hc]
  rfl

end Candidate

namespace Diversity

variable (d : Diversity Rat) (items : Dictionary Item) (largest : Rat)

theorem withRoom_scale (chosen remaining : List (Choice Rat)) :
    d.withRoom (chosen.map (·.scale c)) (remaining.map (·.scale c)) =
      (d.withRoom chosen remaining).map (·.scale c) := by
  have hlisted : listed (chosen.map (·.scale c)) = listed chosen := by
    simp only [listed, List.flatMap_map]
    rfl
  simp only [withRoom, hlisted, List.filter_map]
  rfl

include hc

theorem relevance_scale (x : Candidate Rat) :
    relevance (c * largest) (x.scale c) = relevance largest x := by
  rw [relevance, relevance, Score.isPositive_mul hc, Candidate.scale_score]
  split
  · exact mul_div_mul_left _ _ hc.ne'
  · rfl

theorem marginal_scale (chosen : List (Choice Rat)) (x : Choice Rat) :
    d.marginal (c * largest) (chosen.map (·.scale c)) (x.scale c) =
      d.marginal largest chosen x := by
  have hrelevance : relevance (c * largest) (x.scale c).candidate =
      relevance largest x.candidate := relevance_scale hc largest _
  simp only [marginal, hrelevance, redundancy, List.map_map]
  rfl

/-- Every place is filled as before: by the slot, by the pick or by the pin that moves up. -/
theorem fill_scale (places : Nat) (slots : SlotMap Rat) (remaining chosen : List (Choice Rat)) :
    d.fill items (c * largest) places (slots.scale c) (remaining.map (·.scale c))
        (chosen.map (·.scale c)) =
      (d.fill items largest places slots remaining chosen).map (·.scale c) := by
  induction places generalizing slots remaining chosen with
  | zero => rfl
  | succ places ih =>
      have happend (x : Choice Rat) :
          chosen.map (·.scale c) ++ [x.scale c] = (chosen ++ [x]).map (·.scale c) := by
        simp
      have hchoice (x : Candidate Rat) : d.choice items (x.scale c) = (d.choice items x).scale c :=
        rfl
      simp only [fill, List.length_map, SlotMap.find?_scale]
      cases hslot : slots.find? fun s => s.1 == chosen.length with
      | some s => simp only [Option.map_some, SlotMap.filter_scale, hchoice, happend, ih]
      | none =>
          rw [withRoom_scale, takeBest?_map (marginal_scale hc d largest chosen)]
          cases hpick : takeBest? (d.marginal largest chosen) (d.withRoom chosen remaining) with
          | some pick => simp only [Option.map_some, Option.map_none, Prod.map, happend, ih]
          | none =>
              cases slots with
              | nil => rfl
              | cons s later =>
                  have hlater := ih later [] (chosen ++ [d.choice items s.2])
                  rw [List.map_nil, ← happend] at hlater
                  exact hlater

omit d items in
theorem inTurn_scale (cs : List (Candidate Rat)) :
    inTurn (cs.map (·.scale c)) = (inTurn cs).map (·.scale c) := by
  rw [inTurn, List.filter_map]
  exact sortWith_map _ (Candidate.pinOrder_scale hc) _

omit d items in
theorem overruns_scale (k : Nat) (cs : List (Candidate Rat)) :
    overruns k (cs.map (·.scale c)) = overruns k cs := by
  rw [overruns, inTurn_scale hc, SlotMap.ofPinned_scale, SlotMap.isOverrun_scale, overruns]

theorem list_scale (k : Nat) (cs : List (Candidate Rat)) :
    d.list items k (cs.map (·.scale c)) = (d.list items k cs).map (·.scale c) := by
  let others := Candidate.rank (cs.filter (·.pin.isNone))
  have hothers : Candidate.rank ((cs.map (·.scale c)).filter (·.pin.isNone)) =
      others.map (·.scale c) := by
    rw [List.filter_map]
    exact Candidate.rank_scale hc _
  have hlargest : Score.largest ((others.map (·.scale c)).map (·.score)) =
      c * Score.largest (others.map (·.score)) := by
    rw [← Score.largest_map_mul hc, List.map_map, List.map_map]
    rfl
  have hchoices : (others.map (·.scale c)).map (d.choice items) =
      (others.map (d.choice items)).map (·.scale c) := by
    rw [List.map_map, List.map_map]
    rfl
  have hfill := fill_scale hc d items (Score.largest (others.map (·.score))) k
    (.ofPinned (inTurn cs)) (others.map (d.choice items)) []
  rw [List.map_nil] at hfill
  rw [list]
  rw [inTurn_scale hc, hothers, hlargest, hchoices, SlotMap.ofPinned_scale, hfill, list,
    List.map_map, List.map_map]
  rfl

end Diversity

end Recommendation
