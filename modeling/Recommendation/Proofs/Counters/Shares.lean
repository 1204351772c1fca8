import Mathlib.Algebra.Order.BigOperators.Group.List
import Mathlib.Algebra.Order.Ring.Nat
import Mathlib.Data.List.Nodup
import Recommendation.Metrics
import Recommendation.Proofs.Tags

/-!
What observations add to series. An observation adds to a series at most once, and what it adds is a
number of its summary that the family and the action of the series pick. What a history adds together
depends neither on its order nor on the way in which labels are written.
-/

namespace Recommendation

def Series.kind (series : Series) : Family × Option ActionKind := (series.family, series.action)

/-- The number of a summary that a family counts, for one action if the family tells actions apart.
There is none if the request is not one of those that the family counts. -/
def PolicySummary.share (s : PolicySummary) : Family × Option ActionKind → Option Nat
  | (.includeFilterRequests, none) => if s.constraintIncludeTags = [] then none else some 1
  | (.includeFilterDropped, none) => some s.constraintFilteredCount
  | (.includeFilterLeak, none) => some s.constraintLeakCount
  | (.explicitExcludeHits, none) => some s.explicitExcludeHits
  | (.recentEventExcludeHits, none) => some s.recentEventExcludeHits
  | (.ruleActions, some a) => some (s.ruleCount a)
  | (.ruleExposure, some a) => some (s.ruleExposure a)
  | (.ruleZeroEffect, some a) => if 0 < s.ruleCount a ∧ s.ruleExposure a = 0 then some 1 else none
  | (.responseItems, none) => some s.finalCount
  | _ => none

/-- Each family, with each action if it tells actions apart, in the order in which an observation
goes through them. -/
def countedKinds : List (Family × Option ActionKind) :=
  [(.includeFilterRequests, none), (.includeFilterDropped, none), (.includeFilterLeak, none),
    (.explicitExcludeHits, none), (.recentEventExcludeHits, none)] ++
    (ActionKind.all.flatMap fun a => [(.ruleActions, some a), (.ruleExposure, some a)]) ++
    ActionKind.all.map (fun a => (.ruleZeroEffect, some a)) ++ [(.responseItems, none)]

theorem nodup_countedKinds : countedKinds.Nodup := by decide

theorem PolicySummary.mem_countedKinds {s : PolicySummary} {kind : Family × Option ActionKind}
    {n : Nat} (h : s.share kind = some n) : kind ∈ countedKinds := by
  obtain ⟨family, action⟩ := kind
  cases family <;> rcases action with _ | _ | _ | _ <;> first | decide | cases h

theorem normalLabel_normalLabel (label : String) :
    normalLabel (normalLabel label) = normalLabel label := by
  simp only [normalLabel]
  split
  · decide +kernel
  · rename_i hlabel
    have hagain : normalTag (normalTag label) = normalTag label := normalTag_lowercase_trim label
    rw [hagain, if_neg hlabel]

theorem filterMap_ite_eq {α β : Type} [DecidableEq α] {l : List α} (hl : l.Nodup) {x : α}
    {f : α → Option β} (hx : ∀ b, f x = some b → x ∈ l) :
    l.filterMap (fun y => if y = x then f y else none) = (f x).toList := by
  induction l with
  | nil =>
      cases hvalue : f x with
      | none => rfl
      | some b => exact absurd (hx b hvalue) List.not_mem_nil
  | cons y rest ih =>
      obtain ⟨hnew, hrest⟩ := List.nodup_cons.1 hl
      rw [List.filterMap_cons]
      by_cases hy : y = x
      · subst hy
        have hnone : rest.filterMap (fun z => if z = y then f z else none) = [] := by
          refine List.filterMap_eq_nil_iff.2 fun z hz => if_neg ?_
          rintro rfl
          exact hnew hz
        rw [if_pos rfl, hnone]
        cases f y <;> rfl
      · rw [if_neg hy]
        exact ih hrest fun b hb => List.mem_of_ne_of_mem (Ne.symm hy) (hx b hb)

namespace Observation

def labelled (o : Observation) : Observation :=
  { o with space := normalLabel o.space, surface := normalLabel o.surface }

def seriesOf (o : Observation) (kind : Family × Option ActionKind) : Series :=
  ⟨kind.1, normalLabel o.space, normalLabel o.surface, kind.2⟩

/-- What an observation adds to a series; nothing, not even nought, if it does not touch it. -/
def share (series : Series) (o : Observation) : Option Nat :=
  if normalLabel o.space = series.space ∧ normalLabel o.surface = series.surface then
    o.summary.share series.kind
  else none

/-- Some observation of the history adds to the series, be it nought. -/
def Touched (history : List Observation) (series : Series) : Prop :=
  ∃ o ∈ history, ∃ n, o.share series = some n

def total (history : List Observation) (series : Series) : Nat :=
  (history.filterMap (share series)).sum

theorem seriesOf_eq_iff {o : Observation} {kind : Family × Option ActionKind} {series : Series} :
    o.seriesOf kind = series ↔ (normalLabel o.space = series.space ∧
      normalLabel o.surface = series.surface) ∧ kind = series.kind := by
  constructor
  · rintro rfl
    simp only [seriesOf, Series.kind, and_self]
  · rintro ⟨⟨hspace, hsurface⟩, rfl⟩
    rw [seriesOf, hspace, hsurface, Series.kind]

theorem map_zeroEffectActions (o : Observation) :
    o.summary.zeroEffectActions.map (fun a => (o.seriesOf (.ruleZeroEffect, some a), 1)) =
      (ActionKind.all.map fun a => (Family.ruleZeroEffect, some a)).filterMap fun kind =>
        (o.summary.share kind).map fun n => (o.seriesOf kind, n) := by
  rw [List.filterMap_map, PolicySummary.zeroEffectActions, ← List.filterMap_eq_map,
    ← List.filterMap_eq_filter, List.filterMap_filterMap]
  refine List.filterMap_congr fun a _ => ?_
  simp only [PolicySummary.share, Function.comp_apply, Option.guard, Bool.and_eq_true,
    decide_eq_true_eq, beq_iff_eq]
  split <;> rfl

theorem increments_eq (o : Observation) :
    o.increments = countedKinds.filterMap fun kind =>
      (o.summary.share kind).map fun n => (o.seriesOf kind, n) := by
  rw [countedKinds, List.filterMap_append, List.filterMap_append, List.filterMap_append,
    ← map_zeroEffectActions, increments]
  congr 3
  by_cases hwants : o.summary.constraintIncludeTags = []
  · simp [hwants, PolicySummary.share, seriesOf]
  · simp [hwants, PolicySummary.share, seriesOf]

theorem share_of_mem_increments {o : Observation} {i : Series × Nat} (h : i ∈ o.increments) :
    o.share i.1 = some i.2 := by
  rw [increments_eq] at h
  obtain ⟨kind, -, hkind⟩ := List.mem_filterMap.1 h
  obtain ⟨n, hn, rfl⟩ := Option.map_eq_some_iff.1 hkind
  obtain ⟨hlabels, hsame⟩ := seriesOf_eq_iff.1 (Eq.refl (o.seriesOf kind))
  rw [share, if_pos hlabels, ← hsame, hn]

theorem filter_increments (o : Observation) (series : Series) :
    (o.increments.filter fun i => i.1 == series).map (·.2) = (o.share series).toList := by
  rw [increments_eq, List.filter_filterMap, List.map_filterMap, share]
  split
  · rename_i hlabels
    rw [← filterMap_ite_eq nodup_countedKinds fun _ => o.summary.mem_countedKinds]
    refine List.filterMap_congr fun kind _ => ?_
    cases o.summary.share kind with
    | none => simp
    | some n => simp [Option.filter, seriesOf_eq_iff, hlabels]
  · rename_i hlabels
    refine List.filterMap_eq_nil_iff.2 fun kind _ => ?_
    cases o.summary.share kind with
    | none => rfl
    | some n => simp [Option.filter, seriesOf_eq_iff, hlabels]

/-- No more can be added than the greatest number of each observation. -/
theorem total_le {history : List Observation} {k : Nat}
    (h : ∀ o ∈ history, ∀ kind n, o.summary.share kind = some n → n ≤ k) (series : Series) :
    total history series ≤ history.length * k := by
  have hshares : ∀ n ∈ history.filterMap (share series), n ≤ k := by
    intro n hn
    obtain ⟨o, ho, hshare⟩ := List.mem_filterMap.1 hn
    rw [share, Option.ite_none_right_eq_some] at hshare
    exact h o ho series.kind n hshare.2
  calc
    total history series ≤ (history.filterMap (share series)).length * k :=
      List.sum_le_card_nsmul _ k hshares
    _ ≤ history.length * k := Nat.mul_le_mul_right k (List.length_filterMap_le _ _)

theorem share_labelled (o : Observation) (series : Series) :
    o.labelled.share series = o.share series := by
  rw [labelled, share, normalLabel_normalLabel, normalLabel_normalLabel, share]

/-- What is added does not depend on the way labels are written. -/
theorem filterMap_share_labelled (history : List Observation) (series : Series) :
    (history.map labelled).filterMap (share series) = history.filterMap (share series) := by
  rw [List.filterMap_map]
  refine List.filterMap_congr fun o _ => ?_
  rw [Function.comp_apply, share_labelled]

theorem filterMap_share_eq_nil_iff {history : List Observation} {series : Series} :
    history.filterMap (share series) = [] ↔ ¬Touched history series := by
  simp [Touched, List.filterMap_eq_nil_iff, Option.eq_none_iff_forall_ne_some]

/-- Histories with the same summaries under the same labels add the same to a series. -/
theorem perm_filterMap_share {history history' : List Observation}
    (h : (history.map labelled).Perm (history'.map labelled)) (series : Series) :
    (history.filterMap (share series)).Perm (history'.filterMap (share series)) := by
  rw [← filterMap_share_labelled, ← filterMap_share_labelled history']
  exact h.filterMap _

theorem touched_congr {history history' : List Observation}
    (h : (history.map labelled).Perm (history'.map labelled)) (series : Series) :
    Touched history series ↔ Touched history' series := by
  rw [← not_iff_not, ← filterMap_share_eq_nil_iff, ← filterMap_share_eq_nil_iff]
  have hperm := perm_filterMap_share h series
  exact ⟨fun hnil => (hnil ▸ hperm).symm.eq_nil, fun hnil => (hnil ▸ hperm).eq_nil⟩

end Observation

end Recommendation
