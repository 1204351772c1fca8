import Recommendation.Proofs.Engine.NoLeak
import Recommendation.Proofs.Text.Trimming

/-!
What a request excludes. The identifiers in the request are trimmed before they are
compared, those of the candidates are not. So an item is excluded if and only if one of
them is its identifier when trimmed, and an item whose own identifier has a blank at its
end is never excluded, though the request names it just as the catalog does.
-/

namespace Recommendation

namespace PolicyInput

variable {input : PolicyInput} {constraints : Constraints} {id : String}

theorem isExcluded_iff (h : input.constraints = some constraints) :
    input.isExcluded id = true ↔ ∃ x ∈ constraints.excludeItemIds, Text.trim x = id := by
  simp [isExcluded, h, Constraints.excluded]

/-- An item is marked as excluded if there is an available record of it and the request excludes
it, whatever else is against it. -/
theorem mark_eq_explicitExclude_iff : input.mark id = some .explicitExclude ↔
    (∃ item, input.available? id = some item) ∧ input.isExcluded id = true := by
  cases hitem : input.available? id with
  | none => simp [mark_of_unavailable hitem]
  | some item =>
      rw [mark_of_available hitem]
      grind

end PolicyInput

/-- Neither a pin nor a block has a say in whether an item is excluded. -/
theorem RuleEffects.verdict_eq_explicitExclude_iff {α : Type} {e : RuleEffects α}
    {mark : Option DropReason} {id : String} :
    e.verdict mark id = some .explicitExclude ↔ mark = some .explicitExclude := by
  unfold verdict
  cases e.pin? id with
  | none => rcases mark with _ | (_ | _ | _ | _ | _) <;> simp
  | some pin => rcases mark with _ | (_ | _ | _ | _ | _) <;> simp

namespace Engine

variable {σ α : Type} [Score α] {e : Engine σ} {ctx : Context} {r : RecommendRequest α}
  {w w' : World σ} {constraints : Constraints}

namespace RecommendRun

variable {run : RecommendRun e ctx r w w'} {c : Candidate α}

/-- A candidate goes as excluded exactly if its item is available and the request has its
identifier between blanks. -/
theorem dropped_as_excluded_iff (hasked : r.constraints = some constraints)
    (hc : c ∈ run.candidates) :
    run.outcome.dropReason? c.id = some .explicitExclude ↔
      (∃ item, run.policyInput.available? c.id = some item) ∧
        ∃ x ∈ constraints.excludeItemIds, Text.trim x = c.id := by
  have hinput : run.policyInput.constraints = some constraints := hasked
  have hreason : run.outcome.dropReason? c.id =
      run.outcome.effects.verdict (run.policyInput.mark c.id) c.id :=
    Policy.dropReason?_outcome hc
  rw [hreason, RuleEffects.verdict_eq_explicitExclude_iff,
    PolicyInput.mark_eq_explicitExclude_iff, PolicyInput.isExcluded_iff hinput]

theorem trim_ne_of_mem_list (hasked : r.constraints = some constraints)
    (hc : c ∈ run.ranked.list) : ∀ x ∈ constraints.excludeItemIds, Text.trim x ≠ c.id := by
  obtain ⟨c', -, hsurvives, rfl⟩ := Ranked.exists_candidate_of_mem_list _ _ _ _ hc
  obtain ⟨-, -, hexcluded, -⟩ := Policy.survives_iff.1 hsurvives
  rw [RuleEffects.attach_id]
  exact PolicyInput.isExcluded_eq_false_iff.1 hexcluded constraints hasked

end RecommendRun

/-- No item in a list for a user has an identifier that the request excludes, trimmed. In particular
no item without blanks at the ends of its identifier is named by the request as it is. A candidate
goes as excluded exactly if its item is available and its identifier is one of the trimmed ones, and
so never if it has blanks at its ends. -/
theorem recommend_leaves_out_excluded (hasked : r.constraints = some constraints) {a : Answer α}
    (hok : (e.recommend ctx r w).1.answer = .ok a) :
    (∀ shown ∈ a.items, ∀ x ∈ constraints.excludeItemIds, Text.trim x ≠ shown.itemId) ∧
      (∀ shown ∈ a.items, Text.trim shown.itemId = shown.itemId →
        shown.itemId ∉ constraints.excludeItemIds) ∧
      ∃ run : RecommendRun e ctx r w (e.recommend ctx r w).2,
        a.items = run.ranked.list.map (·.shown r.includeReasons) ∧
        ∀ c ∈ run.candidates,
          (run.outcome.dropReason? c.id = some .explicitExclude ↔
            (∃ item, run.policyInput.available? c.id = some item) ∧
              ∃ x ∈ constraints.excludeItemIds, Text.trim x = c.id) ∧
          (Text.trim c.id ≠ c.id → run.outcome.dropReason? c.id ≠ some .explicitExclude) := by
  obtain ⟨run, hitems⟩ := exists_run_of_answer hok
  have hout : ∀ shown ∈ a.items, ∀ x ∈ constraints.excludeItemIds,
      Text.trim x ≠ shown.itemId := by
    rw [hitems]
    intro shown hshown
    obtain ⟨c, hc, rfl⟩ := List.mem_map.1 hshown
    exact RecommendRun.trim_ne_of_mem_list hasked hc
  refine ⟨hout, fun shown hshown htrimmed hnamed => hout shown hshown _ hnamed htrimmed, run,
    hitems, fun c hc => ?_⟩
  have hdropped := RecommendRun.dropped_as_excluded_iff hasked hc
  refine ⟨hdropped, fun hblank hexcluded => hblank ?_⟩
  obtain ⟨-, x, -, hx⟩ := hdropped.1 hexcluded
  rw [← hx, Text.trim_trim]

/-- A shop with two boots, one of which has a blank in front of its identifier. Ann has bought that
one, and both have the tag that she likes. -/
def twoBoots : Snapshot :=
  { items := [{ id := "boot", tags := ["shoes"] }, { id := " boot", tags := ["shoes"] }]
    events := [{ userId := "ann", itemId := " boot", kind := 3, time := ⟨1000, 0⟩ }] }

def twoBootsEngine : Engine Unit :=
  { settings := { weights := ⟨0.0, 0.0, 1.0⟩ }
    store := .memory [(⟨.none, "shop"⟩, twoBoots)] }

def twoBootsContext : Context := { org := .none, now := ⟨2000, 0⟩ }

def notTheBlankBoot : Constraints := { excludeItemIds := [" boot"] }

def bootRequest : RecommendRequest Float :=
  { userId := "ann", space := "shop", k := 5, constraints := some notTheBlankBoot }

theorem recommend_bootRequest :
    ∃ a, (twoBootsEngine.recommend twoBootsContext bootRequest ⟨0, ()⟩).1.answer = .ok a ∧
      a.items.map (·.itemId) = [" boot"] :=
  Except.exists_ok_of_map_toOption (by decide +kernel)

theorem recommend_leaves_out_excluded_bootRequest :
    bootRequest.constraints = some notTheBlankBoot ∧
      ∃ a, (twoBootsEngine.recommend twoBootsContext bootRequest ⟨0, ()⟩).1.answer = .ok a ∧
        ∀ shown ∈ a.items, shown.itemId ≠ "boot" := by
  have hasked : bootRequest.constraints = some notTheBlankBoot := rfl
  obtain ⟨a, hok, -⟩ := recommend_bootRequest
  obtain ⟨hout, -⟩ := recommend_leaves_out_excluded hasked hok
  have htrim : Text.trim " boot" = "boot" := by decide +kernel
  refine ⟨hasked, a, hok, fun shown hshown hboot => ?_⟩
  exact hout shown hshown " boot" (List.mem_singleton_self _) (htrim.trans hboot.symm)

/-- The one boot that the request excludes is what it gets, and the other one is left out. -/
theorem bootRequest_gets_excluded :
    ∃ a, (twoBootsEngine.recommend twoBootsContext bootRequest ⟨0, ()⟩).1.answer = .ok a ∧
      ∃ shown ∈ a.items, shown.itemId ∈ notTheBlankBoot.excludeItemIds := by
  obtain ⟨a, hok, hids⟩ := recommend_bootRequest
  obtain ⟨shown, hshown, hid⟩ := List.mem_map.1 (hids ▸ List.mem_singleton_self " boot")
  exact ⟨a, hok, shown, hshown, by rw [hid]; exact List.mem_singleton_self _⟩

end Engine

end Recommendation
