import Mathlib.Data.List.Nodup
import Recommendation.Engine.Ranking
import Recommendation.Proofs.Sorting

/-!
The candidates of a request have distinct identifiers: a blend makes one candidate
at most of each proposed item, and an item that rules name is added only if the
blend has not made a candidate of it.
-/

namespace Recommendation

variable {α : Type} [Score α]

namespace Blend

def ofEntries (id : String) (e : Entries α) : Candidate α :=
  { id, score := Score.zero, popularity := scoreOf e.popularity,
    coVisitation := scoreOf e.coVisitation, profile := scoreOf e.profile }

def summed (weights : Weights α) (x : Candidate α) : Candidate α :=
  { x with score := combined weights x, provenance := weighted weights x }

def credited (e : Entries α) (x : Candidate α) : Candidate α :=
  { x with
    lastTime := lastTime e
    seed := if x.has .coVisitation then e.coVisitation.bind (·.detail) else none
    topTag := if x.has .profile then e.profile.bind (·.detail) else none }

theorem candidate?_eq (blend : Blend α) (weights : Weights α) (attenuation : α) (id : String)
    (e : Entries α) : blend.candidate? weights attenuation id e =
      if Score.isPositive (summed weights (ofEntries id e)).score then
        some (credited e (blend.boosted attenuation (summed weights (ofEntries id e))))
      else none := rfl

variable {blend : Blend α} {weights : Weights α}

theorem id_boosted (attenuation : α) (c : Candidate α) :
    (blend.boosted attenuation c).id = c.id := by
  rw [boosted]
  split <;> rfl

theorem id_of_candidate? {attenuation : α} {id : String} {entries : Entries α} {c : Candidate α}
    (h : blend.candidate? weights attenuation id entries = some c) : c.id = id := by
  simp only [candidate?] at h
  split at h
  · cases h
    exact id_boosted _ _
  · cases h

theorem candidates_perm (sets : List (CandidateSet α)) : (blend.candidates weights sets).Perm
    ((CandidateSet.union sets).filterMap fun id =>
      blend.candidate? weights (attenuationOf sets) id (entriesOf sets id)) :=
  sortWith_perm _ _

theorem nodup_candidates (sets : List (CandidateSet α)) :
    ((blend.candidates weights sets).map (·.id)).Nodup := by
  rw [((candidates_perm sets).map _).nodup_iff, List.map_filterMap]
  refine (nodup_sortedTexts _).filterMap fun id id' x hid hid' => ?_
  obtain ⟨c, hc, rfl⟩ := Option.map_eq_some_iff.1 hid
  obtain ⟨c', hc', hx⟩ := Option.map_eq_some_iff.1 hid'
  exact (id_of_candidate? hc).symm.trans (hx.symm.trans (id_of_candidate? hc'))

end Blend

namespace Ranked

theorem nodup_candidates (input : RankInput α) (items : Dictionary Item) (rules : List Rule)
    (sets : List (CandidateSet α)) :
    ((candidates input items (pinnedIds rules input.seeds) sets).map (·.id)).Nodup := by
  rw [candidates, List.map_append, List.map_map]
  refine List.nodup_append.2 ⟨Blend.nodup_candidates _, ?_, ?_⟩
  · exact (List.map_id _).symm ▸ (nodup_sortedTexts _).filter _
  · intro x hblended y hnamed
    rintro rfl
    obtain ⟨c, hc, rfl⟩ := List.mem_map.1 hblended
    obtain ⟨id, hid, hname⟩ := List.mem_map.1 hnamed
    have hfresh := (List.mem_filter.1 hid).2
    rw [Bool.not_eq_true', List.any_eq_false] at hfresh
    exact hfresh c hc (beq_iff_eq.2 hname.symm)

end Ranked

end Recommendation
