import Mathlib.Order.Bounds.Defs
import Recommendation.Proofs.CandidateSets
import Recommendation.Proofs.Candidates
import Recommendation.Proofs.Orders
import Recommendation.Proofs.Time.Instant

/-!
What a blend makes of several sets. Each item that a set proposes is merged into one
candidate out of its entries, one entry for each signal at most, and it is kept exactly
if the weighted sum of the entries is positive. The sets are found by their signals and
the candidates are ranked by an order that tells items apart, so it does not matter in
which order the sets stand.
-/

namespace Recommendation

open CandidateSet
open Time (Instant)

variable {α : Type}

/-! ### Entries -/

namespace Blend

def Entries.get (e : Entries α) : Signal → Option (SignalEntry α)
  | .popularity => e.popularity
  | .coVisitation => e.coVisitation
  | .profile => e.profile

def Entries.times (e : Entries α) : Set Instant :=
  {t | ∃ signal entry, e.get signal = some entry ∧ entry.lastTime = some t}

theorem get_entriesOf (sets : List (CandidateSet α)) (id : String) (signal : Signal) :
    (entriesOf sets id).get signal = (ofSignal sets signal).get? id := by
  rw [entriesOf_eq]
  cases signal <;> rfl

theorem get_entriesOf_eq_some_iff {sets : List (CandidateSet α)}
    (hdistinct : HaveDistinctSignals sets) {id : String} {signal : Signal} {e : SignalEntry α} :
    (entriesOf sets id).get signal = some e ↔
      ∃ set ∈ sets, set.signal = signal ∧ set.get? id = some e := by
  rw [get_entriesOf]
  constructor
  · exact exists_mem_of_get?_ofSignal
  · rintro ⟨set, hmem, rfl, hget⟩
    rwa [ofSignal_of_mem hdistinct hmem]

theorem times_eq (e : Entries α) : e.times =
    ({t | e.popularity.bind (·.lastTime) = some t} ∪
      {t | e.coVisitation.bind (·.lastTime) = some t}) ∪
      {t | e.profile.bind (·.lastTime) = some t} := by
  ext t
  constructor
  · rintro ⟨signal, entry, hentry, ht⟩
    have hbind : (e.get signal).bind (·.lastTime) = some t :=
      Option.bind_eq_some_iff.2 ⟨entry, hentry, ht⟩
    cases signal with
    | popularity => exact .inl (.inl hbind)
    | coVisitation => exact .inl (.inr hbind)
    | profile => exact .inr hbind
  · rintro ((ht | ht) | ht)
    · exact ⟨.popularity, Option.bind_eq_some_iff.1 ht⟩
    · exact ⟨.coVisitation, Option.bind_eq_some_iff.1 ht⟩
    · exact ⟨.profile, Option.bind_eq_some_iff.1 ht⟩

theorem isLatest_lastTime (e : Entries α) : Time.IsLatest e.times (lastTime e) := by
  have hpair := (Time.isLatest_of_option (e.popularity.bind (·.lastTime))).laterOf
    (Time.isLatest_of_option (e.coVisitation.bind (·.lastTime)))
  rw [times_eq]
  exact hpair.laterOf (Time.isLatest_of_option (e.profile.bind (·.lastTime)))

/-! ### One candidate -/

variable [Score α]

/-- The weighted sum of what the entries of an item say, an absent one saying nothing. -/
def sumOf (weights : Weights α) (e : Entries α) : α :=
  weights.popularity * scoreOf e.popularity + weights.coVisitation * scoreOf e.coVisitation +
    weights.profile * scoreOf e.profile

/-- A signal is named for an item if it says something about it and has a weight, or is the
profile and has a boost. -/
def Names (blend : Blend α) (weights : Weights α) (e : Entries α) (signal : Signal) : Prop :=
  Score.isPositive (scoreOf (e.get signal)) = true ∧
    (Score.isPositive (weights.get signal) = true ∨
      signal = .profile ∧ Score.isPositive blend.profileBoost = true)

structure Merges (blend : Blend α) (weights : Weights α) (e : Entries α) (c : Candidate α) :
    Prop where
  signal : ∀ s, c.signal s = scoreOf (e.get s)
  provenance : ∀ s, s ∈ c.provenance ↔ blend.Names weights e s
  inOrder : c.provenance.Sublist Signal.all
  lastTime : Time.IsLatest e.times c.lastTime
  seed : ∀ seed, c.seed = some seed ↔ .coVisitation ∈ c.provenance ∧
    ∃ entry, e.coVisitation = some entry ∧ entry.detail = some seed
  topTag : ∀ tag, c.topTag = some tag ↔ .profile ∈ c.provenance ∧
    ∃ entry, e.profile = some entry ∧ entry.detail = some tag

variable {blend : Blend α} {weights : Weights α}

theorem signal_ofEntries (id : String) (e : Entries α) (s : Signal) :
    (ofEntries id e).signal s = scoreOf (e.get s) := by
  cases s <;> rfl

theorem signal_boosted (attenuation : α) (c : Candidate α) (s : Signal) :
    (blend.boosted attenuation c).signal s = c.signal s := by
  rw [boosted]
  split <;> cases s <;> rfl

theorem mem_weighted_iff {c : Candidate α} {s : Signal} : s ∈ weighted weights c ↔
    Score.isPositive (weights.get s) = true ∧ Score.isPositive (c.signal s) = true := by
  have hall : s ∈ Signal.all := by cases s <;> decide
  rw [weighted, List.mem_filter, Bool.and_eq_true]
  exact and_iff_right hall

/-- The boost names the profile behind the signals that are named already. -/
theorem provenance_boosted (attenuation : α) (c : Candidate α) :
    (blend.boosted attenuation c).provenance =
      if Score.isPositive blend.profileBoost && Score.isPositive c.profile &&
          !c.has .profile then c.provenance ++ [.profile]
      else c.provenance := by
  rw [boosted]
  cases hboost : Score.isPositive blend.profileBoost && Score.isPositive c.profile with
  | false => rfl
  | true => cases c.has .profile <;> rfl

theorem mem_provenance_boosted_iff (attenuation : α) {c : Candidate α} {s : Signal} :
    s ∈ (blend.boosted attenuation c).provenance ↔ s ∈ c.provenance ∨ s = .profile ∧
      Score.isPositive blend.profileBoost = true ∧ Score.isPositive (c.signal .profile) = true := by
  have hhas : c.has .profile = true ↔ .profile ∈ c.provenance := List.contains_iff_mem
  have hprofile : c.signal .profile = c.profile := rfl
  rw [provenance_boosted, hprofile]
  split
  · rename_i hnew
    simp only [Bool.and_eq_true] at hnew
    rw [List.mem_append, List.mem_singleton]
    exact or_congr_right (and_iff_left hnew.1).symm
  · rename_i hnamed
    simp only [Bool.and_eq_true, Bool.not_eq_true'] at hnamed
    refine ⟨.inl, ?_⟩
    rintro (hs | ⟨rfl, hboost⟩)
    · exact hs
    · rw [← hhas]
      by_contra hno
      exact hnamed ⟨hboost, Bool.eq_false_of_not_eq_true hno⟩

theorem inOrder_boosted (attenuation : α) {c : Candidate α}
    (h : c.provenance = weighted weights c) :
    (blend.boosted attenuation c).provenance.Sublist Signal.all := by
  have hsub : c.provenance.Sublist ([.popularity, .coVisitation] ++ [.profile]) :=
    h ▸ List.filter_sublist
  rw [provenance_boosted]
  split
  · rename_i hnew
    have hno : Signal.profile ∉ c.provenance := by
      simp only [Candidate.has, Bool.and_eq_true, Bool.not_eq_true', List.contains_eq_mem,
        decide_eq_false_iff_not] at hnew
      exact hnew.2
    -- The signals named so far are among the two that stand in front of the profile.
    obtain ⟨front, last, hsplit, hfront, hlast⟩ := List.sublist_append_iff.1 hsub
    have hnone : last = [] := by
      refine (List.sublist_singleton.1 hlast).resolve_right fun hprofile => hno ?_
      rw [hsplit, hprofile]
      exact List.mem_append_right _ (List.mem_singleton_self _)
    rw [hsplit, hnone, List.append_nil]
    exact hfront.append (List.Sublist.refl [Signal.profile])
  · exact hsub

/-- What is credited to a candidate is what its entries tell of the signals that it names. -/
theorem merges_credited (attenuation : α) (id : String) (e : Entries α) :
    blend.Merges weights e
      (credited e (blend.boosted attenuation (summed weights (ofEntries id e)))) where
  signal s := (signal_boosted attenuation _ s).trans (signal_ofEntries id e s)
  provenance s := by
    have hweighted : s ∈ (summed weights (ofEntries id e)).provenance ↔
        Score.isPositive (weights.get s) = true ∧ Score.isPositive (scoreOf (e.get s)) = true := by
      rw [← signal_ofEntries id]
      exact mem_weighted_iff
    have hprofile : (summed weights (ofEntries id e)).signal .profile = scoreOf (e.get .profile) :=
      rfl
    refine (mem_provenance_boosted_iff attenuation).trans ?_
    rw [hweighted, hprofile, Names]
    by_cases hs : s = .profile
    · subst hs
      tauto
    · simp only [hs, false_and, or_false]
      exact and_comm
  inOrder := inOrder_boosted attenuation rfl
  lastTime := isLatest_lastTime e
  seed seed := by
    rw [← Option.bind_eq_some_iff, ← List.contains_iff_mem]
    exact Option.ite_none_right_eq_some
  topTag tag := by
    rw [← Option.bind_eq_some_iff, ← List.contains_iff_mem]
    exact Option.ite_none_right_eq_some

theorem merges_of_candidate? {attenuation : α} {id : String} {e : Entries α} {c : Candidate α}
    (h : blend.candidate? weights attenuation id e = some c) : blend.Merges weights e c := by
  rw [candidate?_eq, Option.ite_none_right_eq_some] at h
  cases h.2
  exact merges_credited attenuation id e

/-- Exactly the items whose weighted sum is positive become candidates. -/
theorem exists_candidate?_iff {attenuation : α} {id : String} {e : Entries α} :
    (∃ c, blend.candidate? weights attenuation id e = some c) ↔
      Score.isPositive (sumOf weights e) = true := by
  have hsum : (summed weights (ofEntries id e)).score = sumOf weights e := rfl
  rw [candidate?_eq, hsum]
  cases Score.isPositive (sumOf weights e) with
  | false => exact ⟨nofun, nofun⟩
  | true => exact ⟨fun _ => rfl, fun _ => ⟨_, rfl⟩⟩

/-! ### All candidates -/

variable {sets sets' : List (CandidateSet α)} {c : Candidate α}

theorem mem_candidates_iff : c ∈ blend.candidates weights sets ↔ c.id ∈ union sets ∧
    blend.candidate? weights (attenuationOf sets) c.id (entriesOf sets c.id) = some c := by
  rw [(candidates_perm sets).mem_iff, List.mem_filterMap]
  constructor
  · rintro ⟨id, hid, hc⟩
    cases id_of_candidate? hc
    exact ⟨hid, hc⟩
  · rintro ⟨hid, hc⟩
    exact ⟨c.id, hid, hc⟩

theorem merges_of_mem_candidates (h : c ∈ blend.candidates weights sets) :
    blend.Merges weights (entriesOf sets c.id) c :=
  merges_of_candidate? (mem_candidates_iff.1 h).2

theorem mem_map_id_candidates_iff {id : String} :
    id ∈ (blend.candidates weights sets).map (·.id) ↔
      (∃ set ∈ sets, id ∈ set.ids) ∧
        Score.isPositive (sumOf weights (entriesOf sets id)) = true := by
  have hsum : (∃ c, blend.candidate? weights (attenuationOf sets) id (entriesOf sets id) = some c) ↔
      Score.isPositive (sumOf weights (entriesOf sets id)) = true := exists_candidate?_iff
  rw [← mem_union_iff, ← hsum, List.mem_map]
  constructor
  · rintro ⟨c, hc, rfl⟩
    obtain ⟨hid, hsome⟩ := mem_candidates_iff.1 hc
    exact ⟨hid, c, hsome⟩
  · rintro ⟨hid, c, hsome⟩
    have hname := id_of_candidate? hsome
    exact ⟨c, mem_candidates_iff.2 ⟨hname ▸ hid, hname.symm ▸ hsome⟩, hname⟩

/-- A set is found by its signal wherever it stands. -/
theorem candidates_eq_of_perm (hdistinct : HaveDistinctSignals sets) (hperm : sets.Perm sets') :
    blend.candidates weights sets = blend.candidates weights sets' := by
  have hdistinct' : HaveDistinctSignals sets' := (hperm.map _).nodup_iff.1 hdistinct
  have hsignals (signal : Signal) : ofSignal sets signal = ofSignal sets' signal := by
    by_cases h : ∃ set ∈ sets, set.signal = signal
    · obtain ⟨set, hmem, rfl⟩ := h
      rw [ofSignal_of_mem hdistinct hmem, ofSignal_of_mem hdistinct' (hperm.mem_iff.1 hmem)]
    · have hno : ∀ set ∈ sets, set.signal ≠ signal := fun set hmem hs => h ⟨set, hmem, hs⟩
      rw [ofSignal_eq_empty hno,
        ofSignal_eq_empty fun set hmem => hno set (hperm.mem_iff.2 hmem)]
  exact candidates_congr blend weights (union_congr hdistinct hdistinct' hsignals) hsignals

/-- A blend of sets with distinct signals makes one candidate of each item that a set proposes and
whose entries, one of each signal at most, have a positive weighted sum, and of no other item. Every
candidate has the latest time of its entries, and the details of those whose signals it names. The
candidates are in the strict order of their ranks, and the order of the sets does not matter. -/
theorem candidates_merge_sets [Std.TransCmp (Score.order (α := α))] (blend : Blend α)
    (weights : Weights α) (hdistinct : HaveDistinctSignals sets) :
    (∀ id signal e, (entriesOf sets id).get signal = some e ↔
        ∃ set ∈ sets, set.signal = signal ∧ set.get? id = some e) ∧
      ((blend.candidates weights sets).map (·.id)).Nodup ∧
      (∀ id, id ∈ (blend.candidates weights sets).map (·.id) ↔
        (∃ set ∈ sets, id ∈ set.ids) ∧
          Score.isPositive (sumOf weights (entriesOf sets id)) = true) ∧
      (∀ c ∈ blend.candidates weights sets, blend.Merges weights (entriesOf sets c.id) c) ∧
      ((blend.candidates weights sets).Pairwise fun a b => Candidate.rankOrder a b = .lt) ∧
      ∀ sets', sets.Perm sets' →
        blend.candidates weights sets' = blend.candidates weights sets := by
  refine ⟨fun id signal e => get_entriesOf_eq_some_iff hdistinct, nodup_candidates sets,
    fun id => mem_map_id_candidates_iff, fun c => merges_of_mem_candidates, ?_, fun sets' hperm =>
      (candidates_eq_of_perm hdistinct hperm).symm⟩
  have hids : ((blend.candidates weights sets).map (·.id)).Nodup := nodup_candidates sets
  exact pairwise_lt_sortWith_of_nodup _ (fun _ _ => Candidate.id_eq_of_rankOrder)
    (((candidates_perm sets).map _).nodup_iff.1 hids)

/-- A clog is popular and has been bought with a boot; a cap is popular alone. -/
def clogSets : List (CandidateSet Float) :=
  [(.ofRaw .popularity [("cap", 2.0, none), ("clog", 1.0, none)] : CandidateSet Float).withRecency
      [("clog", ⟨1000, 0⟩)],
    .ofRaw .coVisitation [("clog", 1.0, some "boot")]]

def evenBlend : Blend Float := ⟨⟨1.0, 1.0, 0.0⟩, 0.5⟩

theorem candidates_merge_sets_clog : HaveDistinctSignals clogSets ∧
    (∃ c ∈ evenBlend.candidates evenBlend.defaults clogSets, c.id = "clog" ∧
      c.seed = some "boot" ∧ c.lastTime ≠ none) ∧
    evenBlend.candidates evenBlend.defaults clogSets.reverse =
      evenBlend.candidates evenBlend.defaults clogSets := by
  have hdistinct : HaveDistinctSignals clogSets := by
    unfold HaveDistinctSignals
    decide +kernel
  obtain ⟨-, -, hlisted, hmerges, -, hperm⟩ :=
    candidates_merge_sets evenBlend evenBlend.defaults hdistinct
  refine ⟨hdistinct, ?_, hperm _ (List.reverse_perm _).symm⟩
  obtain ⟨c, hc, hid⟩ := List.mem_map.1
    ((hlisted "clog").2 ⟨⟨_, List.mem_cons_self, by decide +kernel⟩, by decide +kernel⟩)
  have hclog := hmerges c hc
  rw [hid] at hclog
  have hseed : .coVisitation ∈ c.provenance :=
    (hclog.provenance _).2 ⟨by decide +kernel, .inl (by decide +kernel)⟩
  have htimes : (entriesOf clogSets "clog").times ≠ ∅ :=
    Set.Nonempty.ne_empty ⟨⟨1000, 0⟩, .popularity, _, rfl, rfl⟩
  exact ⟨c, hc, hid, (hclog.seed "boot").2 ⟨hseed, _, rfl, rfl⟩,
    fun hnone => htimes (hclog.lastTime.empty hnone)⟩

end Blend

end Recommendation
