import Recommendation.Explanation
import Recommendation.Proofs.Candidates
import Recommendation.Proofs.Policy

/-!
What the reasons for a candidate say about it. Behind each text stands a `Reason`, which
can be read back from the text. What a candidate says about its signals, its seed and
its tag comes from the entries that it was blended from; the policy changes its score
and its marks alone.
-/

namespace Recommendation

inductive Reason
  | popular
  | viewed (seed : String)
  | interest (tag : String)
  | pinned
  | boosted

namespace Reason

def text : Reason → String
  | popular => "popular"
  | viewed seed => "because you viewed " ++ seed
  | interest tag => "matches your interest in " ++ tag
  | pinned => "pinned"
  | boosted => "boosted"

def front (text : String) : List Char := text.toList.take 2

theorem front_append {p : String} (h : 2 ≤ p.toList.length) (s : String) :
    front (p ++ s) = front p := by
  rw [front, String.toList_append, List.take_append_of_le_length h, front]

def letters : Reason → List Char
  | popular => ['p', 'o']
  | viewed _ => ['b', 'e']
  | interest _ => ['m', 'a']
  | pinned => ['p', 'i']
  | boosted => ['b', 'o']

theorem front_text (reason : Reason) : front reason.text = reason.letters := by
  cases reason with
  | popular => decide
  | viewed seed =>
      have hfront : front "because you viewed " = ['b', 'e'] := by decide
      exact (front_append (by decide) seed).trans hfront
  | interest tag =>
      have hfront : front "matches your interest in " = ['m', 'a'] := by decide
      exact (front_append (by decide) tag).trans hfront
  | pinned => decide
  | boosted => decide

/-- A reason can be read back from its text, whatever item or tag it names. -/
theorem text_injective : Function.Injective text := by
  intro a b h
  have hletters : a.letters = b.letters := by rw [← front_text, ← front_text, h]
  -- Reasons of two kinds differ in their letters, and those of one kind in what they name.
  cases a <;> cases b <;> first
    | rfl
    | exact congrArg _ ((String.append_right_inj _).1 h)
    | simp [letters] at hletters

end Reason

namespace Candidate

variable {α : Type} {c : Candidate α}

def Bears (c : Candidate α) : Reason → Prop
  | .popular => c.has .popularity = true
  | .viewed seed => c.has .coVisitation = true ∧ c.seed = some seed
  | .interest tag => c.has .profile = true ∧ c.topTag = some tag
  | .pinned => c.pin.isSome = true
  | .boosted => c.boosted = true

/-- The reasons for a candidate are those whose marks it bears. -/
theorem mem_reasons_iff {text : String} :
    text ∈ c.reasons ↔ ∃ reason : Reason, c.Bears reason ∧ reason.text = text := by
  simp only [reasons, Signal.all, List.mem_append, List.mem_filterMap, List.mem_filter,
    List.mem_cons, List.not_mem_nil, or_false]
  constructor
  · rintro ((⟨signal, ⟨-, hhas⟩, htext⟩ | hpin) | hboosted)
    · cases signal with
      | popularity =>
          cases htext
          exact ⟨.popular, hhas, rfl⟩
      | coVisitation =>
          obtain ⟨seed, hseed, rfl⟩ := Option.map_eq_some_iff.1 htext
          exact ⟨.viewed seed, ⟨hhas, hseed⟩, rfl⟩
      | profile =>
          obtain ⟨tag, htag, rfl⟩ := Option.map_eq_some_iff.1 htext
          exact ⟨.interest tag, ⟨hhas, htag⟩, rfl⟩
    · split at hpin
      · rename_i hsome
        exact ⟨.pinned, hsome, (List.mem_singleton.1 hpin).symm⟩
      · cases hpin
    · split at hboosted
      · rename_i htrue
        exact ⟨.boosted, htrue, (List.mem_singleton.1 hboosted).symm⟩
      · cases hboosted
  · rintro ⟨reason, hbears, rfl⟩
    cases reason with
    | popular => exact .inl (.inl ⟨.popularity, ⟨by decide, hbears⟩, rfl⟩)
    | viewed seed =>
        exact .inl (.inl ⟨.coVisitation, ⟨by decide, hbears.1⟩, by
          rw [signalReason, hbears.2]
          rfl⟩)
    | interest tag =>
        exact .inl (.inl ⟨.profile, ⟨by decide, hbears.1⟩, by
          rw [signalReason, hbears.2]
          rfl⟩)
    | pinned =>
        have hpin : c.pin.isSome = true := hbears
        rw [if_pos hpin]
        exact .inl (.inr (List.mem_singleton_self _))
    | boosted =>
        have hboosted : c.boosted = true := hbears
        rw [if_pos hboosted]
        exact .inr (List.mem_singleton_self _)

/-- A text is among the reasons for a candidate only if it bears the marks for it. -/
theorem text_mem_reasons_iff {reason : Reason} : reason.text ∈ c.reasons ↔ c.Bears reason := by
  rw [mem_reasons_iff]
  constructor
  · rintro ⟨reason', hbears, htext⟩
    exact Reason.text_injective htext ▸ hbears
  · exact fun hbears => ⟨reason, hbears, rfl⟩

end Candidate

/-! ### Candidates of a blend -/

/-- What a candidate says of its signals is what the entries of its item say, and it
bears no mark of a rule. -/
structure Candidate.Reflects {α : Type} [Score α] (c : Candidate α) (weights : Weights α)
    (entries : Blend.Entries α) : Prop where
  popularity : c.has .popularity = true →
    Score.isPositive weights.popularity = true ∧
      Score.isPositive (Blend.scoreOf entries.popularity) = true
  seed : ∀ seed, c.seed = some seed →
    ∃ entry, entries.coVisitation = some entry ∧ entry.detail = some seed
  topTag : ∀ tag, c.topTag = some tag →
    ∃ entry, entries.profile = some entry ∧ entry.detail = some tag
  boosted : c.boosted = false
  pinOnly : c.pinOnly = false

namespace Blend

variable {α : Type} [Score α] {blend : Blend α} {weights : Weights α}

theorem has_boosted_of_ne (blend : Blend α) {signal : Signal} (h : signal ≠ .profile)
    (attenuation : α) (c : Candidate α) :
    (blend.boosted attenuation c).has signal = c.has signal := by
  rw [boosted]
  split
  · rw [Candidate.has, Candidate.has]
    dsimp only
    split
    · rfl
    · simp [Candidate.has, h]
  · rfl

theorem boosted_boosted (attenuation : α) (c : Candidate α) :
    (blend.boosted attenuation c).boosted = c.boosted := by
  rw [boosted]
  split <;> rfl

theorem pinOnly_boosted (attenuation : α) (c : Candidate α) :
    (blend.boosted attenuation c).pinOnly = c.pinOnly := by
  rw [boosted]
  split <;> rfl

theorem reflects_of_candidate? {attenuation : α} {id : String} {entries : Entries α}
    {c : Candidate α} (h : blend.candidate? weights attenuation id entries = some c) :
    c.Reflects weights entries := by
  simp only [candidate?] at h
  split at h
  · cases h
    refine ⟨fun hhas => ?_, fun seed hseed => ?_, fun tag htag => ?_, ?_, ?_⟩
    · have hweighted := (has_boosted_of_ne blend (by decide) attenuation _).symm.trans hhas
      simpa [Candidate.has, weighted, Signal.all, Weights.get, Candidate.signal] using hweighted
    · dsimp only at hseed
      split at hseed
      · exact Option.bind_eq_some_iff.1 hseed
      · cases hseed
    · dsimp only at htag
      split at htag
      · exact Option.bind_eq_some_iff.1 htag
      · cases htag
    · exact boosted_boosted _ _
    · exact pinOnly_boosted _ _
  · cases h

theorem of_mem_candidates {sets : List (CandidateSet α)} {c : Candidate α}
    (h : c ∈ blend.candidates weights sets) :
    c.id ∈ CandidateSet.union sets ∧ c.Reflects weights (entriesOf sets c.id) := by
  rw [(candidates_perm sets).mem_iff, List.mem_filterMap] at h
  obtain ⟨id, hid, hc⟩ := h
  cases id_of_candidate? hc
  exact ⟨hid, reflects_of_candidate? hc⟩

end Blend

/-- A candidate of a request has been blended, or a rule alone has named it. -/
theorem Ranked.blended_or_named {α : Type} [Score α] {input : RankInput α}
    {items : Dictionary Item} {named : List String} {sets : List (CandidateSet α)} {c : Candidate α}
    (hc : c ∈ candidates input items named sets) :
    (c.id ∈ CandidateSet.union (CandidateSet.widen sets items) ∧
        c.Reflects input.weights (Blend.entriesOf (CandidateSet.widen sets items) c.id)) ∨
      c = .pinned c.id ∧ c.id ∈ named := by
  rw [candidates] at hc
  rcases List.mem_append.1 hc with hblended | hnamed
  · exact .inl (Blend.of_mem_candidates hblended)
  · obtain ⟨id, hid, rfl⟩ := List.mem_map.1 hnamed
    exact .inr ⟨rfl, List.mem_of_mem_filter hid⟩

/-! ### Marks of rules -/

namespace RuleEffects

variable {α : Type} [Score α] {e : RuleEffects α} {c : Candidate α}

theorem attach_has (signal : Signal) : (e.attach c).has signal = c.has signal := by
  rw [attach]
  split <;> rfl

theorem attach_seed : (e.attach c).seed = c.seed := by
  rw [attach]
  split <;> rfl

theorem attach_topTag : (e.attach c).topTag = c.topTag := by
  rw [attach]
  split <;> rfl

end RuleEffects

end Recommendation
