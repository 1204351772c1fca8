import Recommendation.Blend
import Recommendation.Proofs.Dictionary
import Recommendation.Proofs.Sorting

/-!
Where the entries of candidate sets come from, and what a blend sees of several sets.
An entry and its detail come from one of the raw scores that a set is made of. Of several
sets with distinct signals a blend sees, for each signal, the set of that signal or no
proposals: `CandidateSet.ofSignal`. So a set without proposals is as good as none.
-/

namespace Recommendation

variable {α : Type}

namespace CandidateSet

theorem mem_ids_iff {set : CandidateSet α} {id : String} :
    id ∈ set.ids ↔ ∃ entry, set.get? id = some entry :=
  Dictionary.mem_keys_iff

theorem get?_empty (signal : Signal) (id : String) :
    (empty signal : CandidateSet α).get? id = none := rfl

theorem mem_union_iff {sets : List (CandidateSet α)} {id : String} :
    id ∈ union sets ↔ ∃ set ∈ sets, id ∈ set.ids := by
  rw [union, mem_sortedTexts, List.mem_flatMap]

/-! ### Entries -/

section Entries

variable [Score α] {scores : List (RawScore α)} {id : String}

/-- What is gathered for an item comes from scores of that item, and so does the detail. -/
theorem mem_of_get?_gather {sum : α} {kept : Option String}
    (h : (gather scores).get? id = some (sum, kept)) :
    (∃ score detail, (id, score, detail) ∈ scores) ∧
      ∀ detail, kept = some detail → ∃ score, (id, score, some detail) ∈ scores := by
  rw [gather] at h
  revert h
  -- Only scores of the item change what the item has, and the first detail stays.
  refine List.foldlRecOn (motive := fun d : Dictionary (α × Option String) =>
    ∀ sum kept, d.get? id = some (sum, kept) →
      (∃ score detail, (id, score, detail) ∈ scores) ∧
        ∀ detail, kept = some detail → ∃ score, (id, score, some detail) ∈ scores) scores _
    (fun _ _ h => by cases h) ?_ sum kept
  rintro d hd ⟨id', score, detail⟩ hmem sum kept hget
  dsimp only at hget
  split at hget
  · rw [Dictionary.get?_alter] at hget
    split at hget
    · rename_i hid
      subst hid
      refine ⟨⟨score, detail, hmem⟩, fun detail' hdetail => ?_⟩
      rcases hold : d.get? id with _ | ⟨sum₀, kept₀⟩
      · rw [hold] at hget
        cases hget
        rw [Option.getD_none, Option.none_or] at hdetail
        exact ⟨score, hdetail ▸ hmem⟩
      · rw [hold] at hget
        cases hget
        rw [Option.getD_some] at hdetail
        rcases Option.or_eq_some_iff.1 hdetail with hkept | ⟨-, hnew⟩
        · exact (hd _ _ hold).2 detail' hkept
        · exact ⟨score, hnew ▸ hmem⟩
    · exact hd sum kept hget
  · exact hd sum kept hget

@[simp] theorem signal_ofRaw (signal : Signal) : (ofRaw signal scores).signal = signal := by
  rw [ofRaw]
  dsimp only
  split <;> rfl

theorem mem_of_get?_ofRaw {signal : Signal} {entry : SignalEntry α}
    (h : (ofRaw signal scores).get? id = some entry) :
    (∃ score detail, (id, score, detail) ∈ scores) ∧
      ∀ detail, entry.detail = some detail → ∃ score, (id, score, some detail) ∈ scores := by
  rw [ofRaw] at h
  dsimp only at h
  split at h
  · rw [get?, Dictionary.get?_map, Option.map_eq_some_iff] at h
    obtain ⟨⟨sum, kept⟩, hget, rfl⟩ := h
    exact mem_of_get?_gather hget
  · rw [get?_empty] at h
    cases h

omit [Score α] in
theorem get?_of_withRecency {set : CandidateSet α} {times : List (String × Time.Instant)}
    {entry : SignalEntry α} (h : (set.withRecency times).get? id = some entry) :
    ∃ entry', set.get? id = some entry' ∧ entry'.score = entry.score := by
  rw [get?, withRecency] at h
  revert h
  refine List.foldlRecOn (motive := fun d : Dictionary (SignalEntry α) =>
    ∀ entry, d.get? id = some entry →
      ∃ entry', set.get? id = some entry' ∧ entry'.score = entry.score) times _
    (fun entry h => ⟨entry, h, rfl⟩) ?_ entry
  rintro d hd ⟨id', time⟩ - entry hget
  dsimp only at hget
  split at hget
  · rw [Dictionary.get?_map, Option.map_eq_some_iff] at hget
    obtain ⟨entry', hget', rfl⟩ := hget
    obtain ⟨first, hfirst, hscore⟩ := hd entry' hget'
    refine ⟨first, hfirst, hscore.trans ?_⟩
    split <;> rfl
  · exact hd entry hget

theorem profile_ofRaw (signal : Signal) : (ofRaw signal scores).profile = none := by
  rw [ofRaw]
  dsimp only
  split <;> rfl

theorem signal_ofProfile (profile : TagProfile α) (items : List Item) :
    (ofProfile profile items).signal = .profile :=
  signal_ofRaw .profile

end Entries

/-! ### Sets by signal -/

/-- The set of a signal among several, without proposals if there is none. -/
def ofSignal (sets : List (CandidateSet α)) (signal : Signal) : CandidateSet α :=
  (find? sets signal).getD (.empty signal)

def HaveDistinctSignals (sets : List (CandidateSet α)) : Prop :=
  (sets.map (·.signal)).Nodup

variable {sets sets' : List (CandidateSet α)} {signal : Signal}

theorem mem_of_find?_eq_some {set : CandidateSet α} (h : find? sets signal = some set) :
    set ∈ sets ∧ set.signal = signal :=
  ⟨List.mem_of_find?_eq_some h, by simpa using List.find?_some h⟩

theorem ofSignal_eq_empty_or_mem (sets : List (CandidateSet α)) (signal : Signal) :
    ofSignal sets signal = .empty signal ∨
      ofSignal sets signal ∈ sets ∧ (ofSignal sets signal).signal = signal := by
  rw [ofSignal]
  cases hfind : find? sets signal with
  | none => exact .inl rfl
  | some set => exact .inr (mem_of_find?_eq_some hfind)

theorem exists_mem_of_get?_ofSignal {id : String} {entry : SignalEntry α}
    (h : (ofSignal sets signal).get? id = some entry) :
    ∃ set ∈ sets, set.signal = signal ∧ set.get? id = some entry := by
  rcases ofSignal_eq_empty_or_mem sets signal with hempty | ⟨hmem, hsignal⟩
  · rw [hempty, get?_empty] at h
    cases h
  · exact ⟨_, hmem, hsignal, h⟩

theorem ofSignal_of_mem (hdistinct : HaveDistinctSignals sets) {set : CandidateSet α}
    (hmem : set ∈ sets) : ofSignal sets set.signal = set := by
  have hsome : (find? sets set.signal).isSome = true :=
    List.find?_isSome.2 ⟨set, hmem, beq_self_eq_true _⟩
  obtain ⟨set', hfind⟩ := Option.isSome_iff_exists.1 hsome
  obtain ⟨hmem', hsignal⟩ := mem_of_find?_eq_some hfind
  rw [ofSignal, hfind, Option.getD_some]
  exact List.inj_on_of_nodup_map hdistinct hmem' hmem hsignal

theorem ofSignal_cons (set : CandidateSet α) (sets : List (CandidateSet α)) (signal : Signal) :
    ofSignal (set :: sets) signal = if set.signal = signal then set else ofSignal sets signal := by
  rw [ofSignal, find?, List.find?_cons]
  split
  · rename_i hsignal
    rw [if_pos (eq_of_beq hsignal)]
    rfl
  · rename_i hsignal
    rw [if_neg (ne_of_beq_false hsignal)]
    rfl

theorem ofSignal_eq_empty (h : ∀ set ∈ sets, set.signal ≠ signal) :
    ofSignal sets signal = .empty signal := by
  have hnone : find? sets signal = none :=
    List.find?_eq_none.2 fun set hset hsignal => h set hset (eq_of_beq hsignal)
  rw [ofSignal, hnone]
  rfl

theorem mem_union_iff_ofSignal (hdistinct : HaveDistinctSignals sets) {id : String} :
    id ∈ union sets ↔ ∃ signal, id ∈ (ofSignal sets signal).ids := by
  rw [mem_union_iff]
  constructor
  · rintro ⟨set, hmem, hid⟩
    exact ⟨set.signal, by rwa [ofSignal_of_mem hdistinct hmem]⟩
  · rintro ⟨signal, hid⟩
    obtain ⟨entry, hentry⟩ := mem_ids_iff.1 hid
    obtain ⟨set, hmem, -, hget⟩ := exists_mem_of_get?_ofSignal hentry
    exact ⟨set, hmem, mem_ids_iff.2 ⟨entry, hget⟩⟩

theorem union_congr (hdistinct : HaveDistinctSignals sets) (hdistinct' : HaveDistinctSignals sets')
    (h : ∀ signal, ofSignal sets signal = ofSignal sets' signal) : union sets = union sets' := by
  refine sortedTexts_congr fun id => ?_
  rw [← mem_sortedTexts, ← union, mem_union_iff_ofSignal hdistinct, ← mem_sortedTexts, ← union,
    mem_union_iff_ofSignal hdistinct']
  simp only [h]

/-! ### Widening -/

section Widening

variable {new : CandidateSet α}

theorem find?_replaceFirst (hnew : new.signal = signal) (s : Signal) :
    find? (replaceFirst signal new sets) s =
      if s = signal then (find? sets s).map fun _ => new else find? sets s := by
  induction sets with
  | nil => simp [replaceFirst, find?]
  | cons set rest ih =>
      simp only [find?] at ih ⊢
      rw [replaceFirst]
      grind

theorem map_signal_replaceFirst (hnew : new.signal = signal) (sets : List (CandidateSet α)) :
    (replaceFirst signal new sets).map (·.signal) = sets.map (·.signal) := by
  induction sets with
  | nil => rfl
  | cons set rest ih =>
      rw [replaceFirst]
      split
      · rename_i hsignal
        rw [List.map_cons, List.map_cons, hnew, hsignal]
      · rw [List.map_cons, List.map_cons, ih]

theorem bind_find?_eq_ofSignal {β : Type} (f : CandidateSet α → Option β)
    (hempty : f (.empty signal) = none) :
    (find? sets signal).bind f = f (ofSignal sets signal) := by
  rw [ofSignal]
  cases find? sets signal with
  | none => exact hempty.symm
  | some set => rfl

variable [Score α] (items : Dictionary Item)

theorem widen_of_no_profile (h : (ofSignal sets .profile).profile = none) :
    widen sets items = sets := by
  rw [widen, bind_find?_eq_ofSignal (·.profile) rfl, h]

theorem widen_of_profile {profile : TagProfile α}
    (h : (ofSignal sets .profile).profile = some profile) :
    widen sets items =
      replaceFirst .profile (ofProfile profile ((union sets).filterMap items.get?)) sets := by
  rw [widen, bind_find?_eq_ofSignal (·.profile) rfl, h]

theorem haveDistinctSignals_widen (hdistinct : HaveDistinctSignals sets) :
    HaveDistinctSignals (widen sets items) := by
  cases hprofile : (ofSignal sets .profile).profile with
  | none => rwa [widen_of_no_profile items hprofile]
  | some profile =>
      rw [widen_of_profile items hprofile, HaveDistinctSignals,
        map_signal_replaceFirst (signal_ofProfile _ _)]
      exact hdistinct

theorem ofSignal_widen_of_ne (hne : signal ≠ .profile) :
    ofSignal (widen sets items) signal = ofSignal sets signal := by
  cases hprofile : (ofSignal sets .profile).profile with
  | none => rw [widen_of_no_profile items hprofile]
  | some profile =>
      rw [widen_of_profile items hprofile, ofSignal, find?_replaceFirst (signal_ofProfile _ _),
        if_neg hne, ofSignal]

theorem ofSignal_widen_profile {profile : TagProfile α}
    (h : (ofSignal sets .profile).profile = some profile) :
    ofSignal (widen sets items) .profile =
      ofProfile profile ((union sets).filterMap items.get?) := by
  rw [widen_of_profile items h, ofSignal, find?_replaceFirst (signal_ofProfile _ _), if_pos rfl]
  rw [ofSignal] at h
  cases hfind : find? sets .profile with
  | none =>
      rw [hfind] at h
      cases h
  | some set => rfl

omit [Score α] in
theorem mem_replaceFirst {set : CandidateSet α} (h : set ∈ replaceFirst signal new sets) :
    set = new ∨ set ∈ sets := by
  induction sets with
  | nil => cases h
  | cons first rest ih =>
      rw [replaceFirst] at h
      split at h
      · rcases List.mem_cons.1 h with rfl | hrest
        · exact .inl rfl
        · exact .inr (List.mem_cons_of_mem _ hrest)
      · rcases List.mem_cons.1 h with rfl | hrest
        · exact .inr List.mem_cons_self
        · exact (ih hrest).imp_right (List.mem_cons_of_mem _)

theorem ofSignal_widen_congr (hunion : union sets = union sets')
    (h : ∀ signal, ofSignal sets signal = ofSignal sets' signal) (signal : Signal) :
    ofSignal (widen sets items) signal = ofSignal (widen sets' items) signal := by
  by_cases hsignal : signal = .profile
  · subst hsignal
    cases hprofile : (ofSignal sets .profile).profile with
    | none =>
        rw [widen_of_no_profile items hprofile, widen_of_no_profile items (h .profile ▸ hprofile),
          h]
    | some profile =>
        rw [ofSignal_widen_profile items hprofile,
          ofSignal_widen_profile items (h .profile ▸ hprofile), hunion]
  · rw [ofSignal_widen_of_ne items hsignal, ofSignal_widen_of_ne items hsignal, h]

end Widening

end CandidateSet

/-! ### Blends -/

namespace Blend

open CandidateSet

variable {sets sets' : List (CandidateSet α)}

theorem entriesOf_eq (sets : List (CandidateSet α)) (id : String) :
    entriesOf sets id = ⟨(ofSignal sets .popularity).get? id,
      (ofSignal sets .coVisitation).get? id, (ofSignal sets .profile).get? id⟩ := by
  simp only [entriesOf, bind_find?_eq_ofSignal (·.get? id) (get?_empty _ _)]

variable [Score α]

theorem attenuationOf_eq (sets : List (CandidateSet α)) :
    attenuationOf sets =
      ((ofSignal sets .profile).profile.map (·.attenuation)).getD Score.one := by
  rw [attenuationOf, bind_find?_eq_ofSignal (·.profile) rfl]
  cases (ofSignal sets .profile).profile <;> rfl

/-- A blend sees nothing of several sets but the set of each signal. -/
theorem candidates_congr (blend : Blend α) (weights : Weights α) (hunion : union sets = union sets')
    (h : ∀ signal, ofSignal sets signal = ofSignal sets' signal) :
    blend.candidates weights sets = blend.candidates weights sets' := by
  simp only [candidates, hunion, entriesOf_eq, attenuationOf_eq, h]

end Blend

end Recommendation
