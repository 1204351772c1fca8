import Recommendation.Proofs.Engine.NoLeak
import Recommendation.Proofs.Engine.Proposals
import Recommendation.Proofs.Reasons
import Recommendation.Proofs.Signals

/-!
The reasons that a list gives for its items are true. A text among the reasons says that
the candidate bears certain marks; a mark of a signal comes from an entry of the set that
the signal has returned, and the entry from what the store has answered it. Of the
profile's set this holds after it has been scored anew, over the records of all that is
proposed.
-/

namespace Recommendation

variable {σ α : Type} [Score α]

namespace CandidateSet

variable {sets : List (CandidateSet α)} {items : Dictionary Item} {id : String}

/-- Scoring anew by the profile adds no items to those proposed. -/
theorem mem_union_of_mem_union_widen
    (hbears : ∀ id item, items.get? id = some item → item.id = id)
    (h : id ∈ union (widen sets items)) : id ∈ union sets := by
  cases hprofile : (ofSignal sets .profile).profile with
  | none => rwa [widen_of_no_profile items hprofile] at h
  | some profile =>
      rw [widen_of_profile items hprofile] at h
      obtain ⟨set, hset, hid⟩ := mem_union_iff.1 h
      rcases mem_replaceFirst hset with rfl | hmem
      · obtain ⟨entry, hentry⟩ := mem_ids_iff.1 hid
        obtain ⟨⟨item, hitem, rfl⟩, -⟩ := exists_mem_of_get?_ofProfile hentry
        obtain ⟨id', hid', hrecord⟩ := List.mem_filterMap.1 hitem
        rwa [hbears id' item hrecord]
      · exact mem_union_iff.2 ⟨set, hmem, hid⟩

end CandidateSet

namespace Engine

variable {e : Engine σ} {ctx : Context} {r : RecommendRequest α} {w w' : World σ}

namespace RecommendRun

variable (run : RecommendRun e ctx r w w')

def signalInput : SignalInput := Engine.signalInput (contextOf ctx r.asOf) run.checked run.types

/-- The signals that have been asked, each with the world in which it has begun. -/
def begun : List (Signal × World σ) :=
  Timed.begun (e.askSignal (contextOf ctx r.asOf) run.checked run.types)
    (e.activeSignals run.checked) run.worldOfTypes

def Proposed (id : String) : Prop :=
  ∃ signal start ended, ∃ set : CandidateSet α, (signal, start) ∈ run.begun ∧
    Returns (Proposals.ask e.settings e.store (contextOf ctx r.asOf) run.signalInput signal) start
      set ended ∧
    id ∈ set.ids

def FoundPopular (id : String) : Prop :=
  ∃ start items ended, (Signal.popularity, start) ∈ run.begun ∧
    Returns (e.store.topPopular (contextOf ctx r.asOf) run.signalInput.scope
      (Signal.popularityQuery e.settings (contextOf ctx r.asOf) run.signalInput)) start items
      ended ∧
    id ∈ items.map (·.itemId)

def ReadsRecent (recent : List RecentItem) (ended : World σ) : Prop :=
  ∃ start, (Signal.coVisitation, start) ∈ run.begun ∧
    Returns (e.store.recentItems (contextOf ctx r.asOf) run.signalInput.scope run.checked.user
      ((contextOf ctx r.asOf).now.minusDays e.settings.coVisitationWindow) e.settings.maxSeeds
      run.types) start recent ended

/-- The items that share users with a seed, as the store has returned them when it has been
asked about all seeds side by side. -/
def ReadsVisitors (seeds : List (Signal.Seed α)) (start : World σ) (seed : Signal.Seed α)
    (visitors : List CoVisitor) : Prop :=
  ∃ begun ended, (seed, begun) ∈ Timed.begun (fun s =>
      (Signal.visitorsOf e.settings e.store (contextOf ctx r.asOf) run.signalInput s).run) seeds
      start ∧
    Returns (Signal.visitorsOf e.settings e.store (contextOf ctx r.asOf) run.signalInput seed)
      begun visitors ended

/-- The user has met the seed, and the store has returned the item, which is no seed
itself, as one that shares users with it. -/
def FoundBeside (seed id : String) : Prop :=
  ∃ recent w₁, ∃ seeds : List (Signal.Seed α), run.ReadsRecent recent w₁ ∧
    seed ∈ recent.map (·.itemId) ∧
    seeds = Signal.seedsOf e.settings (contextOf ctx r.asOf).now recent ∧
    id ∉ seeds.map (·.1) ∧
    ∃ s ∈ seeds, s.1 = seed ∧ ∃ visitors, run.ReadsVisitors seeds w₁ s visitors ∧
      id ∈ visitors.map (·.itemId)

/-- The tag is one of the top tags of the user's history, as the store has returned it. -/
def FoundInterest (tag : String) : Prop :=
  ∃ start history ended, (Signal.profile, start) ∈ run.begun ∧
    Returns (e.store.tagProfile (contextOf ctx r.asOf) run.signalInput.scope run.checked.user
      ((contextOf ctx r.asOf).now.minusDays e.settings.profileWindow) run.types) start history
      ended ∧
    ∃ t ∈ Signal.topTags e.settings.profileTags history, normalTag t.1 = tag

/-- What makes a reason true of the item with this record. -/
def Justifies (item : Item) : Reason → Prop
  | .popular => Score.isPositive run.checked.weights.popularity = true ∧ run.FoundPopular item.id
  | .viewed seed => seed ≠ item.id ∧ run.FoundBeside seed item.id
  | .interest tag => tag ∈ item.normalTags ∧ run.FoundInterest tag
  | .pinned => (run.pin? item.id).isSome = true
  | .boosted => ∃ rule ∈ run.reads.rules, (∃ strength, rule.action = .boost strength) ∧
      rule.target.covers e.settings.starts item = true

/-- Every reason that is given is a true one, a pin and a boost are always given, and an
item without a pin has been proposed. -/
structure Explained (item : Item) (reasons : List String) : Prop where
  kinds : ∀ text ∈ reasons, ∃ reason : Reason, reason.text = text
  justified : ∀ reason : Reason, reason.text ∈ reasons → run.Justifies item reason
  pinned : run.Justifies item .pinned → Reason.pinned.text ∈ reasons
  boosted : run.Justifies item .boosted → Reason.boosted.text ∈ reasons
  proposed : run.pin? item.id = none → run.Proposed item.id

/-! ### Sets and what the store has answered -/

variable {run} {set : CandidateSet α} {id : String} {entry : SignalEntry α}

theorem exists_asked_of_mem_sets (hset : set ∈ run.proposals.sets) :
    ∃ start ended, (set.signal, start) ∈ run.begun ∧
      Returns (Proposals.ask e.settings e.store (contextOf ctx r.asOf) run.signalInput set.signal)
        start set ended :=
  Proposals.exists_asked_of_mem_sets run.asks hset

theorem proposed_of_mem_union (h : id ∈ CandidateSet.union run.proposals.sets) :
    run.Proposed id := by
  obtain ⟨set, hset, hid⟩ := CandidateSet.mem_union_iff.1 h
  obtain ⟨start, ended, hbegun, hreturns⟩ := exists_asked_of_mem_sets hset
  exact ⟨set.signal, start, ended, set, hbegun, hreturns, hid⟩

theorem foundPopular_of_entry
    (h : (CandidateSet.ofSignal run.proposals.sets .popularity).get? id = some entry) :
    run.FoundPopular id := by
  obtain ⟨set, hset, hsignal, hentry⟩ := CandidateSet.exists_mem_of_get?_ofSignal h
  obtain ⟨start, ended, hbegun, hreturns⟩ := exists_asked_of_mem_sets hset
  rw [hsignal] at hbegun hreturns
  obtain ⟨items, hread, rfl⟩ := Signal.returns_popular_iff.1 hreturns
  exact ⟨start, items, ended, hbegun, hread, Signal.mem_of_get?_ofPopular hentry⟩

theorem foundBeside_of_entry
    (h : (CandidateSet.ofSignal run.proposals.sets .coVisitation).get? id = some entry)
    {seed : String} (hseed : entry.detail = some seed) :
    seed ≠ id ∧ run.FoundBeside seed id := by
  obtain ⟨set, hset, hsignal, hentry⟩ := CandidateSet.exists_mem_of_get?_ofSignal h
  obtain ⟨start, ended, hbegun, hreturns⟩ := exists_asked_of_mem_sets hset
  rw [hsignal] at hbegun hreturns
  obtain ⟨found, w₁, hseeds, ⟨-, rfl, -⟩ | ⟨-, visitors, hvisitors, rfl⟩⟩ :=
    Signal.returns_coVisited_iff.1 hreturns
  · rw [CandidateSet.get?_empty] at hentry
    cases hentry
  · obtain ⟨recent, hrecent, rfl⟩ := (Signal.returns_seeds_iff rfl rfl).1 hseeds
    obtain ⟨hno, -, hattributed⟩ := Signal.attributed_of_get?_ofNeighbours hentry
    obtain ⟨⟨s, listed⟩, hzip, rfl, hlisted⟩ := hattributed seed hseed
    -- As many lists as seeds have been returned, so the seeds of the pairs are all seeds.
    have hseedIds := congrArg (List.map (·.1)) (List.map_fst_zip
      (Nat.le_of_eq (Read.length_of_returns_all hvisitors).symm))
    rw [List.map_map] at hseedIds
    have hno : id ∉ (Signal.seedsOf e.settings (contextOf ctx r.asOf).now recent).map (·.1) :=
      hseedIds ▸ hno
    have hmem := (List.of_mem_zip hzip).1
    obtain ⟨begun, w₂, hbegun', hread⟩ := Read.exists_returns_of_mem_zip hvisitors hzip
    obtain ⟨item, hitem, heq⟩ := List.mem_map.1 (List.mem_of_mem_filter hmem)
    refine ⟨?_, recent, w₁, _, ⟨start, hbegun, hrecent⟩, ?_, rfl, hno, s, hmem, rfl, listed,
      ⟨begun, w₂, hbegun', hread⟩, hlisted⟩
    · rintro rfl
      exact hno (List.mem_map_of_mem hmem)
    · exact List.mem_map.2 ⟨item, hitem, congrArg Prod.fst heq⟩

theorem foundInterest_of_entry (hbears : (policyInput run).BearsIds)
    (h : (CandidateSet.ofSignal (CandidateSet.widen run.proposals.sets run.reads.items)
      .profile).get? id = some entry) {tag : String} (htag : entry.detail = some tag) :
    (∃ item, run.reads.items.get? id = some item ∧ tag ∈ item.normalTags) ∧
      run.FoundInterest tag := by
  -- A set without a profile is empty, and is not scored anew.
  have hne : CandidateSet.ofSignal run.proposals.sets .profile ≠ .empty .profile := by
    intro hempty
    have hnone : (CandidateSet.ofSignal run.proposals.sets .profile).profile = none := by
      rw [hempty]
      rfl
    rw [CandidateSet.widen_of_no_profile _ hnone, hempty, CandidateSet.get?_empty] at h
    cases h
  obtain ⟨hset, hsignal⟩ :=
    (CandidateSet.ofSignal_eq_empty_or_mem run.proposals.sets .profile).resolve_left hne
  obtain ⟨start, ended, hbegun, hreturns⟩ := exists_asked_of_mem_sets hset
  rw [hsignal] at hbegun hreturns
  have huser : run.signalInput.user = some run.checked.user := rfl
  obtain ⟨history, w₁, hhistory, htagged⟩ := Signal.of_returns_interesting huser hreturns
  obtain ⟨attenuation, tagged, htagged⟩ := htagged.resolve_left hne
  have hprofile : (CandidateSet.ofSignal run.proposals.sets .profile).profile =
      some (Signal.profileOf e.settings history attenuation) := by
    rw [htagged]
    rfl
  rw [CandidateSet.ofSignal_widen_profile _ hprofile] at h
  obtain ⟨item, hitem, hid, hcarried, weight, hweight⟩ :=
    (CandidateSet.exists_mem_of_get?_ofProfile h).2 tag htag
  obtain ⟨id', -, hrecord⟩ := List.mem_filterMap.1 hitem
  cases (hbears id' item hrecord).symm.trans hid
  exact ⟨⟨item, hrecord, hcarried⟩, start, history, w₁, hbegun, hhistory,
    Signal.exists_mem_topTags hweight⟩

/-! ### Candidates and the reasons for them -/

variable {c : Candidate α} {item : Item}

theorem reflects_of_has (hc : c ∈ run.candidates) {signal : Signal} (hhas : c.has signal = true) :
    c.Reflects run.checked.weights
      (Blend.entriesOf (CandidateSet.widen run.proposals.sets run.reads.items) c.id) := by
  rcases Ranked.blended_or_named hc with ⟨-, hreflects⟩ | ⟨hpinned, -⟩
  · exact hreflects
  · rw [hpinned] at hhas
    cases hhas

theorem boosted_of_mem_candidates (hc : c ∈ run.candidates) : c.boosted = false := by
  rcases Ranked.blended_or_named hc with ⟨-, hreflects⟩ | ⟨hpinned, -⟩
  · exact hreflects.boosted
  · rw [hpinned]
    rfl

/-- A candidate that does not stand here because of a rule alone has been proposed. -/
theorem proposed_of_mem_candidates (hbears : run.policyInput.BearsIds) (hc : c ∈ run.candidates)
    (honly : ¬c.pinOnly = true) : run.Proposed c.id := by
  rcases Ranked.blended_or_named hc with ⟨hunion, -⟩ | ⟨hpinned, -⟩
  · exact proposed_of_mem_union (CandidateSet.mem_union_of_mem_union_widen hbears hunion)
  · rw [hpinned] at honly
    exact absurd rfl honly

theorem justifies_popular (hc : c ∈ run.candidates) (hid : item.id = c.id)
    (hzero : Score.isPositive (Score.zero : α) = false) (h : c.Bears .popular) :
    run.Justifies item .popular := by
  obtain ⟨hweight, hscore⟩ := (reflects_of_has hc h).popularity h
  rw [Blend.entriesOf_eq] at hscore
  dsimp only at hscore
  rw [CandidateSet.ofSignal_widen_of_ne _ (by decide), ← hid] at hscore
  -- Without an entry the score would be nought.
  cases hentry : (CandidateSet.ofSignal run.proposals.sets .popularity).get? item.id with
  | none =>
      rw [hentry, Blend.scoreOf, hzero] at hscore
      cases hscore
  | some entry => exact ⟨hweight, foundPopular_of_entry hentry⟩

theorem justifies_viewed (hc : c ∈ run.candidates) (hid : item.id = c.id) {seed : String}
    (h : c.Bears (.viewed seed)) : run.Justifies item (.viewed seed) := by
  obtain ⟨entry, hentry, hseed⟩ := (reflects_of_has hc h.1).seed seed h.2
  rw [Blend.entriesOf_eq] at hentry
  dsimp only at hentry
  rw [CandidateSet.ofSignal_widen_of_ne _ (by decide), ← hid] at hentry
  exact foundBeside_of_entry hentry hseed

theorem justifies_interest (hc : c ∈ run.candidates) (hbears : run.policyInput.BearsIds)
    (hrecord : run.reads.items.get? c.id = some item) {tag : String}
    (h : c.Bears (.interest tag)) : run.Justifies item (.interest tag) := by
  obtain ⟨entry, hentry, htag⟩ := (reflects_of_has hc h.1).topTag tag h.2
  rw [Blend.entriesOf_eq] at hentry
  obtain ⟨⟨item', hrecord', hcarried⟩, hinterest⟩ := foundInterest_of_entry hbears hentry htag
  cases hrecord.symm.trans hrecord'
  exact ⟨hcarried, hinterest⟩

theorem justifies_pinned_iff (hid : item.id = c.id) :
    run.Justifies item .pinned ↔ (run.outcome.effects.attach c).Bears .pinned := by
  rw [Candidate.Bears, RuleEffects.attach_pin, ← hid]
  rfl

theorem justifies_boosted_iff (hc : c ∈ run.candidates) (hbears : run.policyInput.BearsIds)
    (hitem : run.policyInput.available? c.id = some item) :
    run.Justifies item .boosted ↔ (run.outcome.effects.attach c).Bears .boosted := by
  rw [Candidate.Bears, RuleEffects.attach_boosted (boosted_of_mem_candidates hc)]
  exact (Policy.isSome_boost?_effects_iff ⟨e.settings.starts, some e.settings.maxPinSlots⟩ hbears
    hc hitem).symm

theorem justifies_of_bears (hzero : Score.isPositive (Score.zero : α) = false)
    (hc : c ∈ run.candidates) (hbears : run.policyInput.BearsIds)
    (hitem : run.policyInput.available? c.id = some item) {reason : Reason}
    (h : (run.outcome.effects.attach c).Bears reason) : run.Justifies item reason := by
  have hrecord := (PolicyInput.available?_eq_some_iff.1 hitem).1
  have hid := hbears c.id item hrecord
  cases reason with
  | popular =>
      rw [Candidate.Bears, RuleEffects.attach_has] at h
      exact justifies_popular hc hid hzero h
  | viewed seed =>
      rw [Candidate.Bears, RuleEffects.attach_has, RuleEffects.attach_seed] at h
      exact justifies_viewed hc hid h
  | interest tag =>
      rw [Candidate.Bears, RuleEffects.attach_has, RuleEffects.attach_topTag] at h
      exact justifies_interest hc hbears hrecord h
  | pinned => exact (justifies_pinned_iff hid).2 h
  | boosted => exact (justifies_boosted_iff hc hbears hitem).2 h

/-- Whatever is in the list is explained by true reasons. -/
theorem explained_of_mem_list (hzero : Score.isPositive (Score.zero : α) = false)
    (hstore : e.store.BearsIds) {c : Candidate α} (hc : c ∈ run.ranked.list) :
    ∃ item, run.reads.items.get? c.id = some item ∧ item.id = c.id ∧
      run.Explained item c.reasons := by
  have hbears : run.policyInput.BearsIds := Ranked.bearsIds_of_read hstore run.ranks
  obtain ⟨c₀, hc₀, hsurvives, rfl⟩ := Ranked.exists_candidate_of_mem_list _ _ _ _ hc
  obtain ⟨item, hitem, -, -, honly⟩ := Policy.survives_iff.1 hsurvives
  have hrecord := (PolicyInput.available?_eq_some_iff.1 hitem).1
  have hid := hbears c₀.id item hrecord
  refine ⟨item, ?_, ?_, ?_, fun reason htext => ?_, fun h => ?_, fun h => ?_, fun hpin => ?_⟩
  · rw [RuleEffects.attach_id]
    exact hrecord
  · rw [RuleEffects.attach_id]
    exact hid
  · intro text htext
    obtain ⟨reason, -, heq⟩ := Candidate.mem_reasons_iff.1 htext
    exact ⟨reason, heq⟩
  · exact justifies_of_bears hzero hc₀ hbears hitem (Candidate.text_mem_reasons_iff.1 htext)
  · exact Candidate.text_mem_reasons_iff.2 ((justifies_pinned_iff hid).1 h)
  · exact Candidate.text_mem_reasons_iff.2 ((justifies_boosted_iff hc₀ hbears hitem).1 h)
  · rw [hid] at hpin ⊢
    refine proposed_of_mem_candidates hbears hc₀ fun hnamed => ?_
    -- Only a rule has named the candidate, so it is listed under a pin.
    cases (honly hnamed).symm.trans (congrArg Option.isSome hpin)

end RecommendRun

theorem isPositive_zero : Score.isPositive (Score.zero : Float) = false := by decide +kernel

/-- The reasons in a list for a user are true. "popular" stands at an item that the store
has returned as popular, under a positive weight; an item viewed is one that the user has
met, another than the item itself, which is no seed and shares users with it; a tag of
interest is one of the item's record and one of the user's top tags; "pinned" and
"boosted" stand at the items that have got a slot, and that a boost covers, and at no
others. An item without a slot has been proposed by a signal. -/
theorem reasons_true {r : RecommendRequest Float} (hstore : e.store.BearsIds) {a : Answer Float}
    (hok : (e.recommend ctx r w).1.answer = .ok a) :
    ∃ run : RecommendRun e ctx r w (e.recommend ctx r w).2,
      ∀ shown ∈ a.items, ∃ item reasons, run.reads.items.get? shown.itemId = some item ∧
        item.id = shown.itemId ∧
        shown.reasons = (if r.includeReasons then some reasons else none) ∧
        run.Explained item reasons := by
  rcases e.recommend_cases ctx r w with ⟨w₁, run, hrun⟩ | ⟨f, w₁, -, hrun⟩
  · rw [hrun] at hok ⊢
    refine ⟨run, fun shown hshown => ?_⟩
    have hsound := Ranked.sound_ofReads e.settings run.input run.proposals.sets run.reads
    dsimp only at hok
    rw [RecommendRun.served] at hok
    rw [items_of_finish hsound.fault hok] at hshown
    obtain ⟨c, hc, rfl⟩ := List.mem_map.1 hshown
    obtain ⟨item, hrecord, hid, hexplained⟩ :=
      RecommendRun.explained_of_mem_list isPositive_zero hstore hc
    exact ⟨item, c.reasons, hrecord, hid, rfl, hexplained⟩
  · rw [hrun] at hok
    cases hok

/-- A shop whose user has bought one of two shoes, and a rule that makes it count for more. -/
def shoeRack : Snapshot :=
  { items := [{ id := "boot", tags := ["Shoes"] }, { id := "clog", tags := ["shoes"] }]
    events := [{ userId := "ann", itemId := "boot", kind := 3, time := ⟨1000, 0⟩ }]
    rules := [{ id := .none, space := "shop", target := .items ["boot"], action := .boost 0.5 }] }

def rackEngine : Engine Unit :=
  { settings := { weights := ⟨0.0, 0.0, 1.0⟩ }, store := .memory [(⟨.none, "shop"⟩, shoeRack)] }

def rackContext : Context := { org := .none, now := ⟨2000, 0⟩ }

def rackRequest : RecommendRequest Float :=
  { userId := "ann", space := "shop", k := 2, includeReasons := true }

theorem recommend_rackRequest :
    ∃ a, (rackEngine.recommend rackContext rackRequest ⟨0, ()⟩).1.answer = .ok a ∧
      a.items.map (fun shown => (shown.itemId, shown.reasons)) =
        [("boot", some ["matches your interest in shoes", "boosted"]),
          ("clog", some ["matches your interest in shoes"])] :=
  Except.exists_ok_of_map_toOption (by decide +kernel)

theorem reasons_true_rackRequest : rackEngine.store.BearsIds ∧
    ∃ a, (rackEngine.recommend rackContext rackRequest ⟨0, ()⟩).1.answer = .ok a ∧
      ∃ w', ∃ run : RecommendRun rackEngine rackContext rackRequest ⟨0, ()⟩ w',
        ∀ shown ∈ a.items, ∃ item reasons, run.reads.items.get? shown.itemId = some item ∧
          shown.reasons = some reasons ∧ run.Explained item reasons := by
  have hstore : rackEngine.store.BearsIds := Store.bearsIds_memory _
  obtain ⟨a, hok, -⟩ := recommend_rackRequest
  obtain ⟨run, hexplained⟩ := reasons_true hstore hok
  refine ⟨hstore, a, hok, _, run, fun shown hshown => ?_⟩
  obtain ⟨item, reasons, hrecord, -, hreasons, hitem⟩ := hexplained shown hshown
  exact ⟨item, reasons, hrecord, hreasons, hitem⟩

end Engine

end Recommendation
