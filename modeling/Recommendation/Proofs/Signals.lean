import Recommendation.Proofs.CandidateSets
import Recommendation.Proofs.Engine.Proposals

/-!
What the proposals of a signal say about the store. Each signal is opened twice: once as
a function of what the store has answered, where an item, a seed or a tag is traced back
to the row that it comes from, and once as a read, where these rows are those that the
store has returned.
-/

namespace Recommendation

variable {σ α : Type} [Score α]

theorem mem_of_mem_topScored {β : Type} {limit : Nat} {scored : List (String × α × β)}
    {x : String × α × β} (h : x ∈ topScored limit scored) : x ∈ scored :=
  (mem_sortWith _).1 (List.mem_of_mem_take h)

/-! ### Profiles -/

namespace TagProfile

variable {p : TagProfile α} {item : Item} {tag : String}

omit [Score α] in
theorem mem_shared_iff {weight : α} : (tag, weight) ∈ p.shared item ↔
    tag ∈ item.normalTags ∧ p.weights.get? tag = some weight := by
  rw [shared, List.mem_filterMap]
  simp only [mem_sortedTexts, Option.map_eq_some_iff, Prod.mk.injEq]
  constructor
  · rintro ⟨t, ht, w, hw, rfl, rfl⟩
    exact ⟨ht, hw⟩
  · rintro ⟨ht, hw⟩
    exact ⟨tag, ht, weight, hw, rfl, rfl⟩

theorem exists_mem_of_heaviest? {tags : List (String × α)} (h : heaviest? tags = some tag) :
    ∃ weight, (tag, weight) ∈ tags := by
  cases tags with
  | nil => cases h
  | cons first rest =>
      rw [heaviest?, Option.some.injEq] at h
      have hmem : rest.foldl (fun best t => if Score.below best.2 t.2 then t else best) first ∈
          first :: rest := by
        refine List.foldlRecOn (motive := fun best => best ∈ first :: rest) rest _
          List.mem_cons_self fun best hbest t ht => ?_
        split
        · exact List.mem_cons_of_mem _ ht
        · exact hbest
      generalize rest.foldl (fun best t => if Score.below best.2 t.2 then t else best) first =
        best at h hmem
      exact ⟨best.2, h ▸ hmem⟩

theorem heaviest?_of_overlap? {score : α} (h : p.overlap? item = some (score, tag)) :
    heaviest? (p.shared item) = some tag := by
  rw [overlap?] at h
  obtain ⟨tag', hheaviest, heq⟩ := Option.map_eq_some_iff.1 h
  rw [Prod.mk.injEq] at heq
  rw [hheaviest, heq.2]

/-- The tag that an item is scored by is one of its own and one of the profile. -/
theorem mem_of_overlap? {score : α} (h : p.overlap? item = some (score, tag)) :
    tag ∈ item.normalTags ∧ ∃ weight, p.weights.get? tag = some weight := by
  obtain ⟨weight, hmem⟩ := exists_mem_of_heaviest? (heaviest?_of_overlap? h)
  obtain ⟨htag, hweight⟩ := mem_shared_iff.1 hmem
  exact ⟨htag, weight, hweight⟩

omit [Score α] in
theorem exists_mem_of_get?_ofTags {tags : List (String × α)} {attenuation weight : α}
    (h : (ofTags tags attenuation).weights.get? tag = some weight) :
    ∃ t ∈ tags, normalTag t.1 = tag := by
  have hmem : (tag, weight) ∈ tags.map fun t => (normalTag t.1, t.2) :=
    Dictionary.mem_of_get?_ofList h
  obtain ⟨t, ht, heq⟩ := List.mem_map.1 hmem
  exact ⟨t, ht, (Prod.mk.inj heq).1⟩

end TagProfile

theorem CandidateSet.exists_mem_of_get?_ofProfile {profile : TagProfile α} {items : List Item}
    {id : String} {entry : SignalEntry α} (h : (ofProfile profile items).get? id = some entry) :
    (∃ item ∈ items, item.id = id) ∧
      ∀ tag, entry.detail = some tag → ∃ item ∈ items, item.id = id ∧ tag ∈ item.normalTags ∧
        ∃ weight, profile.weights.get? tag = some weight := by
  have hraw (score : α) (detail : Option String)
      (hmem : (id, score, detail) ∈ items.filterMap fun item =>
        (profile.overlap? item).map fun best => (item.id, best.1, some best.2)) :
      ∃ item ∈ items, item.id = id ∧ ∃ tag, detail = some tag ∧
        profile.overlap? item = some (score, tag) := by
    obtain ⟨item, hitem, hscored⟩ := List.mem_filterMap.1 hmem
    obtain ⟨⟨score', tag⟩, hoverlap, heq⟩ := Option.map_eq_some_iff.1 hscored
    cases heq
    exact ⟨item, hitem, rfl, tag, rfl, hoverlap⟩
  obtain ⟨⟨score, detail, hmem⟩, hdetail⟩ := mem_of_get?_ofRaw h
  constructor
  · obtain ⟨item, hitem, hid, -⟩ := hraw _ _ hmem
    exact ⟨item, hitem, hid⟩
  · intro tag htag
    obtain ⟨score', hmem'⟩ := hdetail tag htag
    obtain ⟨item, hitem, hid, _, ⟨⟩, hoverlap⟩ := hraw _ _ hmem'
    exact ⟨item, hitem, hid, TagProfile.mem_of_overlap? hoverlap⟩

namespace Signal

variable {settings : Settings} {store : Store σ} {ctx : Context} {input : SignalInput}
  {w w' : World σ} {set : CandidateSet α} {id : String} {entry : SignalEntry α}

/-! ### Popularity -/

def popularityQuery (settings : Settings) (ctx : Context) (input : SignalInput) :
    PopularityQuery :=
  { since := ctx.now.minusDays settings.popularityWindow
    halfLife := settings.halfLife
    limit := settings.popularityFanout
    excluded := input.excluded
    types := input.types }

theorem returns_popular_iff : Returns (popular settings store ctx input) w set w' ↔
    ∃ items, Returns (store.topPopular ctx input.scope (popularityQuery settings ctx input)) w
      items w' ∧ set = ofPopular items := by
  simp only [popular, returns_bind_iff, returns_pure_iff]
  constructor
  · rintro ⟨items, w₁, hread, rfl, rfl⟩
    exact ⟨items, hread, rfl⟩
  · rintro ⟨items, hread, rfl⟩
    exact ⟨items, w', hread, rfl, rfl⟩

theorem mem_of_get?_ofPopular {items : List (PopularItem Float)}
    (h : (ofPopular items : CandidateSet α).get? id = some entry) :
    id ∈ items.map (·.itemId) := by
  obtain ⟨entry', hget, -⟩ := CandidateSet.get?_of_withRecency h
  obtain ⟨⟨score, detail, hmem⟩, -⟩ := CandidateSet.mem_of_get?_ofRaw hget
  obtain ⟨item, hitem, heq⟩ := List.mem_map.1 hmem
  cases heq
  exact List.mem_map_of_mem hitem

/-! ### Co-visitation -/

/-- The seeds that the items make which a user has met: those whose weight is positive. -/
def seedsOf (settings : Settings) (now : Time.Instant) (recent : List RecentItem) :
    List (Seed α) :=
  (recent.map (seedOf settings now)).filter fun s => Score.isPositive s.2

theorem returns_seeds_iff {user : String} (hseeds : input.seeds = none)
    (huser : input.user = some user) {found : List (Seed α)} :
    Returns (seeds settings store ctx input) w found w' ↔
      ∃ recent, Returns (store.recentItems ctx input.scope user
          (ctx.now.minusDays settings.coVisitationWindow) settings.maxSeeds input.types) w
          recent w' ∧
        found = seedsOf settings ctx.now recent := by
  simp only [seeds, hseeds, huser, returns_bind_iff, returns_pure_iff]
  constructor
  · rintro ⟨recent, w₁, hread, rfl, rfl⟩
    exact ⟨recent, hread, rfl⟩
  · rintro ⟨recent, hread, rfl⟩
    exact ⟨recent, w', hread, rfl, rfl⟩

def visitorsOf (settings : Settings) (store : Store σ) (ctx : Context) (input : SignalInput)
    (s : Seed α) : Read σ (List CoVisitor) :=
  store.coVisitors ctx input.scope s.1 (ctx.now.minusDays settings.coVisitationWindow)
    settings.coVisitationFanout

theorem returns_coVisited_iff : Returns (coVisited settings store ctx input) w set w' ↔
    ∃ (found : List (Seed α)) (w₁ : World σ), Returns (seeds settings store ctx input) w found w₁ ∧
      (found = [] ∧ set = .empty .coVisitation ∧ w' = w₁ ∨
        found ≠ [] ∧ ∃ visitors,
          Returns (Read.all (found.map (visitorsOf settings store ctx input))) w₁ visitors w' ∧
            set = ofNeighbours settings.coVisitationFanout (found.zip visitors)) := by
  rw [coVisited, returns_bind_iff]
  refine exists_congr fun found => exists_congr fun w₁ => and_congr_right fun _ => ?_
  cases found with
  | nil => simp [returns_pure_iff]
  | cons seed rest =>
      simp only [List.isEmpty_cons, Bool.false_eq_true, if_false, returns_bind_iff,
        returns_pure_iff]
      constructor
      · rintro ⟨visitors, w₂, hread, rfl, rfl⟩
        exact .inr ⟨List.cons_ne_nil _ _, visitors, hread, rfl⟩
      · rintro (⟨⟨⟩, -⟩ | ⟨-, visitors, hread, rfl⟩)
        exact ⟨visitors, w', hread, rfl, rfl⟩

theorem seed_add (old : Option (Share α)) (part : α) (seed : String) :
    ((old.getD ⟨Score.zero, Score.zero, seed⟩).add part seed).seed = seed ∨
      ∃ share, old = some share ∧
        ((old.getD ⟨Score.zero, Score.zero, seed⟩).add part seed).seed = share.seed := by
  rw [Share.add]
  split
  · exact .inl rfl
  · cases old with
    | none => exact .inl rfl
    | some share => exact .inr ⟨share, rfl, rfl⟩

/-- Every item with a share is no seed, and shares users with the seed of its share. -/
def Attributed (neighbours : List (Seed α × List CoVisitor)) (shares : Dictionary (Share α)) :
    Prop :=
  ∀ id share, shares.get? id = some share → id ∉ neighbours.map (·.1.1) ∧
    ∃ n ∈ neighbours, n.1.1 = share.seed ∧ id ∈ n.2.map (·.itemId)

theorem attributed_spread {neighbours : List (Seed α × List CoVisitor)}
    {shares : Dictionary (Share α)} (h : Attributed neighbours shares)
    {n : Seed α × List CoVisitor} (hn : n ∈ neighbours) :
    Attributed neighbours (spread (neighbours.map (·.1.1)) shares n.1 n.2) := by
  rw [spread]
  dsimp only
  split
  · -- One item of the seed's after another gets its part.
    refine List.foldlRecOn (motive := Attributed neighbours) _ _ h ?_
    rintro d hd ⟨id', count⟩ hcount id share hget
    obtain ⟨hvisitor, hno⟩ := List.mem_filter.1 hcount
    have hlisted : id' ∈ n.2.map (·.itemId) := by
      obtain ⟨v, hv, heq⟩ := List.mem_map.1 hvisitor
      exact List.mem_map.2 ⟨v, hv, (Prod.mk.inj heq).1⟩
    dsimp only at hget hno
    rw [Dictionary.get?_alter] at hget
    split at hget
    · rename_i hid
      subst hid
      rw [Option.some.injEq] at hget
      refine ⟨by simpa using hno, ?_⟩
      subst hget
      -- The share is now put down to this seed, or still to the one that it was put down to.
      rcases seed_add (d.get? id) _ n.1.1 with hseed | ⟨old, hold, hseed⟩
      · exact ⟨n, hn, hseed.symm, hlisted⟩
      · obtain ⟨-, n', hn', hseed', hlisted'⟩ := hd id old hold
        exact ⟨n', hn', hseed'.trans hseed.symm, hlisted'⟩
    · exact hd id share hget
  · exact h

/-- What seeds propose is no seed, and shares users with a seed, namely with the one that it is
put down to. -/
theorem attributed_of_get?_ofNeighbours {fanout : Nat}
    {neighbours : List (Seed α × List CoVisitor)}
    (h : (ofNeighbours fanout neighbours).get? id = some entry) :
    id ∉ neighbours.map (·.1.1) ∧ (∃ n ∈ neighbours, id ∈ n.2.map (·.itemId)) ∧
      ∀ seed, entry.detail = some seed →
        ∃ n ∈ neighbours, n.1.1 = seed ∧ id ∈ n.2.map (·.itemId) := by
  rw [ofNeighbours] at h
  dsimp only at h
  have hshares : Attributed neighbours (neighbours.foldl
      (fun shares n => spread (neighbours.map (·.1.1)) shares n.1 n.2) Dictionary.empty) :=
    List.foldlRecOn (motive := Attributed neighbours) neighbours _ (fun _ _ h => by cases h)
      fun shares hshares n hn => attributed_spread hshares hn
  generalize neighbours.foldl (fun shares n => spread (neighbours.map (·.1.1)) shares n.1 n.2)
    Dictionary.empty = shares at h hshares
  -- Every raw score is that of a share, with the seed of the share as its detail.
  have hraw (score : α) (detail : Option String)
      (hmem : (id, score, detail) ∈ (topScored fanout (shares.entries.map fun e =>
        (e.1, e.2.sum, e.2.seed))).map fun c => (c.1, c.2.1, some c.2.2)) :
      ∃ share, shares.get? id = some share ∧ detail = some share.seed := by
    obtain ⟨⟨id₁, score₁, seed⟩, htop, heq⟩ := List.mem_map.1 hmem
    obtain ⟨⟨id₂, share⟩, hentry, heq'⟩ := List.mem_map.1 (mem_of_mem_topScored htop)
    cases heq
    cases heq'
    exact ⟨share, Dictionary.mem_entries_iff.1 hentry, rfl⟩
  obtain ⟨⟨score, detail, hmem⟩, hdetail⟩ := CandidateSet.mem_of_get?_ofRaw h
  obtain ⟨share, hshare, -⟩ := hraw _ _ hmem
  obtain ⟨hno, n, hn, -, hlisted⟩ := hshares id share hshare
  refine ⟨hno, ⟨n, hn, hlisted⟩, fun seed hseed => ?_⟩
  obtain ⟨_, hmem'⟩ := hdetail seed hseed
  obtain ⟨share', hshare', hdetail'⟩ := hraw _ _ hmem'
  cases hdetail'
  exact (hshares id share' hshare').2

/-! ### Profiles of users -/

def profileOf (settings : Settings) (history : Dictionary Float) (attenuation : Float) :
    TagProfile α :=
  .ofTags ((topTags settings.profileTags history).map fun t => (t.1, Score.ofFloat t.2))
    (Score.ofFloat attenuation)

theorem exists_mem_topTags {history : Dictionary Float} {attenuation : Float} {tag : String}
    {weight : α}
    (h : (profileOf settings history attenuation).weights.get? tag = some weight) :
    ∃ t ∈ topTags settings.profileTags history, normalTag t.1 = tag := by
  obtain ⟨_, ht, htag⟩ := TagProfile.exists_mem_of_get?_ofTags h
  obtain ⟨t, hmem, rfl⟩ := List.mem_map.1 ht
  exact ⟨t, hmem, htag⟩

/-- A set of the profile signal has the profile of the user's history, or nothing at all. -/
theorem of_returns_interesting {user : String} (huser : input.user = some user)
    (h : Returns (interesting settings store ctx input) w set w') :
    ∃ history w₁, Returns (store.tagProfile ctx input.scope user
        (ctx.now.minusDays settings.profileWindow) input.types) w history w₁ ∧
      (set = .empty .profile ∨ ∃ attenuation items, set =
        ofTagged settings.profileFanout (profileOf settings history attenuation) items) := by
  simp only [interesting, huser, returns_bind_iff] at h
  obtain ⟨history, w₁, hhistory, hrest⟩ := h
  refine ⟨history, w₁, hhistory, ?_⟩
  split at hrest
  · exact .inl (returns_pure_iff.1 hrest).1
  · simp only [returns_bind_iff, returns_pure_iff] at hrest
    obtain ⟨attenuation, _, -, items, _, -, rfl, -⟩ := hrest
    exact .inr ⟨attenuation, items, rfl⟩

/-- A boost applies all the way, or as far as the settings have it for users with little history. -/
theorem attenuation_of_returns {user : String} {x : Float}
    (h : Returns (attenuation settings store ctx input user) w x w') :
    x = 1.0 ∨ x = Time.unitInterval settings.coldStart := by
  rw [attenuation] at h
  split at h
  · exact .inl (returns_pure_iff.1 h).1
  · simp only [returns_bind_iff, returns_pure_iff] at h
    obtain ⟨recent, _, -, rfl, -⟩ := h
    split
    · exact .inl rfl
    · exact .inr rfl

theorem attenuation_of_returns_interesting
    (h : Returns (interesting settings store ctx input) w set w') {profile : TagProfile α}
    (hprofile : set.profile = some profile) :
    ∃ x : Float, (x = 1.0 ∨ x = Time.unitInterval settings.coldStart) ∧
      profile.attenuation = Score.ofFloat x := by
  rw [interesting] at h
  split at h
  · obtain ⟨rfl, -⟩ := returns_pure_iff.1 h
    cases hprofile
  · obtain ⟨history, w₁, -, hrest⟩ := returns_bind_iff.1 h
    dsimp only at hrest
    split at hrest
    · obtain ⟨rfl, -⟩ := returns_pure_iff.1 hrest
      cases hprofile
    · simp only [returns_bind_iff, returns_pure_iff] at hrest
      obtain ⟨x, _, hx, items, _, -, rfl, -⟩ := hrest
      cases hprofile
      exact ⟨x, attenuation_of_returns hx, rfl⟩

end Signal

theorem Proposals.signal_of_returns_ask {settings : Settings} {store : Store σ} {ctx : Context}
    {input : SignalInput} {signal : Signal} {w w' : World σ} {set : CandidateSet α}
    (h : Returns (ask settings store ctx input signal) w set w') : set.signal = signal := by
  cases signal with
  | popularity =>
      obtain ⟨items, -, rfl⟩ := Signal.returns_popular_iff.1 h
      exact CandidateSet.signal_ofRaw _
  | coVisitation =>
      obtain ⟨_, _, -, ⟨-, rfl, -⟩ | ⟨-, visitors, -, rfl⟩⟩ := Signal.returns_coVisited_iff.1 h
      · rfl
      · exact CandidateSet.signal_ofRaw _
  | profile =>
      cases huser : input.user with
      | none =>
          rw [ask, Signal.interesting, huser] at h
          obtain ⟨rfl, -⟩ := returns_pure_iff.1 h
          rfl
      | some user =>
          obtain ⟨_, _, -, rfl | ⟨_, _, rfl⟩⟩ := Signal.of_returns_interesting huser h
          · rfl
          · exact CandidateSet.signal_ofRaw _

/-- Every set among the proposals has been returned by its signal, in the world in which
that signal has begun. -/
theorem Proposals.exists_asked_of_mem_sets {settings : Settings} {store : Store σ} {ctx : Context}
    {input : SignalInput} {signals : List Signal} {w w' : World σ} {proposals : Proposals α}
    (hasks : Returns (askAll settings store ctx input signals) w proposals w')
    {set : CandidateSet α} (hset : set ∈ proposals.sets) :
    ∃ start ended, (set.signal, start) ∈ Timed.begun
        (fun s => (ask settings store ctx input s : Read σ (CandidateSet α)).run) signals w ∧
      Returns (ask settings store ctx input set.signal) start set ended := by
  rw [askAll_eq_collect, returns_collect_iff] at hasks
  obtain ⟨-, hresults, -⟩ := hasks
  obtain ⟨-, hsets, -⟩ := ofResults_eq_ok_iff.1 hresults
  rw [hsets, mem_filterMap_toOption, Timed.all_map] at hset
  obtain ⟨⟨signal, start⟩, hbegun, hok⟩ := List.mem_map.1 hset
  have hreturns : Returns (ask settings store ctx input signal) start set _ := Prod.ext hok rfl
  cases signal_of_returns_ask hreturns
  exact ⟨start, _, hbegun, hreturns⟩

end Recommendation
