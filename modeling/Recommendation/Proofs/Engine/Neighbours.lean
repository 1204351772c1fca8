import Recommendation.Proofs.Engine.SelfChecks
import Recommendation.Proofs.Reasons
import Recommendation.Proofs.Signals
import Recommendation.Proofs.Store.CoVisits

/-!
What a list of items like another is made of. The item itself cannot come back: what its
neighbourhood proposes is no seed, and neither is what rules name. An item that stands in
the list without a pin has been listed by the store beside the item asked about, and a
store in memory lists it because somebody has met both.
-/

namespace Recommendation

open Time (Instant)

variable {σ α : Type}

/-! ### Who has met both -/

namespace Snapshot

variable {s : Snapshot} {seed : String} {since now : Instant}

def ShareUser (s : Snapshot) (since now : Instant) (x y : String) : Prop :=
  ∃ a ∈ s.events, ∃ b ∈ s.events, a.userId = b.userId ∧ a.itemId = x ∧ b.itemId = y ∧
    (since ≤ a.time ∧ a.time ≤ now) ∧ since ≤ b.time ∧ b.time ≤ now

theorem shareUser_of_mem_coVisitors {limit : Nat} {v : CoVisitor}
    (h : v ∈ s.coVisitors seed since now limit) : s.ShareUser since now seed v.itemId := by
  rw [coVisitors_eq] at h
  obtain ⟨-, hshared, -⟩ := mem_neighbours_iff.1 (List.mem_of_mem_take h)
  obtain ⟨user, ⟨a, ha, hauser, haseed, hatime⟩, b, hb, hbuser, hbitem, hbtime⟩ :=
    nonempty_usersOfBoth hshared
  exact ⟨a, ha, b, hb, hauser.trans hbuser.symm, haseed, hbitem, hatime, hbtime⟩

end Snapshot

/-! ### Neighbours of given items -/

variable [Score α]

namespace Signal

variable {settings : Settings} {store : Store σ} {ctx : Context} {input : SignalInput}
  {w w' : World σ}

theorem returns_seeds_of_named {ids : List String} (hseeds : input.seeds = some ids)
    {found : List (Seed α)} (h : Returns (seeds settings store ctx input) w found w') :
    found = ids.map (fun id => (id, Score.one)) ∧ w' = w := by
  rw [seeds, hseeds] at h
  exact returns_pure_iff.1 h

theorem listed_of_returns_coVisited {seed id : String} (hseeds : input.seeds = some [seed])
    {set : CandidateSet α} (h : Returns (coVisited settings store ctx input) w set w')
    (hid : id ∈ set.ids) :
    id ≠ seed ∧ ∃ visitors ended, Returns (store.coVisitors ctx input.scope seed
        (ctx.now.minusDays settings.coVisitationWindow) settings.coVisitationFanout) w visitors
        ended ∧
      id ∈ visitors.map (·.itemId) := by
  obtain ⟨entry, hentry⟩ := CandidateSet.mem_ids_iff.1 hid
  obtain ⟨found, w₁, hfound, ⟨-, rfl, -⟩ | ⟨-, visitors, hvisitors, rfl⟩⟩ :=
    returns_coVisited_iff.1 h
  · rw [CandidateSet.get?_empty] at hentry
    cases hentry
  · obtain ⟨rfl, rfl⟩ := returns_seeds_of_named hseeds hfound
    have hlength := Read.length_of_returns_all hvisitors
    obtain ⟨hno, ⟨⟨s, listed⟩, hzip, hlisted⟩, -⟩ := attributed_of_get?_ofNeighbours hentry
    obtain ⟨start, ended, hbegun, hread⟩ := Read.exists_returns_of_mem_zip hvisitors hzip
    cases List.mem_singleton.1 hbegun
    obtain ⟨visitor, rfl⟩ := List.length_eq_one_iff.1 hlength
    have hne : id ≠ seed := by simpa using hno
    exact ⟨hne, listed, ended, hread, hlisted⟩

end Signal

namespace Engine

variable {e : Engine σ} {ctx : Context} {r : SimilarRequest} {w w' : World σ}

namespace SimilarRun

variable (run : SimilarRun α e ctx r w w')

def pin? (id : String) : Option Pin := run.outcome.effects.pin? id

/-- Asked which items share users with the one of the request, the store has listed this
one. -/
def Listed (id : String) : Prop :=
  ∃ visitors ended, Returns (e.store.coVisitors ctx ⟨ctx.org, Text.trim r.space⟩
      (Text.trim r.itemId) (ctx.now.minusDays e.settings.coVisitationWindow)
      e.settings.coVisitationFanout) run.worldOfTypes visitors ended ∧
    id ∈ visitors.map (·.itemId)

variable {run} {set : CandidateSet α} {id : String}

theorem seed_checked : run.checked.seed = Text.trim r.itemId := by
  obtain ⟨-, -, -, hchecked⟩ := checkSimilar_eq_ok_iff.1 run.passes
  rw [hchecked]

theorem space_checked : run.checked.space = Text.trim r.space := by
  obtain ⟨-, -, -, hchecked⟩ := checkSimilar_eq_ok_iff.1 run.passes
  rw [hchecked]

/-- Only co-visitation is asked, right after the kinds of events have been read. -/
theorem returns_coVisited_of_mem_sets (hset : set ∈ run.proposals.sets) :
    set.signal = .coVisitation ∧ ∃ ended, Returns (Signal.coVisited e.settings e.store ctx
      (similarSignalInput ctx run.checked run.types)) run.worldOfTypes set ended := by
  obtain ⟨start, ended, hbegun, hreturns⟩ := Proposals.exists_asked_of_mem_sets run.asks hset
  obtain ⟨hsignal, rfl⟩ := Prod.mk.inj (List.mem_singleton.1 hbegun)
  rw [hsignal] at hreturns
  exact ⟨hsignal, ended, hreturns⟩

theorem widen_sets (items : Dictionary Item) :
    CandidateSet.widen run.proposals.sets items = run.proposals.sets := by
  refine CandidateSet.widen_of_no_profile items ?_
  rw [CandidateSet.ofSignal_eq_empty fun set hset => ?_]
  · rfl
  · rw [(returns_coVisited_of_mem_sets hset).1]
    decide

theorem listed_of_mem_union (h : id ∈ CandidateSet.union run.proposals.sets) :
    id ≠ Text.trim r.itemId ∧ run.Listed id := by
  obtain ⟨set, hset, hid⟩ := CandidateSet.mem_union_iff.1 h
  obtain ⟨-, ended, hreturns⟩ := returns_coVisited_of_mem_sets hset
  have hlisted := Signal.listed_of_returns_coVisited rfl hreturns hid
  have hspace : (similarSignalInput ctx run.checked run.types).scope = ⟨ctx.org, Text.trim r.space⟩ :=
    congrArg (Scope.mk ctx.org) space_checked
  rw [seed_checked, hspace] at hlisted
  exact hlisted

/-- A candidate is not the item of the request, and one that no rule has named has been
listed. -/
theorem of_mem_candidates {c : Candidate α} (hc : c ∈ Ranked.candidates run.input run.reads.items
    (Ranked.pinnedIds run.reads.rules run.input.seeds) run.proposals.sets) :
    c.id ≠ Text.trim r.itemId ∧ (c.pinOnly = true ∨ run.Listed c.id) := by
  rcases Ranked.blended_or_named hc with ⟨hunion, -⟩ | ⟨hpinned, hnamed⟩
  · rw [widen_sets] at hunion
    obtain ⟨hne, hlisted⟩ := listed_of_mem_union hunion
    exact ⟨hne, .inr hlisted⟩
  -- Identifiers that rules name are trimmed before the seeds are taken out of them.
  · have hno := (List.mem_filter.1 (mem_sortedTexts.1 hnamed)).2
    have hseeds : run.input.seeds = [Text.trim r.itemId] := congrArg (fun s => [s]) seed_checked
    rw [hseeds] at hno
    refine ⟨?_, .inl ?_⟩
    · intro heq
      simp [heq] at hno
    · rw [hpinned]
      rfl

/-- Nothing in the list is the item of the request, and what stands there without a pin has
been listed. -/
theorem of_mem_list {c : Candidate α} (hc : c ∈ run.ranked.list) :
    c.id ≠ Text.trim r.itemId ∧ (run.pin? c.id = none → run.Listed c.id) := by
  obtain ⟨c₀, hc₀, hsurvives, rfl⟩ := Ranked.exists_candidate_of_mem_list _ _ _ _ hc
  obtain ⟨-, -, -, -, honly⟩ := Policy.survives_iff.1 hsurvives
  obtain ⟨hne, hfound⟩ := of_mem_candidates hc₀
  rw [RuleEffects.attach_id]
  refine ⟨hne, fun hpin => hfound.resolve_left fun hnamed => ?_⟩
  cases (honly hnamed).symm.trans (congrArg Option.isSome hpin)

/-- A store in memory lists what shares a user with the item of the request. -/
theorem shareUser_of_listed {tenants : Tenants} (hstore : e.store = .memory tenants)
    (h : run.Listed id) : (tenants.snapshot ⟨ctx.org, Text.trim r.space⟩).ShareUser
      (ctx.now.minusDays e.settings.coVisitationWindow) ctx.now (Text.trim r.itemId) id := by
  obtain ⟨visitors, ended, hread, hid⟩ := h
  obtain ⟨v, hv, rfl⟩ := List.mem_map.1 hid
  rw [hstore] at hread
  obtain ⟨_, _, -, hpure⟩ := returns_bind_iff.1 hread
  obtain ⟨rfl, -⟩ := returns_pure_iff.1 hpure
  exact Snapshot.shareUser_of_mem_coVisitors hv

end SimilarRun

/-- A list of items like another is made of its neighbours. The item itself is not in the
list, whatever rules name it; every item that the rules have given no slot has been listed
by the store when it was asked about the item of the request; and if the store is in
memory, some user has met both between the start of the window and the present. -/
theorem similar_lists_neighbours {a : Answer α}
    (hok : (e.similar ctx r w : Served α × World σ).1.answer = .ok a) :
    ∃ run : SimilarRun α e ctx r w (e.similar ctx r w : Served α × World σ).2,
      a.items = run.ranked.list.map (·.shown r.includeReasons) ∧
      ∀ shown ∈ a.items, shown.itemId ≠ Text.trim r.itemId ∧
        (run.pin? shown.itemId = none → run.Listed shown.itemId ∧
          ∀ tenants, e.store = .memory tenants →
            (tenants.snapshot ⟨ctx.org, Text.trim r.space⟩).ShareUser
              (ctx.now.minusDays e.settings.coVisitationWindow) ctx.now (Text.trim r.itemId)
              shown.itemId) := by
  rcases similar_cases α e ctx r w with ⟨w₁, run, hrun⟩ | ⟨f, w₁, -, hrun⟩
  · rw [hrun] at hok ⊢
    have hsound := Ranked.sound_ofReads e.settings run.input run.proposals.sets run.reads
    dsimp only at hok
    rw [SimilarRun.served] at hok
    have hitems : a.items = run.ranked.list.map (·.shown r.includeReasons) :=
      items_of_finish hsound.fault hok
    refine ⟨run, hitems, fun shown hshown => ?_⟩
    rw [hitems] at hshown
    obtain ⟨c, hc, rfl⟩ := List.mem_map.1 hshown
    obtain ⟨hne, hlisted⟩ := SimilarRun.of_mem_list hc
    exact ⟨hne, fun hpin => ⟨hlisted hpin, fun tenants hstore =>
      SimilarRun.shareUser_of_listed hstore (hlisted hpin)⟩⟩
  · rw [hrun] at hok
    cases hok

/-- A shop in which a boot has been bought with a clog, and whose rule would put the boot and
a cap in front. -/
def bootShop : Snapshot :=
  { items := [{ id := "boot" }, { id := "clog" }, { id := "cap" }]
    events :=
      [{ userId := "ann", itemId := "boot", kind := 3, time := ⟨1000, 0⟩ },
       { userId := "ann", itemId := "clog", kind := 3, time := ⟨1500, 0⟩ }]
    rules :=
      [{ id := .none, space := "shop", target := .items [" boot", "boot", "cap"]
         action := .pin 1 }] }

def bootEngine : Engine Unit := ⟨{}, .memory [(⟨.none, "shop"⟩, bootShop)]⟩

def bootContext : Context := { org := .none, now := ⟨2000, 0⟩ }

def likeBoot : SimilarRequest := { itemId := " boot ", space := "shop", k := 3 }

theorem similar_likeBoot :
    ∃ a, (bootEngine.similar bootContext likeBoot ⟨0, ()⟩ : Served Float × World Unit).1.answer =
        .ok a ∧ a.items.map (·.itemId) = ["cap", "clog"] :=
  Except.exists_ok_of_map_toOption (by decide +kernel)

theorem similar_lists_neighbours_likeBoot :
    ∃ a, (bootEngine.similar bootContext likeBoot ⟨0, ()⟩ : Served Float × World Unit).1.answer =
        .ok a ∧ a.items.map (·.itemId) = ["cap", "clog"] ∧
      ∃ w', ∃ run : SimilarRun Float bootEngine bootContext likeBoot ⟨0, ()⟩ w',
        ∀ shown ∈ a.items, shown.itemId ≠ "boot" ∧
          (run.pin? shown.itemId = none → run.Listed shown.itemId ∧
            bootShop.ShareUser (bootContext.now.minusDays bootEngine.settings.coVisitationWindow)
              bootContext.now "boot" shown.itemId) := by
  obtain ⟨a, hok, hids⟩ := similar_likeBoot
  obtain ⟨run, -, hshown⟩ := similar_lists_neighbours hok
  have hseed : Text.trim " boot " = "boot" := by decide +kernel
  have hspace : Text.trim "shop" = "shop" := by decide +kernel
  have hshop : Tenants.snapshot [(⟨.none, "shop"⟩, bootShop)] ⟨.none, "shop"⟩ = bootShop := by
    simp [Tenants.snapshot]
  refine ⟨a, hok, hids, _, run, fun shown hmem => ?_⟩
  obtain ⟨hne, hlisted⟩ := hshown shown hmem
  refine ⟨hseed ▸ hne, fun hpin => ?_⟩
  obtain ⟨hlisted, hmet⟩ := hlisted hpin
  have hshares := hmet _ rfl
  dsimp only [bootContext, likeBoot] at hshares
  rw [hseed, hspace, hshop] at hshares
  exact ⟨hlisted, hshares⟩

end Engine

end Recommendation
