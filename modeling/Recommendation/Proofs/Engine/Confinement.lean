import Recommendation.Evaluation
import Recommendation.Proofs.Engine.Checks
import Recommendation.Proofs.Store.Agreement

/-!
What an answer can depend on. Every event that a request reads lies in a window that
ends at the present of the request and is as long as one of four settings, and every
read is confined to the tenant of the request. So two stores that agree on the tenant
from the start of the longest window answer alike, and lists that weights are judged
by do not know the events that were held back.
-/

namespace Recommendation

open Time (Instant)

/-! ### Windows -/

namespace Settings

/-- How long the windows are that a request reads events from, in days. -/
def windows (s : Settings) : List Float :=
  [s.popularityWindow, s.coVisitationWindow, s.profileWindow, s.purchasedWindow]

/-- The start of the longest of the windows that end at an instant. -/
def earliestStart (s : Settings) (now : Instant) : Instant :=
  (s.windows.map now.minusDays).foldl Instant.earlier (now.minusDays s.popularityWindow)

theorem popularityWindow_mem (s : Settings) : s.popularityWindow ∈ s.windows := by simp [windows]

theorem coVisitationWindow_mem (s : Settings) : s.coVisitationWindow ∈ s.windows := by
  simp [windows]

theorem purchasedWindow_mem (s : Settings) : s.purchasedWindow ∈ s.windows := by simp [windows]

theorem foldl_earlier_le (xs : List Instant) (x : Instant) :
    xs.foldl Instant.earlier x ≤ x ∧ ∀ y ∈ xs, xs.foldl Instant.earlier x ≤ y := by
  induction xs generalizing x with
  | nil => exact ⟨Instant.le_iff.2 (.inr ⟨rfl, Nat.le_refl _⟩), nofun⟩
  | cons z rest ih =>
      obtain ⟨hfirst, hrest⟩ := ih (x.earlier z)
      refine ⟨Instant.le_trans hfirst (Instant.earlier_le_left x z), fun y hy => ?_⟩
      rcases List.mem_cons.1 hy with rfl | hy
      · exact Instant.le_trans hfirst (Instant.earlier_le_right x y)
      · exact hrest y hy

theorem earliestStart_le {s : Settings} {days : Float} (h : days ∈ s.windows) (now : Instant) :
    s.earliestStart now ≤ now.minusDays days :=
  (foldl_earlier_le _ _).2 _ (List.mem_map_of_mem h)

end Settings

/-! ### What the steps of a request read -/

def Signal.window (settings : Settings) : Signal → Float
  | .popularity => settings.popularityWindow
  | .coVisitation => settings.coVisitationWindow
  | .profile => settings.profileWindow

theorem Signal.window_mem (settings : Settings) (signal : Signal) :
    signal.window settings ∈ settings.windows := by
  cases signal <;> simp [window, Settings.windows]

variable {σ α : Type} {settings : Settings} {s t : Store σ} {ctx : Context}
  {starts : Instant → Prop}

section Signals

variable [Score α] {input : SignalInput} (h : s.AgreesAt t ctx input.scope starts)
include h

theorem Signal.popular_congr (hstart : starts (ctx.now.minusDays settings.popularityWindow)) :
    (popular settings s ctx input : Read σ (CandidateSet α)) = popular settings t ctx input := by
  rw [popular, popular, h.topPopular _ hstart]

theorem Signal.seeds_congr (hstart : starts (ctx.now.minusDays settings.coVisitationWindow)) :
    (seeds settings s ctx input : Read σ (List (Seed α))) = seeds settings t ctx input := by
  rw [seeds, seeds]
  split
  · rfl
  · rfl
  · rw [h.recentItems _ _ _ _ hstart]

theorem Signal.coVisited_congr (hstart : starts (ctx.now.minusDays settings.coVisitationWindow)) :
    (coVisited settings s ctx input : Read σ (CandidateSet α)) =
      coVisited settings t ctx input := by
  have hvisitors (seed : String) := h.coVisitors seed _ settings.coVisitationFanout hstart
  simp only [coVisited, seeds_congr h hstart, hvisitors]

theorem Signal.interesting_congr (hstart : starts (ctx.now.minusDays settings.profileWindow)) :
    (interesting settings s ctx input : Read σ (CandidateSet α)) =
      interesting settings t ctx input := by
  simp only [interesting, attenuation, h.tagProfile _ _ _ hstart, h.recentItems _ _ _ _ hstart,
    h.itemsWithAnyTag]

theorem Proposals.ask_congr {signal : Signal}
    (hstart : starts (ctx.now.minusDays (signal.window settings))) :
    (ask settings s ctx input signal : Read σ (CandidateSet α)) =
      ask settings t ctx input signal := by
  cases signal with
  | popularity => exact Signal.popular_congr h hstart
  | coVisitation => exact Signal.coVisited_congr h hstart
  | profile => exact Signal.interesting_congr h hstart

variable (α input) in
theorem Proposals.askAll_congr {signals : List Signal}
    (hstarts : ∀ signal ∈ signals, starts (ctx.now.minusDays (signal.window settings))) :
    (askAll settings s ctx input signals : Step σ (Proposals α)) =
      askAll settings t ctx input signals := by
  have hasks : signals.map (fun signal => (ask settings s ctx input signal).run) =
      signals.map fun signal => (ask settings t ctx input signal : Read σ (CandidateSet α)).run :=
    List.map_congr_left fun signal hmem => congrArg ExceptT.run (ask_congr h (hstarts signal hmem))
  rw [askAll, askAll, hasks]

end Signals

section Ranking

variable {input : RankInput α} (h : s.AgreesAt t ctx input.scope starts)
include h

theorem Ranked.readRules_congr : readRules s ctx input = readRules t ctx input := by
  rw [readRules, readRules, h.rulesFor]

theorem Ranked.readItems_congr (ids : List String) :
    readItems s ctx input.scope ids = readItems t ctx input.scope ids := by
  rw [readItems, readItems, h.itemsByIds]

theorem Ranked.readRecent_congr (hstarts : ∀ user, input.user = some user →
      starts (ctx.now.minusDays settings.purchasedWindow) ∧
        starts (ctx.now.minusDays settings.popularityWindow)) :
    readRecent settings s ctx input = readRecent settings t ctx input := by
  rw [readRecent, readRecent]
  split
  · rfl
  · rename_i user huser
    obtain ⟨hbought, hmet⟩ := hstarts user huser
    simp only [recentlyMet, h.recentEventItems _ _ _ hbought, h.recentEventItems _ _ _ hmet]

variable (input) in
theorem Ranked.ofProposals_congr [Score α] (hstarts : ∀ user, input.user = some user →
      starts (ctx.now.minusDays settings.purchasedWindow) ∧
        starts (ctx.now.minusDays settings.popularityWindow)) (sets : List (CandidateSet α)) :
    ofProposals settings s ctx input sets = ofProposals settings t ctx input sets := by
  simp only [ofProposals, read, readRules_congr h, readItems_congr h, readRecent_congr h hstarts]

end Ranking

/-! ### Requests -/

/-- What comes after a check matters for what passes it alone. -/
theorem liftM_bind_congr {β γ : Type} {x : Except Failure β} {f g : β → Step σ γ}
    (h : ∀ a, x = .ok a → f a = g a) :
    ((liftM x : Step σ β) >>= f) = ((liftM x : Step σ β) >>= g) := by
  cases x with
  | error e => rfl
  | ok a =>
      have hok (k : β → Step σ γ) :
          ((liftM (Except.ok a : Except Failure β) : Step σ β) >>= k) = k a := rfl
      rw [hok, hok]
      exact h a rfl

namespace Engine

variable [Score α]

theorem recommendSteps_congr (r : RecommendRequest α)
    (h : s.AgreesAt t (contextOf ctx r.asOf) ⟨ctx.org, Text.trim r.space⟩ starts)
    (hstarts : ∀ days ∈ settings.windows, starts ((contextOf ctx r.asOf).now.minusDays days)) :
    (Engine.mk settings s).recommendSteps ctx r = (Engine.mk settings t).recommendSteps ctx r := by
  rw [recommendSteps, recommendSteps]
  refine liftM_bind_congr fun checked hcheck => ?_
  obtain ⟨-, -, -, -, -, hchecked⟩ := check_eq_ok_iff.1 hcheck
  -- All reads are in the scope that the check has made of the request.
  have hspace : checked.space = Text.trim r.space := by rw [hchecked]
  rw [← contextOf_org ctx r.asOf, ← hspace] at h
  have hask (types : EventTypes) (signals : List Signal) :=
    Proposals.askAll_congr α (signalInput (contextOf ctx r.asOf) checked types) h
      fun signal (_ : signal ∈ signals) => hstarts _ (signal.window_mem settings)
  have hrank (types : EventTypes) := Ranked.ofProposals_congr
    ((Engine.mk settings s).rankInput (contextOf ctx r.asOf) r checked types) h
    fun _ _ => ⟨hstarts _ settings.purchasedWindow_mem, hstarts _ settings.popularityWindow_mem⟩
  simp only [h.eventTypes, hask, hrank]
  rfl

theorem similarSteps_congr (r : SimilarRequest)
    (h : s.AgreesAt t ctx ⟨ctx.org, Text.trim r.space⟩ starts)
    (hstart : starts (ctx.now.minusDays settings.coVisitationWindow)) :
    ((Engine.mk settings s).similarSteps ctx r : Step σ (Served α)) =
      (Engine.mk settings t).similarSteps ctx r := by
  rw [similarSteps, similarSteps]
  refine liftM_bind_congr fun checked hcheck => ?_
  obtain ⟨-, -, -, hchecked⟩ := checkSimilar_eq_ok_iff.1 hcheck
  have hspace : checked.space = Text.trim r.space := by rw [hchecked]
  rw [← hspace] at h
  have hask (types : EventTypes) :
      Proposals.askAll settings s ctx (similarSignalInput ctx checked types) [.coVisitation] =
        (Proposals.askAll settings t ctx (similarSignalInput ctx checked types) [.coVisitation] :
          Step σ (Proposals α)) :=
    Proposals.askAll_congr α _ h (List.forall_mem_singleton.2 hstart)
  have hrank (types : EventTypes) (sets : List (CandidateSet α)) :
      Ranked.ofProposals settings s ctx (similarRankInput ctx r checked types) sets =
        Ranked.ofProposals settings t ctx (similarRankInput ctx r checked types) sets :=
    Ranked.ofProposals_congr _ h (fun user (huser : none = some user) => nomatch huser) sets
  simp only [findSeed, h.itemsByIds, h.eventTypes, hask, hrank]

variable (settings) (tenants tenants' : Tenants)

def overMemory (settings : Settings) (tenants : Tenants) : Engine σ :=
  ⟨settings, .memory tenants⟩

theorem recommend_overMemory_congr (ctx : Context) (r : RecommendRequest α)
    (h : (tenants.snapshot ⟨ctx.org, Text.trim r.space⟩).AgreesSince
      (tenants'.snapshot ⟨ctx.org, Text.trim r.space⟩)
      (settings.earliestStart (contextOf ctx r.asOf).now) (contextOf ctx r.asOf).now) :
    (overMemory settings tenants : Engine σ).recommend ctx r =
      (overMemory settings tenants').recommend ctx r :=
  congrArg serve (recommendSteps_congr r (Store.agreesOn_memory h)
    fun _ hmem => Settings.earliestStart_le hmem _)

theorem similar_overMemory_congr (ctx : Context) (r : SimilarRequest)
    (h : (tenants.snapshot ⟨ctx.org, Text.trim r.space⟩).AgreesSince
      (tenants'.snapshot ⟨ctx.org, Text.trim r.space⟩) (settings.earliestStart ctx.now) ctx.now) :
    ((overMemory settings tenants : Engine σ).similar ctx r : Timed σ (Served α)) =
      (overMemory settings tenants').similar ctx r :=
  congrArg serve (similarSteps_congr r (Store.agreesOn_memory h)
    (Settings.earliestStart_le settings.coVisitationWindow_mem _))

/-- Answers are confined to the tenant and to the time of the request: two stores that
hold the same items, kinds of events and rules for the tenant, and the same events from
the start of the longest window to the present of the request, give the same answer
with the same summary. A list that weights are judged by is the same even if the stores
differ in the event that was held back and in everything after it. -/
theorem answers_confined (ctx : Context) :
    (∀ r : RecommendRequest α,
      (tenants.snapshot ⟨ctx.org, Text.trim r.space⟩).AgreesSince
          (tenants'.snapshot ⟨ctx.org, Text.trim r.space⟩)
          (settings.earliestStart (contextOf ctx r.asOf).now) (contextOf ctx r.asOf).now →
        (overMemory settings tenants : Engine σ).recommend ctx r =
          (overMemory settings tenants').recommend ctx r) ∧
      (∀ r : SimilarRequest,
        (tenants.snapshot ⟨ctx.org, Text.trim r.space⟩).AgreesSince
            (tenants'.snapshot ⟨ctx.org, Text.trim r.space⟩) (settings.earliestStart ctx.now)
            ctx.now →
          ((overMemory settings tenants : Engine σ).similar ctx r : Timed σ (Served α)) =
            (overMemory settings tenants').similar ctx r) ∧
      (∀ a : Answer Float, (overMemory settings tenants : Engine σ).response a =
        (overMemory settings tenants' : Engine σ).response a) ∧
      ∀ (options : EvaluationOptions) (c : BlendCandidate) (sample : HoldoutSample),
        (tenants.snapshot ⟨ctx.org, Text.trim options.space⟩).AgreesBefore
            (tenants'.snapshot ⟨ctx.org, Text.trim options.space⟩)
            (settings.earliestStart (sample.time.after (-1000))) sample.time →
          Evaluation.engineRecommender (overMemory settings tenants : Engine σ) ctx
              (Evaluation.requestFor options c sample) =
            Evaluation.engineRecommender (overMemory settings tenants') ctx
              (Evaluation.requestFor options c sample) := by
  refine ⟨recommend_overMemory_congr settings tenants tenants' ctx,
    similar_overMemory_congr settings tenants tenants' ctx, fun _ => rfl,
    fun options c sample h => ?_⟩
  have hrecommend := recommend_overMemory_congr (σ := σ) settings tenants tenants' ctx
    (Evaluation.requestFor options c sample)
    (h.agreesSince (Instant.microsecond_before_lt sample.time))
  rw [Evaluation.engineRecommender, Evaluation.engineRecommender, hrecommend]

def viewedShop : Snapshot :=
  { items := [{ id := "shoe" }]
    events := [{ userId := "ann", itemId := "shoe", kind := 0, time := ⟨1000000, 0⟩ }] }

/-- The same shop with another user, an old event and one still to come. -/
def busyShop : Snapshot :=
  { viewedShop with
    users := [{ id := "bob" }]
    events := [{ userId := "bob", itemId := "shoe", kind := 3, time := ⟨-10000000, 0⟩ }] ++
      viewedShop.events ++
      [{ userId := "ann", itemId := "shoe", kind := 3, time := ⟨2000000, 0⟩ }] }

theorem viewedShop_agreesBefore_busyShop {since : Instant}
    (hold : decide (since ≤ (⟨-10000000, 0⟩ : Instant)) = false) :
    viewedShop.AgreesBefore busyShop since ⟨2000000, 0⟩ := by
  have hnow : decide ((⟨2000000, 0⟩ : Instant) < ⟨2000000, 0⟩) = false := rfl
  refine ⟨rfl, rfl, rfl, ?_⟩
  simp [busyShop, viewedShop, hold, hnow, List.filter_cons]

/-- The shop alone, and the busy shop beside another one. -/
def oneShop : Tenants := [(⟨.none, "shop"⟩, viewedShop)]

def twoShops : Tenants :=
  [(⟨.none, "shop"⟩, busyShop), (⟨.none, "toys"⟩, { items := [{ id := "robot" }] })]

theorem answers_confined_shops :
    (overMemory {} oneShop : Engine Unit).recommend { org := .none, now := ⟨1500000, 0⟩ }
        ({ userId := "ann", space := "shop", k := 5 } : RecommendRequest Float) =
      (overMemory {} twoShops).recommend { org := .none, now := ⟨1500000, 0⟩ }
        { userId := "ann", space := "shop", k := 5 } ∧
      ((overMemory {} oneShop : Engine Unit).similar { org := .none, now := ⟨1500000, 0⟩ }
          { itemId := "shoe", space := "shop", k := 5 } : Timed Unit (Served Float)) =
        (overMemory {} twoShops).similar { org := .none, now := ⟨1500000, 0⟩ }
          { itemId := "shoe", space := "shop", k := 5 } ∧
      Evaluation.engineRecommender (overMemory {} oneShop : Engine Unit)
          { org := .none, now := ⟨9000000, 0⟩ }
          (Evaluation.requestFor { space := "shop" } ⟨"even", ⟨1.0, 1.0, 1.0⟩⟩
            ⟨"ann", "shoe", ⟨2000000, 0⟩, 2⟩) =
        Evaluation.engineRecommender (overMemory {} twoShops)
          { org := .none, now := ⟨9000000, 0⟩ }
          (Evaluation.requestFor { space := "shop" } ⟨"even", ⟨1.0, 1.0, 1.0⟩⟩
            ⟨"ann", "shoe", ⟨2000000, 0⟩, 2⟩) := by
  have hspace : Text.trim "shop" = "shop" := by decide +kernel
  have hone : oneShop.snapshot ⟨.none, "shop"⟩ = viewedShop := by simp [Tenants.snapshot, oneShop]
  have htwo : twoShops.snapshot ⟨.none, "shop"⟩ = busyShop := by simp [Tenants.snapshot, twoShops]
  have hnow : (oneShop.snapshot ⟨.none, Text.trim "shop"⟩).AgreesSince
      (twoShops.snapshot ⟨.none, Text.trim "shop"⟩)
      (({} : Settings).earliestStart ⟨1500000, 0⟩) ⟨1500000, 0⟩ := by
    rw [hspace, hone, htwo]
    exact (viewedShop_agreesBefore_busyShop (by decide +kernel)).agreesSince (by decide)
  have hbefore : (oneShop.snapshot ⟨.none, Text.trim "shop"⟩).AgreesBefore
      (twoShops.snapshot ⟨.none, Text.trim "shop"⟩)
      (({} : Settings).earliestStart ((⟨2000000, 0⟩ : Instant).after (-1000))) ⟨2000000, 0⟩ := by
    rw [hspace, hone, htwo]
    exact viewedShop_agreesBefore_busyShop (by decide +kernel)
  exact ⟨(answers_confined {} oneShop twoShops _).1 _ hnow,
    (answers_confined (α := Float) {} oneShop twoShops _).2.1 _ hnow,
    (answers_confined (α := Float) {} oneShop twoShops _).2.2.2 _ _ _ hbefore⟩

end Engine

end Recommendation
