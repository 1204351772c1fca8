import Recommendation.Proofs.Dictionary
import Recommendation.Proofs.Engine.Cancellation
import Recommendation.Proofs.Engine.Confinement
import Recommendation.Proofs.Engine.SelfChecks

/-!
How requests fail over a store in memory. Whatever time such a store takes, it hands back
what its snapshots say unless the request is canceled, and the rules that it hands back
are chosen by the test that the engine puts them to. So its requests fail by what their
callers do: they ask for what cannot be had, or they do not wait.
-/

namespace Recommendation

variable {σ α β : Type}

/-! ### Stores that hold tenants -/

def Read.Yields (read : Read σ β) (value : β) : Prop :=
  ∀ w, (read.run w).1 = .ok value ∨ (read.run w).1 = .error .canceled

structure Store.Holds (store : Store σ) (tenants : Tenants) : Prop where
  eventTypes : ∀ ctx scope, (store.eventTypes ctx scope).Yields (tenants.snapshot scope).types
  topPopular : ∀ ctx scope q, (store.topPopular ctx scope q).Yields
    ((tenants.snapshot scope).topPopular q ctx.now)
  coVisitors : ∀ ctx scope seed since limit, (store.coVisitors ctx scope seed since limit).Yields
    ((tenants.snapshot scope).coVisitors seed since ctx.now limit)
  recentItems : ∀ ctx scope user since limit types,
    (store.recentItems ctx scope user since limit types).Yields
      ((tenants.snapshot scope).recentItems user since ctx.now limit types)
  tagProfile : ∀ ctx scope user since types, (store.tagProfile ctx scope user since types).Yields
    ((tenants.snapshot scope).tagProfile user since ctx.now types)
  itemsByIds : ∀ ctx scope ids, (store.itemsByIds ctx scope ids).Yields
    ((tenants.snapshot scope).itemsByIds ids)
  itemsWithAnyTag : ∀ ctx scope tags limit, (store.itemsWithAnyTag ctx scope tags limit).Yields
    ((tenants.snapshot scope).itemsWithAnyTag tags limit)
  rulesFor : ∀ ctx scope surface, (store.rulesFor ctx scope surface).Yields
    ((tenants.snapshot scope).rulesFor scope.space surface ctx.now)
  recentEventItems : ∀ ctx scope user kinds since,
    (store.recentEventItems ctx scope user kinds since).Yields
      ((tenants.snapshot scope).recentEventItems user kinds since ctx.now)
  holdoutSamples : ∀ ctx scope since minEvents limit,
    (store.holdoutSamples ctx scope since minEvents limit).Yields
      ((tenants.snapshot scope).holdoutSamples since ctx.now minEvents limit)

theorem Read.Yields.eq_of_returns {read : Read σ β} {value b : β} {w w' : World σ}
    (h : read.Yields value) (hb : Returns read w b w') : b = value := by
  rw [Returns] at hb
  rcases h w with hvalue | hcanceled
  · rw [hb] at hvalue
    cases hvalue
    rfl
  · rw [hb] at hcanceled
    cases hcanceled

namespace Store

variable (tenants : Tenants) (ctx : Context) (scope : Scope) (f : Snapshot → β)

theorem run_answer (w : World σ) : (answer tenants ctx scope f : Read σ β).run w =
    (if ctx.isCanceledBy w.clock then .error .canceled else .ok (f (tenants.snapshot scope)), w) := by
  rw [answer, run_bind, Read.run_checkCanceled]
  cases ctx.isCanceledBy w.clock <;> rfl

theorem yields_answer : (answer tenants ctx scope f : Read σ β).Yields
    (f (tenants.snapshot scope)) := by
  intro w
  rw [run_answer]
  split
  · exact .inr rfl
  · exact .inl rfl

theorem holds_memory : (memory tenants : Store σ).Holds tenants where
  eventTypes ctx scope := yields_answer tenants ctx scope (·.types)
  topPopular ctx scope q := yields_answer tenants ctx scope (·.topPopular q ctx.now)
  coVisitors ctx scope seed since limit :=
    yields_answer tenants ctx scope (·.coVisitors seed since ctx.now limit)
  recentItems ctx scope user since limit types :=
    yields_answer tenants ctx scope (·.recentItems user since ctx.now limit types)
  tagProfile ctx scope user since types :=
    yields_answer tenants ctx scope (·.tagProfile user since ctx.now types)
  itemsByIds ctx scope ids := yields_answer tenants ctx scope (·.itemsByIds ids)
  itemsWithAnyTag ctx scope tags limit :=
    yields_answer tenants ctx scope (·.itemsWithAnyTag tags limit)
  rulesFor ctx scope surface :=
    yields_answer tenants ctx scope (·.rulesFor scope.space surface ctx.now)
  recentEventItems ctx scope user kinds since :=
    yields_answer tenants ctx scope (·.recentEventItems user kinds since ctx.now)
  holdoutSamples ctx scope since minEvents limit :=
    yields_answer tenants ctx scope (·.holdoutSamples since ctx.now minEvents limit)

end Store

/-! ### What snapshots hand back -/

namespace Snapshot

variable {s : Snapshot} {space surface : String} {now : Time.Instant} {rule : Rule}

theorem mem_rulesFor_iff : rule ∈ s.rulesFor space surface now ↔
    rule ∈ s.rules ∧ rule.space = space ∧ rule.holdsAt now = true ∧ rule.holdsOn surface = true := by
  simp [rulesFor, Rule.sort, and_assoc]

theorem contains_itemsByIds_iff {ids : List String} {id : String} :
    (s.itemsByIds ids).contains id = true ↔ id ∈ ids ∧ ∃ item ∈ s.items, item.id = id := by
  rw [Dictionary.contains, itemsByIds, Dictionary.get?_ofList, Option.isSome_map,
    List.find?_isSome]
  simp only [List.mem_reverse, List.mem_map, List.mem_filter, List.contains_iff_mem, beq_iff_eq]
  constructor
  · rintro ⟨_, ⟨item, ⟨hitem, hasked⟩, rfl⟩, rfl⟩
    exact ⟨hasked, item, hitem, rfl⟩
  · rintro ⟨hasked, item, hitem, rfl⟩
    exact ⟨_, ⟨item, ⟨hitem, hasked⟩, rfl⟩, rfl⟩

end Snapshot

/-- No rule that a snapshot hands back is outside the scope of the request. -/
theorem Ranked.isStray_of_mem_rulesFor {s : Snapshot} {ctx : Context} {input : RankInput α}
    {rule : Rule} (h : rule ∈ s.rulesFor input.scope.space input.surface ctx.now) :
    isStray ctx input rule = false := by
  obtain ⟨-, hspace, hactive, hsurface⟩ := Snapshot.mem_rulesFor_iff.1 h
  simp [isStray, hspace, hactive, hsurface]

/-! ### What is left to fail -/

/-- The codes of what a caller can bring about with any request. -/
def Failure.callerCodes : List String :=
  ["invalid_request", "missing_namespace", "limit_too_large", "invalid_blend", "canceled"]

theorem Failure.code_mem_of_status {f : Failure} (h : f.status = 400) : f.code ∈ callerCodes := by
  cases f <;> simp [status] at h <;> simp [code, callerCodes]

namespace Store

variable {store : Store σ} {tenants : Tenants} {ctx : Context} {scope : Scope}
  {user : Option String} {P : Failure → Prop}

def wanted (ctx : Context) : Region σ := ⟨fun clock => ctx.isCanceledBy clock = false, fun _ => True⟩

theorem stays_of_yields {read : Read σ β} {value : β} (h : read.Yields value)
    (hcanceled : P .canceled) : Stays .anywhere (fun err => P (.ofStore err)) read := by
  refine ⟨fun _ _ => ⟨trivial, trivial⟩, fun w _ err herr => ?_⟩
  rcases h w with hvalue | hcut
  · cases herr.symm.trans hvalue
  · cases herr.symm.trans hcut
    exact hcanceled

/-- Over a store that holds tenants nothing happens to the reads of a request except that
they are canceled. -/
theorem Holds.staysFor (h : store.Holds tenants) (hcanceled : P .canceled) :
    store.StaysFor .anywhere P ctx scope user where
  eventTypes := stays_of_yields (h.eventTypes _ _) hcanceled
  topPopular _ := stays_of_yields (h.topPopular _ _ _) hcanceled
  coVisitors _ _ _ := stays_of_yields (h.coVisitors _ _ _ _ _) hcanceled
  recentItems _ _ _ _ _ := stays_of_yields (h.recentItems _ _ _ _ _ _) hcanceled
  tagProfile _ _ _ _ := stays_of_yields (h.tagProfile _ _ _ _ _) hcanceled
  itemsByIds _ := stays_of_yields (h.itemsByIds _ _ _) hcanceled
  itemsWithAnyTag _ _ := stays_of_yields (h.itemsWithAnyTag _ _ _ _) hcanceled
  rulesFor _ := stays_of_yields (h.rulesFor _ _ _) hcanceled
  recentEventItems _ _ _ _ := stays_of_yields (h.recentEventItems _ _ _ _ _) hcanceled
  stop _ _ _ _ _ := trivial
  canceled _ _ _ := hcanceled
  stray := by
    intro surface w rules w' _ hrules rule hrule hstray
    rw [(h.rulesFor ctx scope surface).eq_of_returns hrules] at hrule
    exact absurd (Snapshot.mem_rulesFor_iff.1 hrule).2 hstray

theorem stays_answer (f : Snapshot → β) {Q : StoreError → Prop} :
    Stays (wanted ctx) Q (answer tenants ctx scope f : Read σ β) := by
  constructor
  · intro w hw
    rw [run_answer]
    exact hw
  · intro w hw err herr
    have hwanted : ctx.isCanceledBy w.clock = false := hw.clock
    rw [run_answer, hwanted] at herr
    cases herr

/-- As long as a request is wanted, nothing at all happens to its reads in memory. -/
theorem staysFor_memory : (memory tenants : Store σ).StaysFor (wanted ctx) P ctx scope user where
  eventTypes := stays_answer (·.types)
  topPopular q := stays_answer (·.topPopular q ctx.now)
  coVisitors seed since limit := stays_answer (·.coVisitors seed since ctx.now limit)
  recentItems user since limit types _ := stays_answer (·.recentItems user since ctx.now limit types)
  tagProfile user since types _ := stays_answer (·.tagProfile user since ctx.now types)
  itemsByIds ids := stays_answer (·.itemsByIds ids)
  itemsWithAnyTag tags limit := stays_answer (·.itemsWithAnyTag tags limit)
  rulesFor surface := stays_answer (·.rulesFor scope.space surface ctx.now)
  recentEventItems user kinds since _ := stays_answer (·.recentEventItems user kinds since ctx.now)
  stop := by
    intro clock stop hclock hstop hle
    have hcanceled : ctx.isCanceledBy clock = true := by
      simp [Context.isCanceledBy, hstop, hle]
    cases hcanceled.symm.trans hclock
  canceled := by
    intro clock hclock hcanceled
    cases hcanceled.symm.trans hclock
  stray := by
    intro surface w rules w' _ hrules rule hrule hstray
    rw [((holds_memory tenants).rulesFor ctx scope surface).eq_of_returns hrules] at hrule
    exact absurd (Snapshot.mem_rulesFor_iff.1 hrule).2 hstray

end Store

/-! ### Requests -/

namespace Engine

variable [Score α] {e : Engine σ} {tenants : Tenants} {ctx : Context} {w : World σ} {f : Failure}

theorem code_of_recommend (hstore : e.store.Holds tenants) {r : RecommendRequest α}
    (h : (e.recommend ctx r w).1.answer = .error f) : f.code ∈ Failure.callerCodes := by
  have hcanceled : Failure.canceled.code ∈ Failure.callerCodes := by decide
  have hsteps : Stays .anywhere (fun f => f.code ∈ Failure.callerCodes)
      (e.recommendSteps ctx r) :=
    stays_recommendSteps (hstore.staysFor hcanceled)
      fun _ hcheck => Failure.code_mem_of_status (status_of_check hcheck)
  exact (recommend_stays hsteps ⟨trivial, trivial⟩).2 f h

theorem code_of_similar (hstore : e.store.Holds tenants) {r : SimilarRequest}
    (h : (e.similar ctx r w : Served α × World σ).1.answer = .error f) :
    f.code ∈ "not_found" :: Failure.callerCodes := by
  have hcanceled : Failure.canceled.code ∈ "not_found" :: Failure.callerCodes := by decide
  have hsteps : Stays .anywhere (fun f => f.code ∈ "not_found" :: Failure.callerCodes)
      (e.similarSteps ctx r : Step σ (Served α)) :=
    stays_similarSteps (hstore.staysFor hcanceled)
      (fun _ hcheck => List.mem_cons_of_mem _
        (Failure.code_mem_of_status (status_of_checkSimilar hcheck)))
      fun _ _ _ _ _ _ => List.mem_cons_self
  exact (similar_stays hsteps ⟨trivial, trivial⟩).2 f h

/-! ### Requests over memory -/

omit [Score α] in
theorem answer_serve_of_error {steps : Step σ (Served α)} (h : (steps.run w).1 = .error f) :
    (serve steps w).1.answer = .error f := by
  rw [run_serve]
  generalize steps.run w = ended at h
  obtain ⟨_, w'⟩ := ended
  cases h
  rfl

section Recommend

variable {r : RecommendRequest α}

theorem answer_recommend_of_check (h : e.check r = .error f) :
    (e.recommend ctx r w).1.answer = .error f := by
  have hcheck : ((liftM (e.check r) : Step σ (Checked α)).run w).1 = .error f := by
    rw [h]
    rfl
  rw [recommend]
  exact answer_serve_of_error (fst_run_bind_of_error hcheck)

variable {checked : Checked α} (hcheck : e.check r = .ok checked)
include hcheck

theorem answer_recommend_of_canceled (hstore : e.store.HeedsCancellation)
    (hcanceled : ctx.isCanceledBy w.clock = true) :
    (e.recommend ctx r w).1.answer = .error .canceled := by
  have hpasses : (liftM (e.check r) : Step σ (Checked α)).run w = (.ok checked, w) := by
    rw [hcheck]
    rfl
  have htypes := hstore.eventTypes (contextOf ctx r.asOf)
    ⟨(contextOf ctx r.asOf).org, checked.space⟩ w
    ((isCanceledBy_contextOf ctx r.asOf _).trans hcanceled)
  rw [recommend]
  refine answer_serve_of_error ?_
  rw [recommendSteps, run_bind, hpasses]
  exact fst_run_bind_of_error (fst_run_step_of_error htypes)

theorem exists_answer_recommend (hstore : e.store = .memory tenants)
    (hwanted : ctx.isCanceledBy w.clock = false) : ∃ a, (e.recommend ctx r w).1.answer = .ok a := by
  have hreads : e.store.StaysFor (Store.wanted (contextOf ctx r.asOf)) (fun _ => False)
      (contextOf ctx r.asOf) ⟨ctx.org, Text.trim r.space⟩ (some (Text.trim r.userId)) := by
    rw [hstore]
    exact Store.staysFor_memory
  -- With nothing that failures could satisfy, to stay in the region is not to fail.
  have hsteps := stays_recommendSteps hreads fun f hf => by cases hcheck.symm.trans hf
  have hbegins : (Store.wanted (contextOf ctx r.asOf)).Has w :=
    ⟨(isCanceledBy_contextOf ctx r.asOf _).trans hwanted, trivial⟩
  cases hanswer : (e.recommend ctx r w).1.answer with
  | ok a => exact ⟨a, rfl⟩
  | error f => exact ((recommend_stays hsteps hbegins).2 f hanswer).elim

end Recommend

section Similar

variable {r : SimilarRequest}

theorem answer_similar_of_check (h : e.checkSimilar r = .error f) :
    (e.similar ctx r w : Served α × World σ).1.answer = .error f := by
  have hcheck : ((liftM (e.checkSimilar r) : Step σ CheckedSimilar).run w).1 = .error f := by
    rw [h]
    rfl
  rw [similar]
  exact answer_serve_of_error (fst_run_bind_of_error hcheck)

variable {checked : CheckedSimilar} (hcheck : e.checkSimilar r = .ok checked)
include hcheck

theorem answer_similar_of_findSeed
    (hfind : ((e.findSeed ctx checked).run w).1 = .error f) :
    (e.similar ctx r w : Served α × World σ).1.answer = .error f := by
  have hpasses : (liftM (e.checkSimilar r) : Step σ CheckedSimilar).run w = (.ok checked, w) := by
    rw [hcheck]
    rfl
  rw [similar]
  refine answer_serve_of_error ?_
  rw [similarSteps, run_bind, hpasses]
  exact fst_run_bind_of_error hfind

theorem answer_similar_of_canceled (hstore : e.store.HeedsCancellation)
    (hcanceled : ctx.isCanceledBy w.clock = true) :
    (e.similar ctx r w : Served α × World σ).1.answer = .error .canceled := by
  have hitems := hstore.itemsByIds ctx ⟨ctx.org, checked.space⟩ [checked.seed] w hcanceled
  exact answer_similar_of_findSeed hcheck (fst_run_bind_of_error (fst_run_step_of_error hitems))

variable (hstore : e.store = .memory tenants) (hwanted : ctx.isCanceledBy w.clock = false)
include hstore hwanted

theorem answer_similar_of_unknown
    (hunknown : ¬∃ item ∈ (tenants.snapshot ⟨ctx.org, checked.space⟩).items,
      item.id = checked.seed) :
    (e.similar ctx r w : Served α × World σ).1.answer =
      .error (.notFound ("item " ++ checked.seed)) := by
  have hitems : Returns (e.store.itemsByIds ctx ⟨ctx.org, checked.space⟩ [checked.seed]) w
      ((tenants.snapshot ⟨ctx.org, checked.space⟩).itemsByIds [checked.seed]) w := by
    have hrun := Store.run_answer tenants ctx ⟨ctx.org, checked.space⟩
      (·.itemsByIds [checked.seed]) w
    rw [hwanted] at hrun
    rw [hstore]
    exact hrun
  have hlacks : ((tenants.snapshot ⟨ctx.org, checked.space⟩).itemsByIds [checked.seed]).contains
      checked.seed = false := by
    rw [← Bool.not_eq_true, Snapshot.contains_itemsByIds_iff]
    exact fun h => hunknown h.2
  refine answer_similar_of_findSeed hcheck ?_
  rw [findSeed, run_bind, returns_step_iff.2 hitems]
  dsimp only
  rw [hlacks]
  rfl

theorem exists_answer_similar
    (hknown : ∃ item ∈ (tenants.snapshot ⟨ctx.org, checked.space⟩).items, item.id = checked.seed) :
    ∃ a, (e.similar ctx r w : Served α × World σ).1.answer = .ok a := by
  obtain ⟨-, -, -, hchecked⟩ := checkSimilar_eq_ok_iff.1 hcheck
  have hreads : e.store.StaysFor (Store.wanted ctx) (fun _ => False) ctx
      ⟨ctx.org, Text.trim r.space⟩ none := by
    rw [hstore]
    exact Store.staysFor_memory
  have hsteps : Stays (Store.wanted ctx) (fun _ => False)
      (e.similarSteps ctx r : Step σ (Served α)) := by
    refine stays_similarSteps hreads (fun f hf => by cases hcheck.symm.trans hf) ?_
    intro w₁ items w₂ _ hitems hmissing
    rw [hstore] at hitems
    have heq := ((Store.holds_memory tenants).itemsByIds ctx _ _).eq_of_returns hitems
    have hhas := Snapshot.contains_itemsByIds_iff.2 ⟨List.mem_singleton_self _, hknown⟩
    rw [hchecked] at hhas
    rw [heq] at hmissing
    cases hhas.symm.trans hmissing
  have hbegins : (Store.wanted ctx).Has w := ⟨hwanted, trivial⟩
  cases hanswer : (e.similar ctx r w : Served α × World σ).1.answer with
  | ok a => exact ⟨a, rfl⟩
  | error f => exact ((similar_stays hsteps hbegins).2 f hanswer).elim

end Similar

/-- Why a request for a user over memory is not answered: it does not pass its check, or it
is canceled. -/
def recommendFault (e : Engine σ) (ctx : Context) (r : RecommendRequest α) (w : World σ) :
    Option Failure :=
  match e.check r with
  | .error f => some f
  | .ok _ => if ctx.isCanceledBy w.clock then some .canceled else none

/-- Why a request for items like another is not answered: the item may also be unknown. -/
def similarFault (e : Engine σ) (tenants : Tenants) (ctx : Context) (r : SimilarRequest)
    (w : World σ) : Option Failure :=
  match e.checkSimilar r with
  | .error f => some f
  | .ok checked =>
    if ctx.isCanceledBy w.clock then some .canceled
    else if (tenants.snapshot ⟨ctx.org, checked.space⟩).items.any (·.id == checked.seed) then none
    else some (.notFound ("item " ++ checked.seed))

def EndsBy (served : Served α) : Option Failure → Prop
  | some f => served.answer = .error f
  | none => ∃ a, served.answer = .ok a

theorem endsBy_recommendFault (settings : Settings) (r : RecommendRequest α) :
    EndsBy ((overMemory settings tenants).recommend ctx r w).1
      ((overMemory settings tenants : Engine σ).recommendFault ctx r w) := by
  rw [recommendFault]
  cases hcheck : (overMemory settings tenants : Engine σ).check r with
  | error f => exact answer_recommend_of_check hcheck
  | ok checked =>
      -- Memory takes no time: a request that is wanted when it begins stays wanted.
      cases hcanceled : ctx.isCanceledBy w.clock with
      | true =>
          exact answer_recommend_of_canceled hcheck (Store.heedsCancellation_memory tenants)
            hcanceled
      | false => exact exists_answer_recommend hcheck rfl hcanceled

theorem endsBy_similarFault (settings : Settings) (r : SimilarRequest) :
    EndsBy ((overMemory settings tenants).similar ctx r w : Served α × World σ).1
      ((overMemory settings tenants : Engine σ).similarFault tenants ctx r w) := by
  rw [similarFault]
  cases hcheck : (overMemory settings tenants : Engine σ).checkSimilar r with
  | error f => exact answer_similar_of_check hcheck
  | ok checked =>
      cases hcanceled : ctx.isCanceledBy w.clock with
      | true =>
          exact answer_similar_of_canceled hcheck (Store.heedsCancellation_memory tenants)
            hcanceled
      | false =>
          dsimp only
          simp only [List.any_eq_true, beq_iff_eq, Bool.false_eq_true, if_false]
          split
          · rename_i hknown
            exact exists_answer_similar hcheck rfl hcanceled hknown
          · rename_i hunknown
            exact answer_similar_of_unknown hcheck rfl hcanceled hunknown

/-- Over a store that holds its tenants in memory, whatever time its reads take, requests
fail by what their callers do: no request ends as unavailable, as a failure of the store
or with an alarm of the engine, and no rule is handed back that the engine would take for
stray. Over memory itself, a request fails just as its check does or as canceled, one for
items like another also for want of that item, and every other request is answered. -/
theorem callers_alone_fail_requests (settings : Settings) (tenants : Tenants) (ctx : Context)
    (w : World σ) :
    (∀ store : Store σ, store.Holds tenants →
      (∀ (r : RecommendRequest α) f,
          ((Engine.mk settings store).recommend ctx r w).1.answer = .error f →
            f.code ∈ Failure.callerCodes) ∧
        (∀ (r : SimilarRequest) f,
          ((Engine.mk settings store).similar ctx r w : Served α × World σ).1.answer = .error f →
            f.code ∈ "not_found" :: Failure.callerCodes) ∧
        ∀ (input : RankInput α) (rules : List Rule) (w' : World σ),
          Returns (store.rulesFor ctx input.scope input.surface) w rules w' →
            ∀ rule ∈ rules, Ranked.isStray ctx input rule = false) ∧
      (Store.memory tenants : Store σ).Holds tenants ∧
      (∀ r : RecommendRequest α, EndsBy ((overMemory settings tenants).recommend ctx r w).1
        ((overMemory settings tenants : Engine σ).recommendFault ctx r w)) ∧
      ∀ r : SimilarRequest,
        EndsBy ((overMemory settings tenants).similar ctx r w : Served α × World σ).1
          ((overMemory settings tenants : Engine σ).similarFault tenants ctx r w) := by
  refine ⟨fun store hstore => ⟨fun r f => ?_, fun r f => ?_, ?_⟩, Store.holds_memory tenants,
    endsBy_recommendFault settings, endsBy_similarFault settings⟩
  · exact code_of_recommend (e := ⟨settings, store⟩) hstore
  · exact code_of_similar (e := ⟨settings, store⟩) hstore
  · intro input rules w' hrules rule hrule
    rw [(hstore.rulesFor ctx input.scope input.surface).eq_of_returns hrules] at hrule
    exact Ranked.isStray_of_mem_rulesFor hrule

def frontRule : Rule :=
  { id := .none, space := "shop", surface := " HOME ", target := .items ["shoe"], action := .pin 1 }

/-- A shop with a rule for its front page, one that has been switched off and one of another
shop. -/
def ruledShop : Snapshot :=
  { items := [{ id := "shoe" }]
    rules := [frontRule, { frontRule with enabled := false }, { frontRule with space := "toys" }] }

def ruledShops : Tenants := [(⟨.none, "shop"⟩, ruledShop)]

def noon : Context := { org := .none, now := ⟨43200, 0⟩ }

def frontPage : RecommendRequest Float :=
  { userId := "ann", space := "shop", surface := some "home", k := 2 }

def frontInput : RankInput Float :=
  (overMemory {} ruledShops : Engine Unit).rankInput noon frontPage
    ⟨"ann", "shop", 2, ⟨1.0, 0.1, 0.1⟩⟩ ruledShop.types

/-- The front page of the shop is answered under its own rule; a list that is too long and
items like one that the shop does not have are refused. -/
theorem callers_alone_fail_requests_ruledShops :
    (∃ a, ((overMemory {} ruledShops : Engine Unit).recommend noon frontPage ⟨0, ()⟩).1.answer =
        .ok a) ∧
      (∃ f, ((overMemory {} ruledShops : Engine Unit).recommend noon { frontPage with k := 1000 }
          ⟨0, ()⟩).1.answer = .error f ∧ f.code ∈ Failure.callerCodes) ∧
      (∃ f, ((overMemory {} ruledShops : Engine Unit).similar noon
          { itemId := "boot", space := "shop", k := 2 } ⟨0, ()⟩ :
            Served Float × World Unit).1.answer = .error f ∧
          f.code ∈ "not_found" :: Failure.callerCodes) ∧
      Returns ((Store.memory ruledShops : Store Unit).rulesFor noon ⟨.none, "shop"⟩ "home") ⟨0, ()⟩
        [frontRule] ⟨0, ()⟩ ∧
      Ranked.isStray noon frontInput frontRule = false := by
  obtain ⟨hholds, hmemory, hrecommend, hsimilar⟩ :=
    callers_alone_fail_requests (α := Float) {} ruledShops noon (⟨0, ()⟩ : World Unit)
  obtain ⟨hcode, hcodeOfSimilar, hrules⟩ := hholds _ hmemory
  have hanswered : (overMemory {} ruledShops : Engine Unit).recommendFault noon frontPage ⟨0, ()⟩ =
      none := by decide +kernel
  have hlong : (overMemory {} ruledShops : Engine Unit).recommendFault noon
      { frontPage with k := 1000 } ⟨0, ()⟩ = some (.limitTooLarge 1000 100) := by decide +kernel
  have hunknown : (overMemory {} ruledShops : Engine Unit).similarFault ruledShops noon
      { itemId := "boot", space := "shop", k := 2 } ⟨0, ()⟩ = some (.notFound "item boot") := by
    decide +kernel
  have hfront := hrecommend frontPage
  have htoolong := hrecommend { frontPage with k := 1000 }
  have hboot := hsimilar { itemId := "boot", space := "shop", k := 2 }
  rw [hanswered] at hfront
  rw [hlong] at htoolong
  rw [hunknown] at hboot
  have hread : Returns ((Store.memory ruledShops : Store Unit).rulesFor noon ⟨.none, "shop"⟩ "home")
      ⟨0, ()⟩ [frontRule] ⟨0, ()⟩ := rfl
  exact ⟨hfront, ⟨_, htoolong, hcode _ _ htoolong⟩, ⟨_, hboot, hcodeOfSimilar _ _ hboot⟩, hread,
    hrules frontInput _ _ hread _ (List.mem_singleton_self _)⟩

end Engine

end Recommendation
