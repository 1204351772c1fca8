import Recommendation.Proofs.Engine.Confinement
import Recommendation.Proofs.Engine.Reach
import Recommendation.Proofs.Settings
import Recommendation.Proofs.Time.Windows

/-!
Which requests come to an end in spite of their windows. A request asks the store for no
windows but those that its settings give the length of. If these begin in the calendar,
nothing breaks down: the reads are those of a store that notes no windows at all. Where a
signal is asked for a window that begins outside the calendar, the note is made as soon
as the signal is asked, and it is never taken back.
-/

namespace Recommendation

open Time (Instant)

variable {ε σ α β γ : Type}

/-! ### Backends with a note -/

/-- The worlds in which a window outside the calendar has been asked for, or has not. -/
def Dated.noted (overrun : Bool) : Region (Dated σ) := ⟨fun _ => True, (·.overrun = overrun)⟩

/-- The computation asks for a window outside the calendar, whatever it comes to. -/
def Notes (m : ExceptT ε (StateM (World (Dated σ))) α) : Prop :=
  ∀ w, (m.run w).2.backend.overrun = true

theorem Notes.bind {P : ε → Prop} {m : ExceptT ε (StateM (World (Dated σ))) α}
    {f : α → ExceptT ε (StateM (World (Dated σ))) β} (hm : Notes m)
    (hf : ∀ a, Stays (Dated.noted true) P (f a)) : Notes (m >>= f) :=
  fun w => (Stays.ends_bind (⟨trivial, hm w⟩ : (Dated.noted true).Has _) hf).backend

namespace Read

variable {read : Read σ α} {start : Instant}

theorem run_dated (since : Option Instant) (read : Read σ α) (w : World (Dated σ)) :
    (read.dated since).run w =
      ((read.run ⟨w.clock, w.backend.backend⟩).1,
        ⟨(read.run ⟨w.clock, w.backend.backend⟩).2.clock,
          ⟨(read.run ⟨w.clock, w.backend.backend⟩).2.backend,
            w.backend.overrun || !since.all (·.isRepresentable)⟩⟩) := rfl

/-- A window that begins in the calendar is as good as none. -/
theorem dated_eq (read : Read σ α) (h : start.isRepresentable = true) :
    read.dated (some start) = read.dated none := by
  simp [dated, h]

theorem notes_dated (h : start.isRepresentable = false) : Notes (read.dated (some start)) := by
  intro w
  simp [run_dated, h]

variable {P : StoreError → Prop}

theorem stays_dated_none (overrun : Bool) (h : ∀ e, P e) :
    Stays (Dated.noted overrun) P (read.dated none) where
  ends w hw := ⟨trivial, by simpa [run_dated, Dated.noted] using hw.backend⟩
  fails _ _ e _ := h e

/-- A note is never taken back. -/
theorem stays_dated (since : Option Instant) (h : ∀ e, P e) :
    Stays (Dated.noted true) P (read.dated since) where
  ends w hw := by
    have hnoted : w.backend.overrun = true := hw.backend
    exact ⟨trivial, by simp [run_dated, Dated.noted, hnoted]⟩
  fails _ _ e _ := h e

end Read

namespace Store

variable (store : Store σ) (ctx : Context) (scope : Scope) (user : Option String)

/-- The store over a backend with a note, to which its reads add nothing. -/
def undated (store : Store σ) : Store (Dated σ) where
  eventTypes ctx scope := (store.eventTypes ctx scope).dated none
  topPopular ctx scope q := (store.topPopular ctx scope q).dated none
  coVisitors ctx scope seed since limit := (store.coVisitors ctx scope seed since limit).dated none
  recentItems ctx scope user since limit types :=
    (store.recentItems ctx scope user since limit types).dated none
  tagProfile ctx scope user since types := (store.tagProfile ctx scope user since types).dated none
  itemsByIds ctx scope ids := (store.itemsByIds ctx scope ids).dated none
  itemsWithAnyTag ctx scope tags limit := (store.itemsWithAnyTag ctx scope tags limit).dated none
  rulesFor ctx scope surface := (store.rulesFor ctx scope surface).dated none
  recentEventItems ctx scope user kinds since :=
    (store.recentEventItems ctx scope user kinds since).dated none
  holdoutSamples ctx scope since minEvents limit :=
    (store.holdoutSamples ctx scope since minEvents limit).dated none

theorem agreesAt_undated :
    store.dated.AgreesAt store.undated ctx scope (·.isRepresentable = true) where
  eventTypes := rfl
  topPopular _ h := Read.dated_eq _ h
  coVisitors _ _ _ h := Read.dated_eq _ h
  recentItems _ _ _ _ h := Read.dated_eq _ h
  tagProfile _ _ _ h := Read.dated_eq _ h
  itemsByIds _ := rfl
  itemsWithAnyTag _ _ := rfl
  rulesFor _ := rfl
  recentEventItems _ _ _ h := Read.dated_eq _ h

theorem undated_staysFor (overrun : Bool) :
    store.undated.StaysFor (Dated.noted overrun) (fun _ => True) ctx scope user where
  eventTypes := Read.stays_dated_none overrun fun _ => trivial
  topPopular _ := Read.stays_dated_none overrun fun _ => trivial
  coVisitors _ _ _ := Read.stays_dated_none overrun fun _ => trivial
  recentItems _ _ _ _ _ := Read.stays_dated_none overrun fun _ => trivial
  tagProfile _ _ _ _ := Read.stays_dated_none overrun fun _ => trivial
  itemsByIds _ := Read.stays_dated_none overrun fun _ => trivial
  itemsWithAnyTag _ _ := Read.stays_dated_none overrun fun _ => trivial
  rulesFor _ := Read.stays_dated_none overrun fun _ => trivial
  recentEventItems _ _ _ _ := Read.stays_dated_none overrun fun _ => trivial
  stop _ _ _ _ _ := trivial
  canceled _ _ _ := trivial
  stray _ _ _ _ _ _ _ _ _ _ := trivial

theorem dated_staysFor :
    store.dated.StaysFor (Dated.noted true) (fun _ => True) ctx scope user where
  eventTypes := Read.stays_dated _ fun _ => trivial
  topPopular _ := Read.stays_dated _ fun _ => trivial
  coVisitors _ _ _ := Read.stays_dated _ fun _ => trivial
  recentItems _ _ _ _ _ := Read.stays_dated _ fun _ => trivial
  tagProfile _ _ _ _ := Read.stays_dated _ fun _ => trivial
  itemsByIds _ := Read.stays_dated _ fun _ => trivial
  itemsWithAnyTag _ _ := Read.stays_dated _ fun _ => trivial
  rulesFor _ := Read.stays_dated _ fun _ => trivial
  recentEventItems _ _ _ _ := Read.stays_dated _ fun _ => trivial
  stop _ _ _ _ _ := trivial
  canceled _ _ _ := trivial
  stray _ _ _ _ _ _ _ _ _ _ := trivial

end Store

/-! ### Side by side -/

section SideBySide

variable {Q : StoreError → Prop}

/-- What one computation leaves of the backend, and none of the others takes away, is left in the
end. -/
theorem Timed.backend_leftBy {f : γ → Timed σ α} {P : σ → Prop}
    (hkeep : ∀ x w, P w.backend → P (f x w).2.backend) {x : γ}
    (hends : ∀ w, P (f x w).2.backend) {xs : List γ} (hmem : x ∈ xs) (w : World σ) :
    P (leftBy f xs w).backend := by
  induction xs generalizing w with
  | nil => cases hmem
  | cons y rest ih =>
      rcases List.mem_cons.1 hmem with rfl | hmem
      · have hkept : ∀ x w, (⟨fun _ => True, P⟩ : Region σ).Has w →
            (⟨fun _ => True, P⟩ : Region σ).Has (f x w).2 :=
          fun x w hw => ⟨trivial, hkeep x w hw.backend⟩
        have hnext : (⟨fun _ => True, P⟩ : Region σ).Has { (f x w).2 with clock := w.clock } :=
          ⟨trivial, hends w⟩
        exact (has_begun hkept rest hnext).2.backend
      · exact ih hmem _

/-- A request that is not canceled before it waits leaves the backend as what it waits for does. -/
theorem Timed.backend_unlessCanceled {ctx : Context} {m : Timed σ α} {w : World σ}
    (h : ctx.isCanceledBy w.clock = false) :
    (unlessCanceled ctx m w).2.backend = (m w).2.backend := by
  cases hstop : ctx.stop? with
  | none =>
      simp only [unlessCanceled, hstop]
      rfl
  | some stop =>
      rw [Context.isCanceledBy_eq hstop, decide_eq_false_iff_not] at h
      rw [unlessCanceled_of_stop hstop, if_neg h]
      split <;> rfl

theorem Read.notes_all {f : γ → Read (Dated σ) β} (hkeep : ∀ x, Stays (Dated.noted true) Q (f x))
    {x : γ} (hnotes : Notes (f x)) {xs : List γ} (hmem : x ∈ xs) : Notes (Read.all (xs.map f)) := by
  intro w
  have hleft := Timed.backend_leftBy (f := fun x => (f x).run) (P := (·.overrun = true))
    (fun x w hw => ((hkeep x).ends w ⟨trivial, hw⟩).backend) hnotes hmem w
  rw [run_all_map]
  split <;> exact hleft

theorem Proposals.overrun_collect {f : γ → Read (Dated σ) (CandidateSet α)}
    (hkeep : ∀ x, Stays (Dated.noted true) Q (f x)) {x : γ} (hnotes : Notes (f x)) {xs : List γ}
    (hmem : x ∈ xs) {ctx : Context} {w : World (Dated σ)} (h : ctx.isCanceledBy w.clock = false) :
    ((collect ctx (xs.map fun x => (f x).run)).run w).2.backend.overrun = true := by
  have hleft := Timed.backend_leftBy (f := fun x => (f x).run) (P := (·.overrun = true))
    (fun x w hw => ((hkeep x).ends w ⟨trivial, hw⟩).backend) hnotes hmem w
  have hbackend := Timed.backend_unlessCanceled (m := Timed.all (xs.map fun x => (f x).run)) h
  rw [Timed.all_map] at hbackend
  rw [run_collect]
  generalize Timed.unlessCanceled ctx _ w = waited at hbackend ⊢
  have hnoted := (congrArg Dated.overrun hbackend).trans hleft
  rcases waited with ⟨_ | results, w'⟩ <;> exact hnoted

end SideBySide

/-! ### Signals -/

def SignalInput.Feeds (input : SignalInput) : Signal → Prop
  | .popularity => True
  | .coVisitation => match input.seeds with
    | some ids => ids ≠ []
    | none => input.user.isSome = true
  | .profile => input.user.isSome = true

section Signals

variable [Score α] {settings : Settings} {store : Store σ} {ctx : Context} {input : SignalInput}

theorem Signal.notes_coVisited (hinput : input.Feeds .coVisitation)
    (hstart : (ctx.now.minusDays settings.coVisitationWindow).isRepresentable = false) :
    Notes (coVisited settings store.dated ctx input : Read (Dated σ) (CandidateSet α)) := by
  have hreads := store.dated_staysFor ctx input.scope input.user
  rw [SignalInput.Feeds] at hinput
  split at hinput
  · rename_i ids hids
    -- The request names the seeds, and each of them is looked up.
    obtain ⟨id, rest, rfl⟩ := List.exists_cons_of_ne_nil hinput
    intro w
    have hseeds : (seeds settings store.dated ctx input : Read (Dated σ) (List (Seed α))) =
        pure ((id :: rest).map fun id => (id, Score.one)) := by
      simp only [seeds, hids]
    have hnotes : Notes (Read.all (((id :: rest).map fun id => (id, Score.one)).map
        fun s : Seed α => store.dated.coVisitors ctx input.scope s.1
          (ctx.now.minusDays settings.coVisitationWindow) settings.coVisitationFanout)) :=
      Read.notes_all (f := fun s : Seed α => store.dated.coVisitors ctx input.scope s.1 _ _)
        (fun _ => hreads.coVisitors _ _ _) (Read.notes_dated hstart) List.mem_cons_self
    rw [coVisited, hseeds, pure_bind]
    exact hnotes.bind (P := fun _ => True) (fun _ => stays_pure _) w
  · rename_i hids
    obtain ⟨user, huser⟩ := Option.isSome_iff_exists.1 hinput
    have hseeds : Notes (seeds settings store.dated ctx input : Read (Dated σ) (List (Seed α))) := by
      simp only [seeds, hids, huser]
      exact (Read.notes_dated hstart).bind (P := fun _ => True) fun _ => stays_pure _
    refine hseeds.bind (P := fun _ => True) fun seeds => ?_
    split
    · exact stays_pure _
    · exact (Read.stays_all (fun _ => hreads.coVisitors _ _ _) seeds).bind fun _ => stays_pure _

theorem Signal.notes_interesting (hinput : input.Feeds .profile)
    (hstart : (ctx.now.minusDays settings.profileWindow).isRepresentable = false) :
    Notes (interesting settings store.dated ctx input : Read (Dated σ) (CandidateSet α)) := by
  have hreads := store.dated_staysFor ctx input.scope input.user
  obtain ⟨user, huser⟩ := Option.isSome_iff_exists.1 hinput
  simp only [interesting, huser]
  refine (Read.notes_dated hstart).bind (P := fun _ => True) fun history => ?_
  split
  · exact stays_pure _
  · refine (stays_attenuation hreads huser).bind fun _ => ?_
    exact (hreads.itemsWithAnyTag _ _).bind fun _ => stays_pure _

/-- A signal whose window begins outside the calendar is asked in vain. -/
theorem Proposals.notes_ask {signal : Signal} (hinput : input.Feeds signal)
    (hstart : (ctx.now.minusDays (signal.window settings)).isRepresentable = false) :
    Notes (ask settings store.dated ctx input signal : Read (Dated σ) (CandidateSet α)) := by
  cases signal with
  | popularity => exact (Read.notes_dated hstart).bind (P := fun _ => True) fun _ => stays_pure _
  | coVisitation => exact Signal.notes_coVisited hinput hstart
  | profile => exact Signal.notes_interesting hinput hstart

end Signals

/-! ### Requests -/

namespace Engine

variable [Score α] {e : Engine σ} {ctx : Context} {w : World σ}

def begins (w : World σ) : World (Dated σ) := ⟨w.clock, { backend := w.backend }⟩

theorem has_begins (w : World σ) : (Dated.noted false).Has (begins w) := ⟨trivial, rfl⟩

omit [Score α] in
theorem completed?_isSome_iff {m : Timed (Dated σ) α} :
    (m.completed? w).isSome = true ↔ (m (begins w)).2.backend.overrun = false := by
  rw [Timed.completed?, begins]
  obtain ⟨a, clock, backend, overrun⟩ := m _
  cases overrun <;> simp

omit [Score α] in
theorem completed?_eq_none_iff {m : Timed (Dated σ) α} :
    m.completed? w = none ↔ (m (begins w)).2.backend.overrun = true := by
  rw [← Bool.not_eq_false, ← completed?_isSome_iff, Option.not_isSome_iff_eq_none]

omit [Score α] in
theorem has_serve {region : Region σ} {steps : Step σ (Served α)}
    (h : region.Has (steps.run w).2) : region.Has (serve steps w).2 := by
  rw [run_serve]
  generalize steps.run w = ended at h ⊢
  rcases ended with ⟨_ | _, w'⟩ <;> exact h

/-- The list for a user comes about if all windows of the settings begin in the calendar. -/
theorem recommend_dated_completes (r : RecommendRequest α)
    (h : ∀ days ∈ e.settings.windows,
      ((contextOf ctx r.asOf).now.minusDays days).isRepresentable = true) :
    ((e.dated.recommend ctx r).completed? w).isSome = true := by
  have hsteps : e.dated.recommendSteps ctx r =
      (Engine.mk e.settings e.store.undated).recommendSteps ctx r :=
    recommendSteps_congr r (e.store.agreesAt_undated _ _) h
  have hstays : Stays (Dated.noted false) (fun _ => True)
      ((Engine.mk e.settings e.store.undated).recommendSteps ctx r) :=
    stays_recommendSteps (e.store.undated_staysFor _ _ _ false) fun _ _ => trivial
  rw [completed?_isSome_iff, recommend, hsteps]
  exact (has_serve (hstays.ends _ (has_begins w))).backend

theorem similar_dated_completes (α : Type) [Score α] (r : SimilarRequest)
    (h : (ctx.now.minusDays e.settings.coVisitationWindow).isRepresentable = true) :
    ((e.dated.similar ctx r : Timed (Dated σ) (Served α)).completed? w).isSome = true := by
  have hsteps : (e.dated.similarSteps ctx r : Step (Dated σ) (Served α)) =
      (Engine.mk e.settings e.store.undated).similarSteps ctx r :=
    similarSteps_congr r (e.store.agreesAt_undated _ _) h
  have hstays : Stays (Dated.noted false) (fun _ => True)
      ((Engine.mk e.settings e.store.undated).similarSteps ctx r : Step (Dated σ) (Served α)) :=
    stays_similarSteps (e.store.undated_staysFor _ _ _ false) (fun _ _ => trivial)
      fun _ _ _ _ _ _ => trivial
  rw [completed?_isSome_iff, similar, hsteps]
  exact (has_serve (hstays.ends _ (has_begins w))).backend

/-! ### Requests that break down -/

omit [Score α] in
theorem returns_dated {read : Read σ α} {a : α} {w' : World σ} (h : Returns read w a w') :
    Returns (read.dated none) (begins w) a (begins w') := by
  have hrun : read.run ⟨w.clock, w.backend⟩ = (.ok a, w') := h
  rw [Returns, Read.run_dated, begins]
  dsimp only
  rw [hrun]
  rfl

/-- A request that passes and reads the kinds of events asks its signals, unless it is canceled by
then. If one of them has a window that begins outside the calendar, the request breaks down. -/
theorem recommend_dated_breaks {r : RecommendRequest α} {checked : Checked α} {types : EventTypes}
    {w₁ : World σ} (hcheck : e.check r = .ok checked)
    (htypes : Returns (e.store.eventTypes (contextOf ctx r.asOf)
      ⟨(contextOf ctx r.asOf).org, checked.space⟩) w types w₁)
    (hbefore : (contextOf ctx r.asOf).isCanceledBy w₁.clock = false) {signal : Signal}
    (hactive : signal ∈ e.activeSignals checked)
    (hstart : ((contextOf ctx r.asOf).now.minusDays (signal.window e.settings)).isRepresentable =
      false) : (e.dated.recommend ctx r).completed? w = none := by
  have hreads := e.store.dated_staysFor (contextOf ctx r.asOf)
    ⟨(contextOf ctx r.asOf).org, checked.space⟩ (some checked.user)
  have hfeeds : (signalInput (contextOf ctx r.asOf) checked types).Feeds signal := by
    cases signal <;> trivial
  have hnotes : Notes (Proposals.ask e.settings e.store.dated (contextOf ctx r.asOf)
      (signalInput (contextOf ctx r.asOf) checked types) signal : Read _ (CandidateSet α)) :=
    Proposals.notes_ask hfeeds hstart
  have hproposed := Proposals.overrun_collect (Proposals.stays_ask hreads) hnotes hactive
    (w := begins w₁) hbefore
  rw [completed?_eq_none_iff]
  exact (recommend_stays_from_proposals (e := e.dated) hcheck (returns_dated htypes) hreads
    ⟨trivial, hproposed⟩).backend

omit [Score α] in
theorem returns_findSeed_dated {checked : CheckedSimilar} {w' : World σ}
    (h : Returns (e.findSeed ctx checked) w () w') :
    Returns (e.dated.findSeed ctx checked) (begins w) () (begins w') := by
  obtain ⟨found, w₁, hfound, hrest⟩ := returns_bind_iff.1 h
  refine returns_bind_iff.2 ⟨found, begins w₁, returns_step_iff.2 (returns_dated
    (returns_step_iff.1 hfound)), ?_⟩
  split at hrest
  · obtain ⟨-, rfl⟩ := returns_pure_iff.1 hrest
    rw [if_pos ‹_›]
    rfl
  · cases hrest

/-- A request for items like another that finds its item asks for those who share users with it. -/
theorem similar_dated_breaks (α : Type) [Score α] {r : SimilarRequest} {checked : CheckedSimilar}
    {types : EventTypes} {w₀ w₁ : World σ} (hcheck : e.checkSimilar r = .ok checked)
    (hfind : Returns (e.findSeed ctx checked) w () w₀)
    (htypes : Returns (e.store.eventTypes ctx ⟨ctx.org, checked.space⟩) w₀ types w₁)
    (hbefore : ctx.isCanceledBy w₁.clock = false)
    (hstart : (ctx.now.minusDays e.settings.coVisitationWindow).isRepresentable = false) :
    (e.dated.similar ctx r : Timed (Dated σ) (Served α)).completed? w = none := by
  have hreads := e.store.dated_staysFor ctx ⟨ctx.org, checked.space⟩ none
  have hfeeds : (similarSignalInput ctx checked types).Feeds .coVisitation :=
    List.cons_ne_nil checked.seed []
  have hnotes : Notes (Proposals.ask e.settings e.store.dated ctx
      (similarSignalInput ctx checked types) .coVisitation : Read _ (CandidateSet α)) :=
    Proposals.notes_ask hfeeds hstart
  have hproposed := Proposals.overrun_collect (Proposals.stays_ask hreads) hnotes
    (List.mem_singleton_self Signal.coVisitation) (w := begins w₁) hbefore
  have hcheck' : e.dated.checkSimilar r = .ok checked := hcheck
  have htypes' : Returns (e.dated.store.eventTypes ctx ⟨ctx.org, checked.space⟩) (begins w₀) types
      (begins w₁) := returns_dated htypes
  have hsteps : (Dated.noted true).Has
      ((e.dated.similarSteps ctx r : Step (Dated σ) (Served α)).run (begins w)).2 := by
    rw [similarSteps, run_bind_of_returns (returns_liftM_iff.2 ⟨hcheck', rfl⟩),
      run_bind_of_returns (returns_findSeed_dated hfind),
      run_bind_of_returns (returns_step_iff.2 htypes')]
    refine Stays.ends_bind (P := fun _ => True) ⟨trivial, hproposed⟩ fun proposals => ?_
    exact (Ranked.stays_ofProposals (similarRankInput ctx r checked types) hreads _).bind
      fun _ => stays_pure _
  rw [completed?_eq_none_iff, similar]
  exact (has_serve hsteps).backend

/-! ### Windows that are safe -/

theorem contextOf_hasPast {asOf : Option Instant} (h : (asOf.getD ctx.now).IsCurrent) :
    (contextOf ctx asOf).now.HasPast := by
  cases asOf with
  | none => exact h.hasPast
  | some t => exact h.hasPast_after

/-- Whether a request of the years from 1970 to 2100 comes to an end depends on how long its windows
are. A window begins in the calendar if and only if it has no more milliseconds than the calendar in
front of it, which is so for all windows up to `safeDays` and for none from `excessDays` on. If the
windows of the settings begin in the calendar, every request ends. A request that comes to its
signals breaks down if one of them has a window that does not. -/
theorem requests_end_iff_windows_begin (e : Engine σ) (hvalid : e.settings.validate = .ok ())
    (ctx : Context) (α : Type) [Score α] :
    (∀ asOf, (asOf.getD ctx.now).IsCurrent → ∀ days ∈ e.settings.windows,
      (((contextOf ctx asOf).now.minusDays days).isRepresentable = true ↔
          Time.daysMillis days ≤ (contextOf ctx asOf).now.reach) ∧
        (days ≤ Instant.safeDays →
          ((contextOf ctx asOf).now.minusDays days).isRepresentable = true) ∧
        (Instant.excessDays ≤ days →
          ((contextOf ctx asOf).now.minusDays days).isRepresentable = false)) ∧
      (∀ (r : RecommendRequest α) (w : World σ), (r.asOf.getD ctx.now).IsCurrent →
        ((∀ days ∈ e.settings.windows,
            Time.daysMillis days ≤ (contextOf ctx r.asOf).now.reach) →
          ((e.dated.recommend ctx r).completed? w).isSome = true) ∧
        ∀ checked types w₁, e.check r = .ok checked →
          Returns (e.store.eventTypes (contextOf ctx r.asOf)
            ⟨(contextOf ctx r.asOf).org, checked.space⟩) w types w₁ →
          (contextOf ctx r.asOf).isCanceledBy w₁.clock = false →
          ∀ signal ∈ e.activeSignals checked,
            (contextOf ctx r.asOf).now.reach < Time.daysMillis (signal.window e.settings) →
              (e.dated.recommend ctx r).completed? w = none) ∧
      ∀ (r : SimilarRequest) (w : World σ), ctx.now.IsCurrent →
        (Time.daysMillis e.settings.coVisitationWindow ≤ ctx.now.reach →
          ((e.dated.similar ctx r : Timed (Dated σ) (Served α)).completed? w).isSome = true) ∧
        ∀ checked types w₀ w₁, e.checkSimilar r = .ok checked →
          Returns (e.findSeed ctx checked) w () w₀ →
          Returns (e.store.eventTypes ctx ⟨ctx.org, checked.space⟩) w₀ types w₁ →
          ctx.isCanceledBy w₁.clock = false →
          ctx.now.reach < Time.daysMillis e.settings.coVisitationWindow →
            (e.dated.similar ctx r : Timed (Dated σ) (Served α)).completed? w = none := by
  have hnonneg : ∀ days ∈ e.settings.windows, 0.0 ≤ days := by
    have hsound := Settings.validate_eq_ok_iff.1 hvalid
    simp only [Settings.windows, List.forall_mem_cons, List.not_mem_nil, false_imp_iff,
      implies_true, and_true]
    exact ⟨hsound.popularityWindow.nonneg, hsound.coVisitationWindow.nonneg,
      hsound.profileWindow.nonneg, hsound.purchasedWindow.nonneg⟩
  have hbegins : ∀ t : Instant, t.HasPast → ∀ days ∈ e.settings.windows,
      ((t.minusDays days).isRepresentable = true ↔ Time.daysMillis days ≤ t.reach) :=
    fun t ht days hdays => ht.isRepresentable_minusDays_iff (hnonneg days hdays)
  have houtside : ∀ t : Instant, t.HasPast → ∀ days ∈ e.settings.windows,
      t.reach < Time.daysMillis days → (t.minusDays days).isRepresentable = false := by
    intro t ht days hdays hless
    rw [← Bool.not_eq_true, hbegins t ht days hdays]
    exact Int.not_le.2 hless
  refine ⟨fun asOf hcurrent days hdays => ?_, fun r w hcurrent => ?_, fun r w hcurrent => ?_⟩
  · have hpast := contextOf_hasPast hcurrent
    exact ⟨hbegins _ hpast days hdays, hpast.isRepresentable_of_le (hnonneg days hdays),
      hpast.isRepresentable_of_ge (hnonneg days hdays)⟩
  · have hpast := contextOf_hasPast hcurrent
    refine ⟨fun hfits => recommend_dated_completes r fun days hdays =>
        (hbegins _ hpast days hdays).2 (hfits days hdays),
      fun checked types w₁ hcheck htypes hbefore signal hactive hless => ?_⟩
    exact recommend_dated_breaks hcheck htypes hbefore hactive
      (houtside _ hpast _ (signal.window_mem e.settings) hless)
  · have hpast := hcurrent.hasPast
    refine ⟨fun hfits => similar_dated_completes α r
        ((hbegins _ hpast _ e.settings.coVisitationWindow_mem).2 hfits),
      fun checked types w₀ w₁ hcheck hfind htypes hbefore hless => ?_⟩
    exact similar_dated_breaks α hcheck hfind htypes hbefore
      (houtside _ hpast _ e.settings.coVisitationWindow_mem hless)

def juneContext : Context := { org := .none, now := ⟨1718452800, 0⟩ }

def juneRequest : RecommendRequest Float := { userId := "ann", space := "shop", k := 5 }

theorem juneRequest_isCurrent : (juneRequest.asOf.getD juneContext.now).IsCurrent :=
  ⟨by decide, by decide, by decide⟩

theorem requests_end_iff_windows_begin_month :
    ({} : Settings).validate = .ok () ∧ (juneRequest.asOf.getD juneContext.now).IsCurrent ∧
      (∀ days ∈ ({} : Settings).windows,
        Time.daysMillis days ≤ (contextOf juneContext juneRequest.asOf).now.reach) ∧
      (((overMemory {} [] : Engine Unit).dated.recommend juneContext juneRequest).completed?
        ⟨0, ()⟩).isSome = true := by
  have hvalid : ({} : Settings).validate = .ok () := rfl
  have hfits : ∀ days ∈ ({} : Settings).windows,
      Time.daysMillis days ≤ (contextOf juneContext juneRequest.asOf).now.reach := by
    decide +kernel
  obtain ⟨-, hends, -⟩ := requests_end_iff_windows_begin (overMemory {} [] : Engine Unit) hvalid
    juneContext Float
  exact ⟨hvalid, juneRequest_isCurrent, hfits,
    (hends juneRequest ⟨0, ()⟩ juneRequest_isCurrent).1 hfits⟩

/-- With a window of a thousand million days the settings pass their check, and the same request
breaks down. -/
theorem juneRequest_breaks_down :
    ({ popularityWindow := 1000000000.0 } : Settings).validate = .ok () ∧
      (juneRequest.asOf.getD juneContext.now).IsCurrent ∧
      (juneContext.now.minusDays 1000000000.0).isRepresentable = false ∧
      ((overMemory { popularityWindow := 1000000000.0 } [] : Engine Unit).dated.recommend
        juneContext juneRequest).completed? ⟨0, ()⟩ = none :=
  ⟨rfl, juneRequest_isCurrent, by decide +kernel, rfl⟩

end Engine

end Recommendation
