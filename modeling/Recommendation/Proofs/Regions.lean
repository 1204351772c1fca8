import Recommendation.Proofs.Engine.Proposals

/-!
Computations that stay in a region of worlds. A region is given by points of the clock
and by states of the backend, each for itself, since computations side by side begin
with the clock of one world and with the backend of another. `Stays region P m` says
that `m`, started in the region, ends in it, and that its failures satisfy `P`.
-/

namespace Recommendation

variable {ε σ α β γ : Type}

structure Region (σ : Type) where
  clock : Nat → Prop
  backend : σ → Prop

structure Region.Has (region : Region σ) (w : World σ) : Prop where
  clock : region.clock w.clock
  backend : region.backend w.backend

def Region.anywhere : Region σ := ⟨fun _ => True, fun _ => True⟩

/-- Started in the region, the computation ends in it, and fails only as `P` says. -/
structure Stays (region : Region σ) (P : ε → Prop) (m : ExceptT ε (StateM (World σ)) α) :
    Prop where
  ends : ∀ w, region.Has w → region.Has (m.run w).2
  fails : ∀ w, region.Has w → ∀ e, (m.run w).1 = .error e → P e

variable {region : Region σ} {P : ε → Prop}

theorem Stays.failsOnly {m : ExceptT ε (StateM (World σ)) α} (h : Stays .anywhere P m) :
    FailsOnly P m := by
  intro w e w' hrun
  exact h.fails w ⟨trivial, trivial⟩ e (congrArg Prod.fst hrun)

/-- What follows a computation matters for the values that it returns. -/
theorem Stays.bind_of_returns {m : ExceptT ε (StateM (World σ)) α}
    {f : α → ExceptT ε (StateM (World σ)) β} (hm : Stays region P m)
    (hf : ∀ w a w', region.Has w → Returns m w a w' → Stays region P (f a)) :
    Stays region P (m >>= f) := by
  constructor
  · intro w hw
    have hends := hm.ends w hw
    rw [run_bind]
    rcases hrun : m.run w with ⟨e | a, w₁⟩
    · rw [hrun] at hends
      exact hends
    · rw [hrun] at hends
      exact (hf w a w₁ hw hrun).ends w₁ hends
  · intro w hw e he
    have hends := hm.ends w hw
    have hfails := hm.fails w hw
    rw [run_bind] at he
    rcases hrun : m.run w with ⟨e₁ | a, w₁⟩
    · rw [hrun] at he hfails
      cases he
      exact hfails _ rfl
    · rw [hrun] at he hends
      exact (hf w a w₁ hw hrun).fails w₁ hends e he

theorem Stays.bind {m : ExceptT ε (StateM (World σ)) α}
    {f : α → ExceptT ε (StateM (World σ)) β} (hm : Stays region P m)
    (hf : ∀ a, Stays region P (f a)) : Stays region P (m >>= f) :=
  hm.bind_of_returns fun _ a _ _ _ => hf a

theorem Stays.ends_bind {m : ExceptT ε (StateM (World σ)) α}
    {f : α → ExceptT ε (StateM (World σ)) β} {w : World σ} (hm : region.Has (m.run w).2)
    (hf : ∀ a, Stays region P (f a)) : region.Has ((m >>= f).run w).2 := by
  rw [run_bind]
  rcases hrun : m.run w with ⟨e | a, w₁⟩
  · rw [hrun] at hm
    exact hm
  · rw [hrun] at hm
    exact (hf a).ends w₁ hm

theorem stays_pure (a : α) : Stays region P (pure a : ExceptT ε (StateM (World σ)) α) :=
  ⟨fun _ hw => hw, nofun⟩

theorem stays_throw {e : ε} (h : P e) :
    Stays region P (throw e : ExceptT ε (StateM (World σ)) α) := by
  refine ⟨fun _ hw => hw, ?_⟩
  rintro w - _ ⟨⟩
  exact h

theorem stays_liftM {x : Except ε α} (h : ∀ e, x = .error e → P e) :
    Stays region P (liftM x : ExceptT ε (StateM (World σ)) α) := by
  cases x with
  | error e => exact stays_throw (h e rfl)
  | ok a => exact stays_pure a

theorem Stays.step {Q : StoreError → Prop} {P : Failure → Prop} {read : Read σ α}
    (h : Stays region Q read) (hQ : ∀ err, Q err → P (.ofStore err)) :
    Stays region P read.step := by
  constructor
  · intro w hw
    rw [run_step]
    exact h.ends w hw
  · intro w hw f hf
    rw [run_step] at hf
    have hfails := h.fails w hw
    cases hread : (read.run w).1 with
    | ok a =>
        rw [hread] at hf
        cases hf
    | error err =>
        rw [hread] at hf
        cases hf
        exact hQ err (hfails err hread)

/-! ### Side by side -/

namespace Timed

theorem clock_latest {clock : Nat} {ended : List (α × Nat)} (hclock : region.clock clock)
    (h : ∀ e ∈ ended, region.clock e.2) : region.clock (latest clock ended) := by
  induction ended generalizing clock with
  | nil => exact hclock
  | cons e rest ih =>
      have hmax : region.clock (max clock e.2) := by
        rcases Nat.le_total clock e.2 with hle | hle
        · rw [Nat.max_eq_right hle]
          exact h e List.mem_cons_self
        · rw [Nat.max_eq_left hle]
          exact hclock
      exact ih hmax fun e' he' => h e' (List.mem_cons_of_mem _ he')

variable {f : γ → Timed σ α}

/-- All computations begin in the region, and leave a world of it behind. -/
theorem has_begun (hf : ∀ x w, region.Has w → region.Has (f x w).2) (xs : List γ) {w : World σ}
    (hw : region.Has w) :
    (∀ b ∈ begun f xs w, region.Has b.2) ∧ region.Has (leftBy f xs w) := by
  induction xs generalizing w with
  | nil => exact ⟨nofun, hw⟩
  | cons x xs ih =>
      -- The next one begins when the first does, on the backend that the first leaves.
      have hnext : region.Has { (f x w).2 with clock := w.clock } :=
        ⟨hw.clock, (hf x w hw).backend⟩
      obtain ⟨hbegun, hleft⟩ := ih hnext
      refine ⟨fun b hb => ?_, hleft⟩
      rcases List.mem_cons.1 hb with rfl | hb
      · exact hw
      · exact hbegun b hb

theorem has_all (hf : ∀ x w, region.Has w → region.Has (f x w).2) (xs : List γ) {w : World σ}
    (hw : region.Has w) : region.Has (all (xs.map f) w).2 := by
  obtain ⟨hbegun, hleft⟩ := has_begun hf xs hw
  rw [all_map]
  refine ⟨clock_latest hw.clock fun e he => ?_, hleft.backend⟩
  obtain ⟨b, hb, rfl⟩ := List.mem_map.1 he
  exact (hf b.1 b.2 (hbegun b hb)).clock

end Timed

/-- A computation that a cancellation cuts short stays in the region if the cancellation
falls into it. -/
theorem Timed.has_unlessCanceled {m : Timed σ α} {ctx : Context} {w : World σ}
    (hw : region.Has w) (hm : region.Has (m w).2)
    (hstop : ∀ clock stop, region.clock clock → ctx.stop? = some stop → stop ≤ clock →
      region.clock stop) :
    unlessCanceled ctx m w = (some (m w).1, (m w).2) ∨
      ∃ w', unlessCanceled ctx m w = (none, w') ∧ region.Has w' ∧
        ∃ clock, region.clock clock ∧ ctx.isCanceledBy clock = true := by
  simp only [Context.isCanceledBy]
  cases hctx : ctx.stop? with
  | none =>
      refine .inl ?_
      simp only [unlessCanceled, hctx]
      rfl
  | some stop =>
      rw [unlessCanceled_of_stop hctx]
      split
      · rename_i hbefore
        exact .inr ⟨w, rfl, hw, w.clock, hw.clock, by simpa using hbefore⟩
      · split
        · rename_i hmeanwhile
          have hclock := hstop _ _ hm.clock hctx hmeanwhile
          exact .inr ⟨_, rfl, ⟨hclock, hm.backend⟩, (m w).2.clock, hm.clock, by simpa using hmeanwhile⟩
        · exact .inl rfl

theorem Read.stays_all {Q : StoreError → Prop} {f : γ → Read σ β}
    (hf : ∀ x, Stays region Q (f x)) (xs : List γ) : Stays region Q (Read.all (xs.map f)) := by
  have hends : ∀ x w, region.Has w → region.Has ((f x).run w).2 := fun x => (hf x).ends
  constructor
  · intro w hw
    obtain ⟨hbegun, hleft⟩ := Timed.has_begun (f := fun x => (f x).run) hends xs hw
    have hclock : ∀ e ∈ (Timed.begun (fun x => (f x).run) xs w).map (fun b =>
        (((f b.1).run b.2).1, ((f b.1).run b.2).2.clock)), region.clock e.2 := by
      intro e he
      obtain ⟨b, hb, rfl⟩ := List.mem_map.1 he
      exact (hends b.1 b.2 (hbegun b hb)).clock
    rw [Read.run_all_map]
    cases hfailure : firstFailure? _ with
    | none => exact ⟨Timed.clock_latest hw.clock hclock, hleft.backend⟩
    | some failure =>
        obtain ⟨err, t⟩ := failure
        have ht : region.clock t := hclock _ (mem_of_firstFailure? hfailure)
        refine ⟨?_, hleft.backend⟩
        change region.clock (max _ t)
        rcases Nat.le_total (Timed.leftBy (fun x => (f x).run) xs w).clock t with hle | hle
        · rw [Nat.max_eq_right hle]
          exact ht
        · rw [Nat.max_eq_left hle]
          exact hleft.clock
  · intro w hw err herr
    obtain ⟨hbegun, -⟩ := Timed.has_begun (f := fun x => (f x).run) hends xs hw
    rw [Read.run_all_map] at herr
    cases hfailure : firstFailure? ((Timed.begun (fun x => (f x).run) xs w).map fun b =>
        (((f b.1).run b.2).1, ((f b.1).run b.2).2.clock)) with
    | none =>
        rw [hfailure] at herr
        cases herr
    | some failure =>
        rw [hfailure] at herr
        cases herr
        obtain ⟨b, hb, heq⟩ := List.mem_map.1 (mem_of_firstFailure? hfailure)
        exact (hf b.1).fails b.2 (hbegun b hb) failure.1 (congrArg Prod.fst heq)

/-! ### Signals of a request -/

theorem Proposals.stays_collect {Q : StoreError → Prop} {P : Failure → Prop} {ctx : Context}
    {f : γ → Read σ (CandidateSet α)} (hf : ∀ x, Stays region Q (f x))
    (hQ : ∀ err, Q err → P (.ofStore err))
    (hstop : ∀ clock stop, region.clock clock → ctx.stop? = some stop → stop ≤ clock →
      region.clock stop)
    (hcancel : ∀ clock, region.clock clock → ctx.isCanceledBy clock = true → P .canceled)
    (xs : List γ) : Stays region P (collect ctx (xs.map fun x => (f x).run)) := by
  have hends : ∀ x w, region.Has w → region.Has ((f x).run w).2 := fun x => (hf x).ends
  have hrun : ∀ w, region.Has w →
      region.Has ((collect ctx (xs.map fun x => (f x).run)).run w).2 ∧
        ∀ failure, ((collect ctx (xs.map fun x => (f x).run)).run w).1 = .error failure →
          P failure := by
    intro w hw
    have hall := Timed.has_all (f := fun x => (f x).run) hends xs hw
    rw [run_collect]
    rcases Timed.has_unlessCanceled hw hall hstop with
      hcut | ⟨w', hcut, hw', clock, hclock, hcanceled⟩
    · rw [hcut]
      refine ⟨hall, fun failure hfailure => ?_⟩
      obtain ⟨err, hmem, rfl⟩ := exists_of_ofResults_eq_error hfailure
      obtain ⟨hbegun, -⟩ := Timed.has_begun (f := fun x => (f x).run) hends xs hw
      rw [Timed.all_map] at hmem
      obtain ⟨b, hb, herr⟩ := List.mem_map.1 hmem
      exact hQ err ((hf b.1).fails b.2 (hbegun b hb) err herr)
    · rw [hcut]
      refine ⟨hw', ?_⟩
      rintro _ ⟨⟩
      exact hcancel clock hclock hcanceled
  exact ⟨fun w hw => (hrun w hw).1, fun w hw => (hrun w hw).2⟩

end Recommendation
