import Mathlib.Data.List.Forall2
import Recommendation.Proofs.Steps

/-!
Computations that run side by side, and those that a cancellation can cut short. Of
computations side by side each begins with the clock at which all begin, and with the
backend as the one in front of it has left it: `Timed.begun` lists the worlds that they
begin in, and what comes back is what each returns in its own world. All that follows
about signals and the reads within them goes through this list.
-/

namespace Recommendation

variable {σ α β γ : Type}

namespace Context

variable {ctx : Context} {clock : Nat}

/-- A request is canceled once it has been called off or its deadline has passed. -/
theorem isCanceledBy_iff : ctx.isCanceledBy clock = true ↔
    ∃ t, (ctx.canceledAt = some t ∨ ctx.deadline = some t) ∧ t ≤ clock := by
  rw [isCanceledBy, stop?]
  rcases ctx.canceledAt with _ | t
  · rcases ctx.deadline with _ | t' <;> simp [earlier]
  · rcases ctx.deadline with _ | t'
    · simp [earlier]
    · simp only [earlier, Option.any_some, decide_eq_true_eq, Option.some.injEq]
      constructor
      · intro hmin
        rcases Nat.le_total t t' with hle | hle
        · exact ⟨t, .inl rfl, by omega⟩
        · exact ⟨t', .inr rfl, by omega⟩
      · rintro ⟨_, rfl | rfl, hle⟩ <;> omega

theorem isCanceledBy_eq {t : Nat} (hstop : ctx.stop? = some t) (clock : Nat) :
    ctx.isCanceledBy clock = decide (t ≤ clock) := by
  rw [isCanceledBy, hstop, Option.any_some]

theorem isCanceledBy_of_le {later : Nat} (hle : clock ≤ later)
    (h : ctx.isCanceledBy later = false) : ctx.isCanceledBy clock = false := by
  rw [← Bool.not_eq_true, isCanceledBy_iff] at h ⊢
  rintro ⟨t, ht, htclock⟩
  exact h ⟨t, ht, Nat.le_trans htclock hle⟩

end Context

namespace Timed

theorem unlessCanceled_of_stop {ctx : Context} {stop : Nat} (hstop : ctx.stop? = some stop)
    (m : Timed σ α) (w : World σ) :
    unlessCanceled ctx m w =
      if stop ≤ w.clock then (none, w)
      else if stop ≤ (m w).2.clock then (none, { (m w).2 with clock := stop })
      else (some (m w).1, (m w).2) := by
  simp only [unlessCanceled, hstop]
  rfl

theorem unlessCanceled_of_uncanceled {ctx : Context} (m : Timed σ α) {w : World σ}
    (hbefore : ctx.isCanceledBy w.clock = false)
    (hafter : ctx.isCanceledBy (m w).2.clock = false) :
    unlessCanceled ctx m w = (some (m w).1, (m w).2) := by
  simp only [Context.isCanceledBy] at hbefore hafter
  cases hstop : ctx.stop? with
  | none =>
      simp only [unlessCanceled, hstop]
      rfl
  | some stop =>
      simp only [hstop, Option.any_some, decide_eq_false_iff_not] at hbefore hafter
      rw [unlessCanceled_of_stop hstop, if_neg hbefore, if_neg hafter]

theorem unlessCanceled_of_canceled {ctx : Context} (m : Timed σ α) {w : World σ}
    (h : ctx.isCanceledBy w.clock = true ∨ ctx.isCanceledBy (m w).2.clock = true) :
    ∃ w', unlessCanceled ctx m w = (none, w') := by
  simp only [Context.isCanceledBy] at h
  cases hstop : ctx.stop? with
  | none => simp [hstop] at h
  | some stop =>
      simp only [hstop, Option.any_some, decide_eq_true_eq] at h
      rw [unlessCanceled_of_stop hstop]
      split
      · exact ⟨_, rfl⟩
      · rename_i hbefore
        rw [if_pos (h.resolve_left hbefore)]
        exact ⟨_, rfl⟩

/-! ### Worlds that computations begin in -/

/-- Who begins in which world when the computations of all run side by side. -/
def begun (f : γ → Timed σ α) : List γ → World σ → List (γ × World σ)
  | [], _ => []
  | x :: xs, w => (x, w) :: begun f xs { (f x w).2 with clock := w.clock }

def leftBy (f : γ → Timed σ α) : List γ → World σ → World σ
  | [], w => w
  | x :: xs, w => leftBy f xs { (f x w).2 with clock := w.clock }

variable (f : γ → Timed σ α)

theorem map_fst_begun (xs : List γ) (w : World σ) : (begun f xs w).map (·.1) = xs := by
  induction xs generalizing w with
  | nil => rfl
  | cons x xs ih => rw [begun, List.map_cons, ih]

theorem clock_leftBy (xs : List γ) (w : World σ) : (leftBy f xs w).clock = w.clock := by
  induction xs generalizing w with
  | nil => rfl
  | cons x xs ih => rw [leftBy, ih]

theorem sideBySide_map (xs : List γ) (w : World σ) :
    sideBySide (xs.map f) w =
      ((begun f xs w).map fun b => ((f b.1 b.2).1, (f b.1 b.2).2.clock), leftBy f xs w) := by
  induction xs generalizing w with
  | nil => rfl
  | cons x xs ih =>
      simp only [List.map_cons, sideBySide, ih]
      rfl

/-- The latest of some points on the clock, which starts at `clock`. -/
def latest (clock : Nat) (ended : List (α × Nat)) : Nat :=
  ended.foldl (fun c e => max c e.2) clock

theorem le_latest (clock : Nat) (ended : List (α × Nat)) : clock ≤ latest clock ended := by
  induction ended generalizing clock with
  | nil => exact Nat.le_refl _
  | cons e rest ih => exact Nat.le_trans (Nat.le_max_left _ _) (ih _)

theorem run_waitForAll (ended : List (α × Nat)) (w : World σ) :
    (ended.forM fun e => waitUntil e.2 : Timed σ Unit) w =
      ((), { w with clock := latest w.clock ended }) := by
  induction ended generalizing w with
  | nil => rfl
  | cons e rest ih => exact ih { w with clock := max w.clock e.2 }

theorem all_map (xs : List γ) (w : World σ) :
    all (xs.map f) w =
      ((begun f xs w).map fun b => (f b.1 b.2).1,
        { leftBy f xs w with
          clock := latest w.clock ((begun f xs w).map fun b =>
            ((f b.1 b.2).1, (f b.1 b.2).2.clock)) }) := by
  simp only [all, bind, StateT.bind, sideBySide_map, run_waitForAll, clock_leftBy, List.map_map]
  rfl

theorem clock_le_all (ms : List (Timed σ α)) (w : World σ) : w.clock ≤ (all ms w).2.clock := by
  have hmap := all_map (id : Timed σ α → Timed σ α) ms w
  rw [List.map_id] at hmap
  rw [hmap]
  exact le_latest _ _

section Map

variable (g : γ → α → β)

theorem begun_map (xs : List γ) (w : World σ) :
    begun (fun x => g x <$> f x) xs w = begun f xs w := by
  induction xs generalizing w with
  | nil => rfl
  | cons x xs ih => exact congrArg ((x, w) :: ·) (ih _)

theorem leftBy_map (xs : List γ) (w : World σ) :
    leftBy (fun x => g x <$> f x) xs w = leftBy f xs w := by
  induction xs generalizing w with
  | nil => rfl
  | cons x xs ih => exact ih _

theorem all_map_map (xs : List γ) (w : World σ) :
    all (xs.map fun x => g x <$> f x) w =
      ((begun f xs w).map fun b => g b.1 (f b.1 b.2).1, (all (xs.map f) w).2) := by
  have hrun (x : γ) (w : World σ) : (g x <$> f x) w = (g x (f x w).1, (f x w).2) := rfl
  simp only [all_map, begun_map, leftBy_map, hrun, latest, List.foldl_map]

end Map

end Timed

/-! ### Reads side by side -/

namespace Read

/-- If no read has failed, each of them has returned one of the values. -/
theorem forall₂_of_firstFailure? {ended : List (Except StoreError α × Nat)}
    (h : firstFailure? ended = none) :
    List.Forall₂ (fun e a => e.1 = .ok a) ended (ended.filterMap fun e => e.1.toOption) := by
  induction ended with
  | nil => exact .nil
  | cons e rest ih =>
      obtain ⟨result, t⟩ := e
      cases result with
      | error fault =>
          rw [firstFailure?] at h
          split at h
          · split at h <;> cases h
          · cases h
      | ok a => exact .cons rfl (ih h)

theorem mem_of_firstFailure? {ended : List (Except StoreError α × Nat)} {err : StoreError}
    {t : Nat} (h : firstFailure? ended = some (err, t)) : (.error err, t) ∈ ended := by
  induction ended generalizing err t with
  | nil => cases h
  | cons e rest ih =>
      obtain ⟨result, t₀⟩ := e
      cases result with
      | ok a => exact List.mem_cons_of_mem _ (ih h)
      | error err₀ =>
          rw [firstFailure?] at h
          cases hrest : firstFailure? rest with
          | none =>
              rw [hrest] at h
              cases h
              exact List.mem_cons_self
          | some later =>
              rw [hrest] at h
              dsimp only at h
              split at h
              · cases h
                exact List.mem_cons_of_mem _ (ih hrest)
              · cases h
                exact List.mem_cons_self

/-- Reads side by side end with the first failure, or all together. -/
theorem run_all_map (f : γ → Read σ β) (xs : List γ) (w : World σ) :
    (all (xs.map f)).run w =
      match firstFailure? ((Timed.begun (fun x => (f x).run) xs w).map fun b =>
        (((f b.1).run b.2).1, ((f b.1).run b.2).2.clock)) with
      | some (err, t) => (.error err, { Timed.leftBy (fun x => (f x).run) xs w with
          clock := max (Timed.leftBy (fun x => (f x).run) xs w).clock t })
      | none => (.ok (((Timed.begun (fun x => (f x).run) xs w).map fun b =>
            (((f b.1).run b.2).1, ((f b.1).run b.2).2.clock)).filterMap fun e => e.1.toOption),
          { Timed.leftBy (fun x => (f x).run) xs w with
            clock := Timed.latest w.clock ((Timed.begun (fun x => (f x).run) xs w).map fun b =>
              (((f b.1).run b.2).1, ((f b.1).run b.2).2.clock)) }) := by
  have hruns : (xs.map f).map ExceptT.run = xs.map fun x => (f x).run := List.map_map
  simp only [all, ExceptT.run_mk, bind, StateT.bind, hruns, Timed.sideBySide_map]
  cases firstFailure? ((Timed.begun (fun x => (f x).run) xs w).map fun b =>
      (((f b.1).run b.2).1, ((f b.1).run b.2).2.clock)) with
  | some failure => rfl
  | none =>
      simp only [StateT.bind, Timed.run_waitForAll, Timed.clock_leftBy]
      rfl

/-- Reads side by side return what each returns in the world that it begins in. -/
theorem returns_all_map {f : γ → Read σ β} {xs : List γ} {w w' : World σ} {bs : List β}
    (h : Returns (all (xs.map f)) w bs w') :
    List.Forall₂ (fun b value => ∃ w₁, Returns (f b.1) b.2 value w₁)
      (Timed.begun (fun x => (f x).run) xs w) bs := by
  rw [Returns, run_all_map] at h
  generalize Timed.begun (fun x => (f x).run) xs w = begun at h ⊢
  cases hfailure : firstFailure? (begun.map fun b =>
      (((f b.1).run b.2).1, ((f b.1).run b.2).2.clock)) with
  | some failure =>
      rw [hfailure] at h
      cases h
  | none =>
      rw [hfailure] at h
      cases h
      exact (List.forall₂_map_left_iff.1 (forall₂_of_firstFailure? hfailure)).imp
        fun _ _ hvalue => ⟨_, Prod.ext hvalue rfl⟩

/-- The value that stands beside `x` has been returned by the read for `x`. -/
theorem exists_returns_of_mem_zip {f : γ → Read σ β} {xs : List γ} {w w' : World σ} {bs : List β}
    (h : Returns (all (xs.map f)) w bs w') {x : γ} {b : β} (hmem : (x, b) ∈ xs.zip bs) :
    ∃ w₁ w₂, (x, w₁) ∈ Timed.begun (fun x => (f x).run) xs w ∧ Returns (f x) w₁ b w₂ := by
  have hforall := returns_all_map h
  rw [← Timed.map_fst_begun (fun x => (f x).run) xs w, List.zip_map_left] at hmem
  obtain ⟨⟨⟨x', w₁⟩, b'⟩, hzip, heq⟩ := List.mem_map.1 hmem
  cases heq
  obtain ⟨w₂, hreturns⟩ := (List.forall₂_iff_zip.1 hforall).2 hzip
  exact ⟨w₁, w₂, (List.of_mem_zip hzip).1, hreturns⟩

theorem length_of_returns_all {f : γ → Read σ β} {xs : List γ} {w w' : World σ} {bs : List β}
    (h : Returns (all (xs.map f)) w bs w') : bs.length = xs.length := by
  have hkeys := congrArg List.length (Timed.map_fst_begun (fun x => (f x).run) xs w)
  rw [← (returns_all_map h).length_eq, ← hkeys, List.length_map]

end Read

end Recommendation
