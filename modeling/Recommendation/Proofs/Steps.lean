import Recommendation.Engine

/-!
How computations that take time and may fail are taken apart. `Returns m w a w'`
says that `m`, started in the world `w`, ends in `w'` with the value `a`. It follows
the computation from its front to its end, so that a proof about a request names what
each of its steps has returned and never unfolds the monad. `FailsOnly P m` says that
every failure of `m`, in whatever world, satisfies `P`.
-/

namespace Recommendation

variable {ε σ α β : Type}

/-- Started in `w`, the computation ends in `w'` with a value. -/
def Returns (m : ExceptT ε (StateM (World σ)) α) (w : World σ) (a : α) (w' : World σ) : Prop :=
  m.run w = (.ok a, w')

def FailsOnly (P : ε → Prop) (m : ExceptT ε (StateM (World σ)) α) : Prop :=
  ∀ w e w', m.run w = (.error e, w') → P e

theorem run_bind (m : ExceptT ε (StateM (World σ)) α) (f : α → ExceptT ε (StateM (World σ)) β)
    (w : World σ) :
    (m >>= f).run w =
      match m.run w with
      | (.ok a, w₁) => (f a).run w₁
      | (.error e, w₁) => (.error e, w₁) := by
  simp only [bind, ExceptT.bind, ExceptT.run, ExceptT.mk, StateT.bind, ExceptT.bindCont]
  rcases m w with ⟨_ | _, _⟩ <;> rfl

theorem run_map (f : α → β) (m : ExceptT ε (StateM (World σ)) α) (w : World σ) :
    (f <$> m).run w = ((m.run w).1.map f, (m.run w).2) := by
  rw [map_eq_pure_bind, run_bind]
  rcases m.run w with ⟨_ | _, _⟩ <;> rfl

theorem run_step (read : Read σ α) (w : World σ) :
    read.step.run w = ((read.run w).1.mapError Failure.ofStore, (read.run w).2) := rfl

theorem fst_run_bind_of_error {m : ExceptT ε (StateM (World σ)) α}
    {f : α → ExceptT ε (StateM (World σ)) β} {w : World σ} {err : ε}
    (h : (m.run w).1 = .error err) : ((m >>= f).run w).1 = .error err := by
  rw [run_bind]
  generalize m.run w = ended at h
  obtain ⟨_, w'⟩ := ended
  cases h
  rfl

theorem fst_run_step_of_error {read : Read σ α} {w : World σ} {err : StoreError}
    (h : (read.run w).1 = .error err) : (read.step.run w).1 = .error (.ofStore err) := by
  rw [run_step, h]
  rfl

/-! ### What is returned -/

theorem run_bind_of_returns {m : ExceptT ε (StateM (World σ)) α} {w w' : World σ} {a : α}
    (h : Returns m w a w') (f : α → ExceptT ε (StateM (World σ)) β) :
    (m >>= f).run w = (f a).run w' := by
  have hrun : m.run w = (.ok a, w') := h
  rw [run_bind, hrun]

theorem returns_bind_iff {m : ExceptT ε (StateM (World σ)) α}
    {f : α → ExceptT ε (StateM (World σ)) β} {w w' : World σ} {b : β} :
    Returns (m >>= f) w b w' ↔ ∃ a w₁, Returns m w a w₁ ∧ Returns (f a) w₁ b w' := by
  simp only [Returns, run_bind]
  constructor
  · intro h
    rcases hm : m.run w with ⟨_ | a, w₁⟩
    · rw [hm] at h
      cases h
    · rw [hm] at h
      exact ⟨a, w₁, rfl, h⟩
  · rintro ⟨a, w₁, hm, hf⟩
    rw [hm]
    exact hf

theorem returns_pure_iff {a b : α} {w w' : World σ} :
    Returns (pure a : ExceptT ε (StateM (World σ)) α) w b w' ↔ b = a ∧ w' = w := by
  constructor
  · rintro ⟨⟩
    exact ⟨rfl, rfl⟩
  · rintro ⟨rfl, rfl⟩
    rfl

theorem returns_liftM_iff {x : Except ε α} {a : α} {w w' : World σ} :
    Returns (liftM x : ExceptT ε (StateM (World σ)) α) w a w' ↔ x = .ok a ∧ w' = w := by
  cases x with
  | error e => exact ⟨nofun, nofun⟩
  | ok b =>
      constructor
      · rintro ⟨⟩
        exact ⟨rfl, rfl⟩
      · rintro ⟨⟨⟩, rfl⟩
        rfl

theorem returns_step_iff {read : Read σ α} {a : α} {w w' : World σ} :
    Returns read.step w a w' ↔ Returns read w a w' := by
  rw [Returns, run_step, Returns]
  rcases read.run w with ⟨_ | b, w₁⟩
  · exact ⟨nofun, nofun⟩
  · constructor <;> rintro ⟨⟩ <;> rfl

end Recommendation
