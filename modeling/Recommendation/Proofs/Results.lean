import Mathlib.Data.List.Forall2

/-!
Values in whose place there may be an error. One after another, either all elements of a list are
taken, or the first one that is not gives its error.
-/

namespace Recommendation

namespace Except

variable {ε α β : Type} {x : Except ε α} {f : α → Except ε β}

theorem bind_eq_ok_iff {b : β} : x >>= f = .ok b ↔ ∃ a, x = .ok a ∧ f a = .ok b := by
  cases x with
  | error e => exact ⟨nofun, nofun⟩
  | ok a => simp [bind, Except.bind]

theorem bind_eq_error_iff {e : ε} :
    x >>= f = .error e ↔ x = .error e ∨ ∃ a, x = .ok a ∧ f a = .error e := by
  cases x with
  | error e => simp [bind, Except.bind]
  | ok a => simp [bind, Except.bind]

theorem exists_ok_of_map_toOption {g : α → β} {b : β} (h : x.toOption.map g = some b) :
    ∃ a, x = .ok a ∧ g a = b := by
  cases x with
  | error e => cases h
  | ok a =>
      cases h
      exact ⟨a, rfl, rfl⟩

theorem throw_eq_error_iff {fault e : ε} : (throw fault : Except ε α) = .error e ↔ e = fault :=
  ⟨fun h => (Except.error.inj h).symm, fun h => congrArg Except.error h.symm⟩

theorem mapError_eq_ok_iff {ε' : Type} {g : ε → ε'} {a : α} : x.mapError g = .ok a ↔ x = .ok a := by
  cases x with
  | error e => exact iff_of_false nofun nofun
  | ok a' => exact ⟨fun h => congrArg Except.ok (Except.ok.inj h), fun h => by rw [h]; rfl⟩

theorem mapError_eq_error_iff {ε' : Type} {g : ε → ε'} {e' : ε'} :
    x.mapError g = .error e' ↔ ∃ e, x = .error e ∧ e' = g e := by
  cases x with
  | error e => simp [Except.mapError, eq_comm]
  | ok a => exact iff_of_false nofun nofun

/-- What can fail in one way alone fails if there is nothing that it can give. -/
theorem eq_error_iff {P : α → Prop} {fault : ε} (hok : ∀ a, x = .ok a ↔ P a)
    (herror : ∀ e, x = .error e → e = fault) {e : ε} :
    x = .error e ↔ (∀ a, ¬P a) ∧ e = fault := by
  simp only [← hok]
  cases x with
  | ok a => exact iff_of_false nofun fun h => h.1 a rfl
  | error e' =>
      rw [herror e' rfl, Except.error.injEq, eq_comm]
      exact (and_iff_right nofun).symm

/-- Either every element is taken and gives its value, in order. -/
theorem mapM_eq_ok_iff {xs : List α} {ys : List β} :
    xs.mapM f = .ok ys ↔ List.Forall₂ (fun x y => f x = .ok y) xs ys := by
  induction xs generalizing ys with
  | nil => cases ys <;> simp [pure, Except.pure]
  | cons x xs ih =>
      simp only [List.mapM_cons, bind_eq_ok_iff, ih, List.forall₂_cons_left_iff]
      constructor
      · rintro ⟨y, hy, rest, hrest, ⟨⟩⟩
        exact ⟨y, rest, hy, hrest, rfl⟩
      · rintro ⟨y, rest, hy, hrest, rfl⟩
        exact ⟨y, hy, rest, hrest, rfl⟩

theorem exists_mapM_eq_ok_iff {xs : List α} :
    (∃ ys, xs.mapM f = .ok ys) ↔ ∀ x ∈ xs, ∃ y, f x = .ok y := by
  induction xs with
  | nil => exact iff_of_true ⟨[], rfl⟩ (List.forall_mem_nil _)
  | cons x xs ih =>
      rw [List.forall_mem_cons, ← ih]
      simp only [List.mapM_cons, bind_eq_ok_iff]
      constructor
      · rintro ⟨_, y, hy, rest, hrest, ⟨⟩⟩
        exact ⟨⟨y, hy⟩, rest, hrest⟩
      · rintro ⟨⟨y, hy⟩, rest, hrest⟩
        exact ⟨y :: rest, y, hy, rest, hrest, rfl⟩

/-- Or the first element that is not taken gives its error. -/
theorem mapM_eq_error_iff {xs : List α} {e : ε} :
    xs.mapM f = .error e ↔ ∃ before x behind, xs = before ++ x :: behind ∧
      (∀ y ∈ before, ∃ b, f y = .ok b) ∧ f x = .error e := by
  induction xs with
  | nil => simp [pure, Except.pure]
  | cons x xs ih =>
      have hpure (y : β) : ∀ ys : List β, (pure (y :: ys) : Except ε (List β)) ≠ .error e := nofun
      simp only [List.mapM_cons, bind_eq_error_iff, ih, hpure, and_false, exists_false, or_false]
      constructor
      · rintro (hx | ⟨y, hy, before, x', behind, rfl, hbefore, hx'⟩)
        · exact ⟨[], x, xs, rfl, List.forall_mem_nil _, hx⟩
        · exact ⟨x :: before, x', behind, rfl, List.forall_mem_cons.2 ⟨⟨y, hy⟩, hbefore⟩, hx'⟩
      · rintro ⟨before, x', behind, heq, hbefore, hx'⟩
        cases before with
        | nil =>
            cases heq
            exact .inl hx'
        | cons y before =>
            cases heq
            obtain ⟨hy, hbefore⟩ := List.forall_mem_cons.1 hbefore
            obtain ⟨b, hb⟩ := hy
            exact .inr ⟨b, hb, before, x', behind, rfl, hbefore, hx'⟩

theorem mapM_eq_ok {value : α → β} {xs : List α} (h : ∀ x ∈ xs, f x = .ok (value x)) :
    xs.mapM f = .ok (xs.map value) :=
  mapM_eq_ok_iff.2 (List.forall₂_map_right_iff.2 (List.forall₂_same.2 h))

/-- If there is but one error to fail with, a single element that is not taken decides. -/
theorem mapM_eq_error {e : ε} {xs : List α} (h : ∀ x ∈ xs, (∃ b, f x = .ok b) ∨ f x = .error e)
    (hsome : ∃ x ∈ xs, f x = .error e) : xs.mapM f = .error e := by
  cases hresult : xs.mapM f with
  | ok ys =>
      obtain ⟨x, hx, hfails⟩ := hsome
      obtain ⟨b, hb⟩ := exists_mapM_eq_ok_iff.1 ⟨ys, hresult⟩ x hx
      cases hb.symm.trans hfails
  | error e' =>
      obtain ⟨before, x, behind, rfl, -, hx⟩ := mapM_eq_error_iff.1 hresult
      rcases h x (List.mem_append_right before List.mem_cons_self) with ⟨b, hb⟩ | hfails
      · cases hb.symm.trans hx
      · cases hx.symm.trans hfails
        rfl

/-- What a first value has and no step takes away, a value has after any number of steps. -/
theorem of_foldlM_eq_ok {P : β → Prop} {step : β → α → Except ε β}
    (hstep : ∀ b x b', P b → step b x = .ok b' → P b') {xs : List α} {b b' : β} (hb : P b)
    (h : xs.foldlM step b = .ok b') : P b' := by
  induction xs generalizing b with
  | nil =>
      cases h
      exact hb
  | cons x xs ih =>
      rw [List.foldlM_cons, bind_eq_ok_iff] at h
      obtain ⟨b₁, hfirst, hrest⟩ := h
      exact ih (hstep b x b₁ hb hfirst) hrest

end Except

end Recommendation
