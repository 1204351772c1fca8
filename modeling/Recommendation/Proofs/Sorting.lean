import Mathlib.Data.List.Sort
import Recommendation.Sorting

/-!
What sorting keeps. Sorting rearranges a list and nothing else, and texts in
ascending order hold the texts of the list, each once. By an order in which different
elements never compare equal, every arrangement of a list is sorted into the same list.
-/

namespace Recommendation

section Sorting

variable {α : Type} (order : α → α → Ordering)

theorem insertWith_perm (x : α) (xs : List α) : (insertWith order x xs).Perm (x :: xs) := by
  induction xs with
  | nil => rfl
  | cons y rest ih =>
      rw [insertWith]
      split
      · rfl
      · exact (ih.cons y).trans (.swap x y rest)

theorem sortWith_perm (xs : List α) : (sortWith order xs).Perm xs := by
  induction xs with
  | nil => rfl
  | cons x rest ih => exact (insertWith_perm order x _).trans (ih.cons x)

@[simp] theorem mem_sortWith {x : α} {xs : List α} : x ∈ sortWith order xs ↔ x ∈ xs :=
  (sortWith_perm order xs).mem_iff

/-- Elements that compare as before when they are changed are sorted as before. -/
theorem insertWith_map {β : Type} {order' : β → β → Ordering} {f : α → β}
    (h : ∀ a b, order' (f a) (f b) = order a b) (x : α) (xs : List α) :
    insertWith order' (f x) (xs.map f) = (insertWith order x xs).map f := by
  induction xs with
  | nil => rfl
  | cons y rest ih =>
      rw [List.map_cons, insertWith, insertWith, h, ih]
      split <;> rfl

theorem sortWith_map {β : Type} {order' : β → β → Ordering} {f : α → β}
    (h : ∀ a b, order' (f a) (f b) = order a b) (xs : List α) :
    sortWith order' (xs.map f) = (sortWith order xs).map f := by
  induction xs with
  | nil => rfl
  | cons x rest ih =>
      have hstep : sortWith order' (f x :: rest.map f) =
          insertWith order' (f x) (sortWith order' (rest.map f)) := rfl
      rw [List.map_cons, hstep, ih]
      exact insertWith_map order h x _

variable [Std.TransCmp order]

theorem pairwise_insertWith (x : α) {xs : List α}
    (h : xs.Pairwise fun a b => (order a b).isLE = true) :
    (insertWith order x xs).Pairwise fun a b => (order a b).isLE = true := by
  induction xs with
  | nil => exact List.pairwise_singleton _ _
  | cons y rest ih =>
      obtain ⟨hy, hrest⟩ := List.pairwise_cons.1 h
      rw [insertWith]
      split
      · rename_i hle
        refine List.pairwise_cons.2 ⟨fun z hz => ?_, h⟩
        rcases List.mem_cons.1 hz with rfl | hz
        · exact hle
        · exact Std.TransCmp.isLE_trans hle (hy z hz)
      · rename_i hnle
        refine List.pairwise_cons.2 ⟨fun z hz => ?_, ih hrest⟩
        rcases List.mem_cons.1 ((insertWith_perm order x rest).subset hz) with rfl | hz
        · -- The order is total, so what may not stand before `y` may stand behind it.
          have hswap : order y z = (order z y).swap := Std.OrientedCmp.eq_swap
          cases hcmp : order z y with
          | lt => simp [hcmp] at hnle
          | eq => simp [hswap, hcmp]
          | gt => simp [hswap, hcmp]
        · exact hy z hz

theorem pairwise_sortWith (xs : List α) :
    (sortWith order xs).Pairwise fun a b => (order a b).isLE = true := by
  induction xs with
  | nil => exact List.Pairwise.nil
  | cons x rest ih => exact pairwise_insertWith order x ih

theorem pairwise_lt_sortWith {xs : List α} (hne : xs.Pairwise fun a b => order a b ≠ .eq) :
    (sortWith order xs).Pairwise fun a b => order a b = .lt := by
  have hsymm {a b : α} (h : order a b ≠ .eq) : order b a ≠ .eq := by
    rwa [Ne, Std.OrientedCmp.eq_comm]
  have hsorted := (sortWith_perm order xs).symm.pairwise hne hsymm
  refine ((pairwise_sortWith order xs).and hsorted).imp ?_
  rintro a b ⟨hle, hne⟩
  exact (Ordering.isLE_iff_eq_lt_or_eq_eq.1 hle).resolve_right hne

/-- Elements with different values are sorted strictly by an order that tells values apart. -/
theorem pairwise_lt_sortWith_of_nodup {β : Type} {f : α → β} {xs : List α}
    (heq : ∀ a b, order a b = .eq → f a = f b) (h : (xs.map f).Nodup) :
    (sortWith order xs).Pairwise fun a b => order a b = .lt :=
  pairwise_lt_sortWith order ((List.pairwise_map.1 h).imp fun hne hsame => hne (heq _ _ hsame))

/-- In a strictly sorted list an element stands in front of those that it compares below. -/
theorem pair_sublist_iff {xs : List α} (h : xs.Pairwise fun a b => order a b = .lt) {a b : α} :
    [a, b].Sublist xs ↔ a ∈ xs ∧ b ∈ xs ∧ order a b = .lt := by
  constructor
  · intro hsub
    have hb : b ∈ [a, b] := List.mem_cons_of_mem a List.mem_cons_self
    have hlt := List.pairwise_pair.1 (h.sublist hsub)
    exact ⟨hsub.subset List.mem_cons_self, hsub.subset hb, hlt⟩
  · rintro ⟨ha, hb, hlt⟩
    obtain ⟨front, back, rfl⟩ := List.append_of_mem ha
    obtain ⟨-, -, hfront⟩ := List.pairwise_append.1 h
    have hback : b ∈ back := by
      rcases List.mem_append.1 hb with hb | hb
      · have hgt := Std.OrientedCmp.gt_of_lt (hfront b hb a List.mem_cons_self)
        cases hgt.symm.trans hlt
      · refine List.mem_of_ne_of_mem ?_ hb
        rintro rfl
        cases Std.ReflCmp.compare_self.symm.trans hlt
    exact ((List.singleton_sublist.2 hback).cons_cons a).trans (List.sublist_append_right _ _)

/-- Arrangements of one list are sorted into the same list if none of its elements
compares equal to another one. -/
theorem sortWith_eq_of_perm {xs ys : List α} (hperm : xs.Perm ys)
    (heq : ∀ a ∈ xs, ∀ b ∈ xs, order a b = .eq → a = b) :
    sortWith order xs = sortWith order ys := by
  have hsorted : (sortWith order xs).Perm (sortWith order ys) :=
    ((sortWith_perm order xs).trans hperm).trans (sortWith_perm order ys).symm
  refine hsorted.eq_of_pairwise ?_ (pairwise_sortWith order xs) (pairwise_sortWith order ys)
  intro a b ha hb hab hba
  have ha : a ∈ xs := (mem_sortWith order).1 ha
  have hb : b ∈ xs := hperm.mem_iff.2 ((mem_sortWith order).1 hb)
  exact heq a ha b hb (Std.OrientedCmp.isLE_antisymm hab hba)

end Sorting

/-! ### Texts in ascending order -/

theorem mem_insertText {x y : String} {xs : List String} :
    y ∈ insertText x xs ↔ y = x ∨ y ∈ xs := by
  induction xs with
  | nil => simp [insertText]
  | cons z rest ih =>
      rw [insertText]
      split
      · simp
      · split
        · rename_i _ heq
          subst heq
          simp
        · rw [List.mem_cons, ih, List.mem_cons]
          exact or_left_comm

theorem pairwise_insertText (x : String) {xs : List String} (h : xs.Pairwise (· < ·)) :
    (insertText x xs).Pairwise (· < ·) := by
  induction xs with
  | nil => exact List.pairwise_singleton _ _
  | cons z rest ih =>
      obtain ⟨hz, hrest⟩ := List.pairwise_cons.1 h
      rw [insertText]
      split
      · rename_i hlt
        refine List.pairwise_cons.2 ⟨fun y hy => ?_, h⟩
        rcases List.mem_cons.1 hy with rfl | hy
        · exact hlt
        · exact String.lt_trans hlt (hz y hy)
      · split
        · exact h
        · rename_i hnlt hne
          refine List.pairwise_cons.2 ⟨fun y hy => ?_, ih hrest⟩
          rcases mem_insertText.1 hy with rfl | hy
          · exact Std.lt_of_le_of_ne (Std.not_lt.1 hnlt) (Ne.symm hne)
          · exact hz y hy

@[simp] theorem mem_sortedTexts {x : String} {xs : List String} : x ∈ sortedTexts xs ↔ x ∈ xs := by
  induction xs with
  | nil => rfl
  | cons y rest ih => exact mem_insertText.trans ((or_congr_right ih).trans List.mem_cons.symm)

theorem pairwise_sortedTexts (xs : List String) : (sortedTexts xs).Pairwise (· < ·) := by
  induction xs with
  | nil => exact List.Pairwise.nil
  | cons x rest ih => exact pairwise_insertText x ih

theorem nodup_sortedTexts (xs : List String) : (sortedTexts xs).Nodup := by
  refine (pairwise_sortedTexts xs).imp ?_
  rintro x y hlt rfl
  exact Std.lt_irrefl hlt

theorem sortedTexts_congr {xs ys : List String} (h : ∀ x, x ∈ xs ↔ x ∈ ys) :
    sortedTexts xs = sortedTexts ys := by
  refine (pairwise_sortedTexts xs).eq_of_mem_iff (pairwise_sortedTexts ys) fun x => ?_
  rw [mem_sortedTexts, mem_sortedTexts, h x]

end Recommendation
