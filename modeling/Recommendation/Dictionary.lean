/-!
Finite maps from texts, kept in ascending order of key with each key once. What a change does is said
by look-up alone: the changed key has the new value and every other key the one it had.
-/

namespace Recommendation

/-- A finite map whose keys are texts. -/
structure Dictionary (α : Type) where
  entries : List (String × α)
  sorted : entries.Pairwise (fun a b => a.1 < b.1)

namespace Dictionary

variable {α β : Type}

def empty : Dictionary α := ⟨[], List.Pairwise.nil⟩

instance : Inhabited (Dictionary α) := ⟨empty⟩

/-- Puts an entry in its place, or changes the entry that the key has already. -/
def alterList (k : String) (f : Option α → α) : List (String × α) → List (String × α)
  | [] => [(k, f none)]
  | (k', v) :: rest =>
    if k < k' then (k, f none) :: (k', v) :: rest
    else if k = k' then (k', f (some v)) :: rest
    else (k', v) :: alterList k f rest

theorem fst_mem_alterList {k k' : String} {f : Option α → α} {l : List (String × α)} {v : α}
    (h : (k', v) ∈ alterList k f l) : k' = k ∨ ∃ w, (k', w) ∈ l := by
  induction l with
  | nil => simp [alterList] at h; exact .inl h.1
  | cons e rest ih =>
    obtain ⟨k₀, v₀⟩ := e
    simp only [alterList] at h
    split at h
    · rcases List.mem_cons.1 h with h | h
      · exact .inl (Prod.mk.inj h).1
      · exact .inr ⟨v, h⟩
    · split at h
      · rcases List.mem_cons.1 h with h | h
        · exact .inl ((Prod.mk.inj h).1.trans (by simp_all))
        · exact .inr ⟨v, List.mem_cons_of_mem _ h⟩
      · rcases List.mem_cons.1 h with h | h
        · exact .inr ⟨v, by rw [h]; exact List.mem_cons_self⟩
        · rcases ih h with h | ⟨w, h⟩
          · exact .inl h
          · exact .inr ⟨w, List.mem_cons_of_mem _ h⟩

theorem sorted_alterList (k : String) (f : Option α → α) {l : List (String × α)}
    (h : l.Pairwise (fun a b => a.1 < b.1)) :
    (alterList k f l).Pairwise (fun a b => a.1 < b.1) := by
  induction l with
  | nil => simp [alterList]
  | cons e rest ih =>
    obtain ⟨k₀, v₀⟩ := e
    rw [List.pairwise_cons] at h
    simp only [alterList]
    split
    · rename_i hlt
      refine List.pairwise_cons.2 ⟨fun e he => ?_, List.pairwise_cons.2 h⟩
      rcases List.mem_cons.1 he with rfl | he
      · exact hlt
      · exact String.lt_trans hlt (h.1 e he)
    · split
      · exact List.pairwise_cons.2 ⟨h.1, h.2⟩
      · rename_i hnlt hne
        refine List.pairwise_cons.2 ⟨fun e he => ?_, ih h.2⟩
        have he : (e.1, e.2) ∈ alterList k f rest := he
        rcases fst_mem_alterList he with hk | ⟨w, hw⟩
        · rw [hk]; exact Std.lt_of_le_of_ne (Std.not_lt.1 hnlt) (Ne.symm hne)
        · exact h.1 (e.1, w) hw

theorem find?_alterList {k k' : String} {f : Option α → α} {l : List (String × α)}
    (h : l.Pairwise (fun a b => a.1 < b.1)) :
    ((alterList k f l).find? fun e => e.1 == k').map (·.2) =
      if k' = k then some (f ((l.find? fun e => e.1 == k).map (·.2)))
      else (l.find? fun e => e.1 == k').map (·.2) := by
  induction l with
  | nil =>
    by_cases hk : k' = k
    · simp [alterList, hk]
    · simp [alterList, hk, Ne.symm hk]
  | cons e rest ih =>
    obtain ⟨k₀, v₀⟩ := e
    rw [List.pairwise_cons] at h
    simp only [alterList]
    split
    · rename_i hlt
      have hfirst : ((k₀, v₀) :: rest).find? (fun e => e.1 == k) = none := by
        refine List.find?_eq_none.2 fun e he => ?_
        rcases List.mem_cons.1 he with rfl | he
        · simpa using (Std.ne_of_lt hlt).symm
        · simpa using (Std.ne_of_lt (String.lt_trans hlt (h.1 e he))).symm
      by_cases hk : k' = k
      · simp [hk, hfirst]
      · rw [List.find?_cons_of_neg (by simpa using Ne.symm hk), if_neg hk]
    · split
      · rename_i heq
        subst heq
        by_cases hk : k' = k
        · simp [hk]
        · simp [hk, Ne.symm hk]
      · rename_i hne
        have hne : ¬k₀ = k := Ne.symm hne
        by_cases hk : k' = k₀
        · subst hk
          simp [hne]
        · have hk₀ : ¬k₀ = k' := Ne.symm hk
          simp [hk₀, hne, ih h.2]

/-- Gives the key the value that `f` makes of the one it had. -/
def alter (d : Dictionary α) (k : String) (f : Option α → α) : Dictionary α :=
  ⟨alterList k f d.entries, sorted_alterList k f d.sorted⟩

def insert (d : Dictionary α) (k : String) (v : α) : Dictionary α :=
  d.alter k fun _ => v

def get? (d : Dictionary α) (k : String) : Option α :=
  (d.entries.find? fun e => e.1 == k).map (·.2)

theorem get?_alter (d : Dictionary α) (k k' : String) (f : Option α → α) :
    (d.alter k f).get? k' = if k' = k then some (f (d.get? k)) else d.get? k' :=
  find?_alterList d.sorted

theorem get?_insert (d : Dictionary α) (k k' : String) (v : α) :
    (d.insert k v).get? k' = if k' = k then some v else d.get? k' :=
  d.get?_alter k k' _

def contains (d : Dictionary α) (k : String) : Bool := (d.get? k).isSome

def keys (d : Dictionary α) : List String := d.entries.map (·.1)

def size (d : Dictionary α) : Nat := d.entries.length

def isEmpty (d : Dictionary α) : Bool := d.entries.isEmpty

/-- The map that holds the pairs of a list; of two pairs with one key the later one counts. -/
def ofList (l : List (String × α)) : Dictionary α :=
  l.foldl (fun d e => d.insert e.1 e.2) empty

def map (d : Dictionary α) (f : String → α → β) : Dictionary β :=
  ⟨d.entries.map fun e => (e.1, f e.1 e.2), by
    have := d.sorted
    rw [List.pairwise_map]
    exact this⟩

def filter (d : Dictionary α) (p : String → α → Bool) : Dictionary α :=
  ⟨d.entries.filter fun e => p e.1 e.2, d.sorted.filter _⟩

end Dictionary

end Recommendation
