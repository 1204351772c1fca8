import Mathlib.Data.List.Induction
import Mathlib.Data.List.Sort
import Recommendation.Dictionary
import Recommendation.EventTypes
import Recommendation.Proofs.Sorting

/-!
Finite maps are what look-up says of them. Two maps with the same look-ups are equal,
since their entries stand in strictly ascending order of key, and a map that is made of
a list whose keys differ has the pairs of the list, whatever their order.
-/

namespace Recommendation

/-! ### Lists with keys -/

section Keyed

variable {κ α : Type} [DecidableEq κ] {l l' : List (κ × α)} {k : κ}

theorem mem_of_find?_key_eq_some {v : α} (h : (l.find? fun e => e.1 == k).map (·.2) = some v) :
    (k, v) ∈ l := by
  obtain ⟨e, he, rfl⟩ := Option.map_eq_some_iff.1 h
  have hkey : e.1 = k := by simpa using List.find?_some he
  exact hkey ▸ List.mem_of_find?_eq_some he

theorem find?_key_eq_some_iff (h : (l.map (·.1)).Nodup) {v : α} :
    (l.find? fun e => e.1 == k).map (·.2) = some v ↔ (k, v) ∈ l := by
  refine ⟨mem_of_find?_key_eq_some, fun hmem => ?_⟩
  have hsome : (l.find? fun e => e.1 == k).isSome = true :=
    List.find?_isSome.2 ⟨(k, v), hmem, beq_self_eq_true k⟩
  obtain ⟨e, he⟩ := Option.isSome_iff_exists.1 hsome
  have hkey : e.1 = k := by simpa using List.find?_some he
  -- The keys differ, so the entry that is found is the one there is.
  have heq : e = (k, v) := List.inj_on_of_nodup_map h (List.mem_of_find?_eq_some he) hmem hkey
  rw [he, heq]
  rfl

theorem find?_key_congr (hperm : l.Perm l') (h : (l.map (·.1)).Nodup) (k : κ) :
    (l.find? fun e => e.1 == k).map (·.2) = (l'.find? fun e => e.1 == k).map (·.2) := by
  have h' : (l'.map (·.1)).Nodup := (hperm.map _).nodup_iff.1 h
  refine Option.ext fun v => ?_
  rw [find?_key_eq_some_iff h, find?_key_eq_some_iff h', hperm.mem_iff]

variable [LT κ]

omit [DecidableEq κ] in
theorem nodup_keys [Std.Irrefl fun a b : κ => a < b] (h : l.Pairwise fun a b => a.1 < b.1) :
    (l.map (·.1)).Nodup := by
  refine List.pairwise_map.2 (h.imp fun {a b} hlt heq => ?_)
  rw [heq] at hlt
  exact Std.Irrefl.irrefl _ hlt

theorem eq_of_find?_key_eq [Std.Asymm fun a b : κ => a < b] (h : l.Pairwise fun a b => a.1 < b.1)
    (h' : l'.Pairwise fun a b => a.1 < b.1)
    (hfind : ∀ k, (l.find? fun e => e.1 == k).map (·.2) = (l'.find? fun e => e.1 == k).map (·.2)) :
    l = l' := by
  have hkeys := nodup_keys h
  have hkeys' := nodup_keys h'
  have hmem : ∀ e, e ∈ l ↔ e ∈ l' := by
    rintro ⟨k, v⟩
    rw [← find?_key_eq_some_iff hkeys, ← find?_key_eq_some_iff hkeys', hfind k]
  have hperm := (List.perm_ext_iff_of_nodup (.of_map _ hkeys) (.of_map _ hkeys')).2 hmem
  exact hperm.eq_of_pairwise (fun a b _ _ hab hba => absurd hba (Std.Asymm.asymm _ _ hab)) h h'

end Keyed

namespace Dictionary

variable {α β : Type} {d d' : Dictionary α} {k : String} {v : α}

theorem mem_entries_iff : (k, v) ∈ d.entries ↔ d.get? k = some v :=
  (find?_key_eq_some_iff (nodup_keys d.sorted)).symm

theorem ext_get? (h : ∀ k, d.get? k = d'.get? k) : d = d' := by
  obtain ⟨entries, sorted⟩ := d
  obtain ⟨entries', sorted'⟩ := d'
  congr
  exact eq_of_find?_key_eq sorted sorted' h

theorem get?_empty : (empty : Dictionary α).get? k = none := rfl

theorem mem_keys_iff : k ∈ d.keys ↔ ∃ v, d.get? k = some v := by
  simp only [keys, List.mem_map, ← mem_entries_iff]
  constructor
  · rintro ⟨⟨_, v⟩, hentry, rfl⟩
    exact ⟨v, hentry⟩
  · rintro ⟨v, hentry⟩
    exact ⟨(k, v), hentry, rfl⟩

theorem length_alterList {f : Option α → α} {l : List (String × α)}
    (h : ∀ e ∈ l, e.1 ≠ k) : (alterList k f l).length = l.length + 1 := by
  induction l with
  | nil => rfl
  | cons e rest ih =>
      obtain ⟨hne, hrest⟩ := List.forall_mem_cons.1 h
      simp only [alterList]
      split
      · rfl
      · rw [if_neg (Ne.symm hne)]
        simp [ih hrest]

theorem size_insert (h : d.get? k = none) : (d.insert k v).size = d.size + 1 := by
  apply length_alterList
  rintro ⟨k', v'⟩ hentry rfl
  rw [mem_entries_iff.1 hentry] at h
  cases h

theorem get?_map (f : String → α → β) : (d.map f).get? k = (d.get? k).map (f k) := by
  refine Option.ext fun w => ?_
  rw [← mem_entries_iff, map, List.mem_map, Option.map_eq_some_iff]
  constructor
  · rintro ⟨⟨_, v⟩, hentry, heq⟩
    cases heq
    exact ⟨v, mem_entries_iff.1 hentry, rfl⟩
  · rintro ⟨v, hget, rfl⟩
    exact ⟨(k, v), mem_entries_iff.2 hget, rfl⟩

theorem get?_filter (p : String → α → Bool) : (d.filter p).get? k = (d.get? k).filter (p k) := by
  refine Option.ext fun v => ?_
  rw [← mem_entries_iff, filter, List.mem_filter, Option.filter_eq_some_iff, mem_entries_iff]

theorem get?_ofList (l : List (String × α)) :
    (ofList l).get? k = (l.reverse.find? fun e => e.1 == k).map (·.2) := by
  have hfold : ∀ (l : List (String × α)) (d : Dictionary α),
      (l.foldl (fun d e => d.insert e.1 e.2) d).get? k =
        ((l.reverse.find? fun e => e.1 == k).map (·.2)).or (d.get? k) := by
    intro l
    induction l with
    | nil => exact fun d => rfl
    | cons e rest ih =>
        intro d
        rw [List.foldl_cons, ih, get?_insert, List.reverse_cons, List.find?_append]
        by_cases hk : e.1 = k
        · simp [hk]
        · simp [hk, Ne.symm hk]
  rw [ofList, hfold, get?_empty, Option.or_none]

theorem mem_of_get?_ofList {l : List (String × α)} (h : (ofList l).get? k = some v) :
    (k, v) ∈ l := by
  rw [get?_ofList] at h
  exact List.mem_reverse.1 (mem_of_find?_key_eq_some h)

theorem ofList_congr {l l' : List (String × α)} (hperm : l.Perm l') (h : (l.map (·.1)).Nodup) :
    ofList l = ofList l' := by
  refine ext_get? fun k => ?_
  have hreverse : l.reverse.Perm l'.reverse :=
    ((List.reverse_perm l).trans hperm).trans (List.reverse_perm l').symm
  have hkeys : (l.reverse.map (·.1)).Nodup := ((List.reverse_perm l).map _).nodup_iff.2 h
  rw [get?_ofList, get?_ofList, find?_key_congr hreverse hkeys]

/-- Of elements that are put in one after another, those with a key make its value. -/
theorem get?_foldl_alter {β : Type} (key : β → String) (f : β → Option α → α) (xs : List β)
    (d : Dictionary α) (k : String) :
    (xs.foldl (fun d x => d.alter (key x) (f x)) d).get? k =
      (xs.filter fun x => key x == k).foldl (fun v x => some (f x v)) (d.get? k) := by
  induction xs generalizing d with
  | nil => rfl
  | cons x rest ih =>
      rw [List.foldl_cons, ih, get?_alter, List.filter_cons]
      by_cases hk : key x = k
      · simp [hk]
      · simp [hk, Ne.symm hk]

/-- If elements are put in one after another, the value of a key tells of the elements with the key
whatever the value of one element tells of it, and one more element keeps to. -/
theorem get?_foldl_alter_cases {β : Type} {Tells : List β → α → Prop} (key : β → String)
    (f : β → Option α → α) (first : ∀ x, Tells [x] (f x none))
    (more : ∀ seen x v, Tells seen v → Tells (seen ++ [x]) (f x (some v)))
    (xs : List β) (k : String) :
    (xs.filter (fun x => key x == k) = [] ∧
        (xs.foldl (fun d x => d.alter (key x) (f x)) empty).get? k = none) ∨
      ∃ v, (xs.foldl (fun d x => d.alter (key x) (f x)) empty).get? k = some v ∧
        Tells (xs.filter fun x => key x == k) v := by
  rw [get?_foldl_alter, get?_empty]
  generalize xs.filter (fun x => key x == k) = seen
  induction seen using List.reverseRecOn with
  | nil => exact .inl ⟨rfl, rfl⟩
  | append_singleton seen x ih =>
      rw [List.foldl_append]
      obtain ⟨rfl, -⟩ | ⟨v, hfold, hv⟩ := ih
      · exact .inr ⟨f x none, rfl, first x⟩
      · rw [hfold]
        exact .inr ⟨f x (some v), rfl, more seen x v hv⟩

theorem keys_eq_sortedTexts {xs : List String} (h : ∀ k, (∃ v, d.get? k = some v) ↔ k ∈ xs) :
    d.keys = sortedTexts xs := by
  refine List.Pairwise.eq_of_mem_iff (List.pairwise_map.2 d.sorted) (pairwise_sortedTexts xs)
    fun k => ?_
  rw [mem_sortedTexts, mem_keys_iff, h k]

theorem keys_foldl_alter {β : Type} (key : β → String) (f : β → Option α → α) (xs : List β) :
    (xs.foldl (fun d x => d.alter (key x) (f x)) empty).keys = sortedTexts (xs.map key) := by
  refine keys_eq_sortedTexts fun k => ?_
  let Tells (seen : List β) (_ : α) : Prop := seen ≠ []
  have hfirst (x : β) : Tells [x] (f x none) := List.cons_ne_nil x []
  have hmore (seen : List β) (x : β) (v : α) (_ : Tells seen v) :
      Tells (seen ++ [x]) (f x (some v)) :=
    List.append_ne_nil_of_right_ne_nil seen (List.cons_ne_nil x [])
  have hnone : xs.filter (fun x => key x == k) = [] ↔ k ∉ xs.map key := by
    simp [List.filter_eq_nil_iff]
  obtain ⟨hno, hget⟩ | ⟨v, hget, hsome⟩ := get?_foldl_alter_cases key f hfirst hmore xs k
  · rw [hget]
    exact ⟨nofun, fun hmem => absurd hmem (hnone.1 hno)⟩
  · exact ⟨fun _ => not_not.1 fun hno => hsome (hnone.2 hno), fun _ => ⟨v, hget⟩⟩

theorem filterMap_entries (d : Dictionary α) (f : String → α → Option β) :
    d.entries.filterMap (fun e => f e.1 e.2) =
      d.keys.filterMap fun k => (d.get? k).bind (f k) := by
  rw [keys, List.filterMap_map]
  refine List.filterMap_congr fun e he => ?_
  have hget : d.get? e.1 = some e.2 := mem_entries_iff.1 he
  rw [Function.comp_apply, hget, Option.bind_some]

end Dictionary

namespace EventTypes

theorem ext_get? {types types' : EventTypes} (h : ∀ code, types.get? code = types'.get? code) :
    types = types' := by
  obtain ⟨entries, sorted⟩ := types
  obtain ⟨entries', sorted'⟩ := types'
  congr
  exact eq_of_find?_key_eq sorted sorted' h

/-- The later of a tenant's rows with a code counts, and the default without one. -/
theorem get?_overDefaults (rows : List (Int × EventType)) (code : Int) :
    (overDefaults rows).get? code =
      ((rows.reverse.find? fun e => e.1 == code).map (·.2)).or (defaults.get? code) := by
  rw [overDefaults]
  generalize defaults = types
  induction rows generalizing types with
  | nil => rfl
  | cons e rest ih =>
      rw [List.foldl_cons, ih, get?_insert, List.reverse_cons, List.find?_append]
      by_cases hcode : e.1 = code
      · simp [hcode]
      · simp [hcode, Ne.symm hcode]

theorem overDefaults_congr {rows rows' : List (Int × EventType)} (hperm : rows.Perm rows')
    (h : (rows.map (·.1)).Nodup) : overDefaults rows = overDefaults rows' := by
  refine ext_get? fun code => ?_
  have hreverse : rows.reverse.Perm rows'.reverse :=
    ((List.reverse_perm rows).trans hperm).trans (List.reverse_perm rows').symm
  have hkeys : (rows.reverse.map (·.1)).Nodup := ((List.reverse_perm rows).map _).nodup_iff.2 h
  rw [get?_overDefaults, get?_overDefaults, find?_key_congr hreverse hkeys]

end EventTypes

end Recommendation
