import Recommendation.Proofs.Diversity.Filling
import Recommendation.Proofs.Doubles.Laws

/-!
What a candidate is worth behind a list: how relevant it is, less how much it is like what the list
has already. Likeness is that of the sets of tags, relevance that next to the largest score. Where
relevance alone counts, a candidate that ranks no higher is worth no more, since likeness, a finite
number, is multiplied by nought, and division by the largest score keeps the order of scores.
-/

namespace Recommendation

/-! ### Likeness of sets of tags -/

section Likeness

variable {α : Type}

def Candidate.tagSet (items : Dictionary Item) (c : Candidate α) : Finset String :=
  ((items.get? c.id).elim [] (·.normalTags)).toFinset

/-- What two sets share over what either has, nothing if they are empty. -/
def jaccard (A B : Finset String) : Float :=
  if (A ∪ B).card = 0 then 0.0 else Score.ofNat (A ∩ B).card / Score.ofNat (A ∪ B).card

theorem likeness_eq_jaccard {a b : List String} (ha : a.Nodup) (hb : b.Nodup) :
    likeness a b = jaccard a.toFinset b.toFinset := by
  have hcommon : a.countP b.contains = (a.toFinset ∩ b.toFinset).card := by
    rw [List.countP_eq_length_filter, ← List.toFinset_card_of_nodup (ha.filter _)]
    congr 1
    ext tag
    simp
  have htotal : a.length + b.length - a.countP b.contains = (a.toFinset ∪ b.toFinset).card := by
    rw [hcommon, Finset.card_union, List.toFinset_card_of_nodup ha, List.toFinset_card_of_nodup hb]
  rw [likeness, jaccard, htotal, hcommon]
  rfl

namespace Diversity

variable (d : Diversity α) (items : Dictionary Item) (c : Candidate α)

theorem nodup_tags_choice : (d.choice items c).facets.tags.Nodup := by
  rw [choice]
  cases items.get? c.id with
  | none => exact List.nodup_nil
  | some item => exact nodup_sortedTexts _

theorem toFinset_tags_choice :
    (d.choice items c).facets.tags.toFinset = c.tagSet items := by
  rw [choice, Candidate.tagSet]
  cases items.get? c.id with
  | none => rfl
  | some item =>
      ext tag
      simp [facets]

end Diversity

end Likeness

/-! ### The largest -/

structure IsLargest (xs : List Float) (largest : Float) : Prop where
  attained : largest ∈ 0.0 :: xs
  bound : ∀ x ∈ 0.0 :: xs, ¬largest < x

theorem isLargest_largest (xs : List Float) : IsLargest xs (Score.largest xs) := by
  -- From the end, where one more double is compared with the largest of those before it.
  induction xs using List.reverseRecOn with
  | nil => exact ⟨List.mem_singleton.2 rfl, fun x hx => List.mem_singleton.1 hx ▸ by decide⟩
  | append_singleton xs y ih =>
      obtain ⟨hattained, hbound⟩ := ih
      have hlast : Score.largest (xs ++ [y]) = Score.larger (Score.largest xs) y := by
        rw [Score.largest, List.foldl_append]
        rfl
      rw [hlast, Score.larger]
      split
      · rename_i hbelow
        have hlt : Score.largest xs < y := decide_eq_true_iff.1 hbelow
        refine ⟨List.mem_cons_of_mem _ (List.mem_append_right _ (List.mem_singleton.2 rfl)), ?_⟩
        rw [← List.cons_append, List.forall_mem_append]
        refine ⟨fun x hx => Doubles.not_lt_of_not_lt_of_lt (hbound x hx) hlt, fun x hx => ?_⟩
        cases List.mem_singleton.1 hx
        exact Doubles.not_self_lt y
      · rename_i hbelow
        have hnot : ¬Score.largest xs < y := fun hlt => hbelow (decide_eq_true_iff.2 hlt)
        refine ⟨List.mem_append_left [y] hattained, ?_⟩
        rw [← List.cons_append, List.forall_mem_append]
        exact ⟨hbound, fun x hx => List.mem_singleton.1 hx ▸ hnot⟩

/-- Sorting by rank does not change which score is the largest. -/
theorem Diversity.isLargest_largestScore (cs : List (Candidate Float)) :
    IsLargest ((cs.filter (·.pin.isNone)).map (·.score)) (largestScore cs) := by
  have hperm := ((sortWith_perm Candidate.rankOrder (cs.filter (·.pin.isNone))).map (·.score)).cons
    (0.0 : Float)
  obtain ⟨hattained, hbound⟩ := isLargest_largest
    ((Candidate.rank (cs.filter (·.pin.isNone))).map (·.score))
  exact ⟨hperm.subset hattained, fun x hx => hbound x (hperm.symm.subset hx)⟩

/-! ### Worth -/

namespace Diversity

variable (d : Diversity Float) (items : Dictionary Item) (cs : List (Candidate Float))

/-- What a candidate is worth behind a list: relevance next to the largest score, less likeness to
the candidate of the list that is most like it. -/
def worth (list : List (Candidate Float)) (c : Candidate Float) : Float :=
  d.balance * (if 0.0 < largestScore cs then c.score / largestScore cs else 0.0) -
    (1.0 - d.balance) * Score.largest (list.map fun x => jaccard (c.tagSet items) (x.tagSet items))

theorem relevance_eq (largest : Float) (c : Candidate Float) :
    relevance largest c = if 0.0 < largest then c.score / largest else 0.0 := by
  rw [relevance]
  exact if_congr decide_eq_true_iff rfl rfl

theorem marginal_eq_worth (list : List (Candidate Float)) (c : Candidate Float) :
    d.marginal (largestScore cs) (list.map (d.choice items)) (d.choice items c) =
      d.worth items cs list c := by
  have hredundancy : redundancy (list.map (d.choice items)) (d.choice items c).facets =
      Score.largest (list.map fun x => jaccard (c.tagSet items) (x.tagSet items)) := by
    rw [redundancy, List.map_map]
    congr 1
    refine List.map_congr_left fun x _ => ?_
    rw [Function.comp_apply, likeness_eq_jaccard (d.nodup_tags_choice items c)
      (d.nodup_tags_choice items x), toFinset_tags_choice, toFinset_tags_choice]
  rw [marginal, hredundancy, relevance_eq]
  rfl

end Diversity

/-! ### Relevance alone -/

namespace Diversity

section Relevance

variable {d : Diversity Float} {items : Dictionary Item} {cs : List (Candidate Float)}
  {c c' : Candidate Float}

def TagsFit (items : Dictionary Item) : Prop :=
  ∀ id item, items.get? id = some item → item.tags.length < 2 ^ 63

theorem card_tagSet_lt (hitems : TagsFit items) (c : Candidate Float) :
    (c.tagSet items).card < 2 ^ 63 := by
  refine (List.toFinset_card_le _).trans_lt ?_
  cases hitem : items.get? c.id with
  | none => exact Nat.two_pow_pos 63
  | some item =>
      rw [Option.elim_some, Item.normalTags, List.length_map]
      exact hitems c.id item hitem

theorem isFinite_jaccard {A B : Finset String} (hA : A.card < 2 ^ 63) (hB : B.card < 2 ^ 63) :
    (jaccard A B).isFinite = true := by
  rw [jaccard]
  split
  · rfl
  · rename_i hsome
    have hunion := Finset.card_union_le A B
    have hshared : (A ∩ B).card ≤ (A ∪ B).card :=
      Finset.card_le_card (Finset.inter_subset_left.trans Finset.subset_union_left)
    exact Doubles.isFinite_ofNat_div hshared (Nat.pos_of_ne_zero hsome) (by omega)

theorem isFinite_largest {xs : List Float} (h : ∀ x ∈ xs, x.isFinite = true) :
    (Score.largest xs).isFinite = true := by
  rcases List.mem_cons.1 (isLargest_largest xs).attained with hzero | hmem
  · rw [hzero]
    rfl
  · exact h _ hmem

theorem isFinite_largestScore (hfinite : ∀ c ∈ cs, c.score.isFinite = true) :
    (largestScore cs).isFinite = true := by
  refine isFinite_largest fun x hx => ?_
  obtain ⟨c, hc, rfl⟩ := List.mem_map.1 hx
  exact hfinite c (List.mem_filter.1 ((mem_sortWith _).1 hc)).1

/-- A candidate that ranks no higher is no more relevant. -/
theorem height_relevance_mono {largest : Float} (hlargest : largest.isFinite = true)
    (hc : c.score.isFinite = true) (hc' : c'.score.isFinite = true)
    (h : floatRank c'.score ≤ floatRank c.score) :
    (relevance largest c).isNaN = false ∧
      Doubles.height (relevance largest c') ≤ Doubles.height (relevance largest c) := by
  have hheight := Doubles.height_le_of_floatRank_le (Doubles.isFinite_iff.1 hc').1
    (Doubles.isFinite_iff.1 hc).1 h
  rw [relevance_eq, relevance_eq]
  split
  · rename_i hpos
    exact (Doubles.height_div_mono hc' hc hlargest hpos hheight).2
  · exact ⟨rfl, le_rfl⟩

/-- With all weight on relevance, likeness takes nothing away. -/
theorem height_worth (hbalance : d.balance = 1.0) (hitems : TagsFit items)
    (list : List (Candidate Float)) (hnumber : (relevance (largestScore cs) c).isNaN = false) :
    (d.worth items cs list c).isNaN = false ∧
      Doubles.height (d.worth items cs list c) =
        Doubles.height (relevance (largestScore cs) c) := by
  have hredundancy : (Score.largest (list.map fun x =>
      jaccard (c.tagSet items) (x.tagSet items))).isFinite = true := by
    refine isFinite_largest fun x hx => ?_
    obtain ⟨c', -, rfl⟩ := List.mem_map.1 hx
    exact isFinite_jaccard (card_tagSet_lt hitems c) (card_tagSet_lt hitems c')
  have hnothing : (1.0 - 1.0 : Float) = 0.0 := rfl
  rw [worth, hbalance, hnothing, ← relevance_eq]
  obtain ⟨hone, hsame⟩ := Doubles.height_one_mul hnumber
  obtain ⟨hzero, hnought⟩ := Doubles.height_zero_mul hredundancy
  obtain ⟨hworth, hheight⟩ := Doubles.height_sub_zero hone hzero hnought
  exact ⟨hworth, hheight.trans hsame⟩

/-- With all weight on relevance, a candidate that ranks no higher is worth no more. -/
theorem not_worth_lt (hbalance : d.balance = 1.0) (hitems : TagsFit items)
    (hfinite : ∀ c ∈ cs, c.score.isFinite = true) (list : List (Candidate Float)) (hc : c ∈ cs)
    (hc' : c' ∈ cs) (h : (Candidate.rankOrder c c').isLE = true) :
    (d.worth items cs list c).isNaN = false ∧
      ¬d.worth items cs list c < d.worth items cs list c' := by
  have hscore : floatRank c'.score ≤ floatRank c.score := by
    rw [Candidate.rankOrder, Ordering.isLE_then_iff_and, Ordering.isLE_then_iff_and] at h
    exact Std.isLE_compare.1 h.1.1
  have hlargest := isFinite_largestScore hfinite
  have hself := height_relevance_mono hlargest (hfinite c' hc') (hfinite c' hc') le_rfl
  obtain ⟨hnumber, hmono⟩ :=
    height_relevance_mono hlargest (hfinite c hc) (hfinite c' hc') hscore
  obtain ⟨hworth, hheight⟩ := height_worth hbalance hitems list hnumber
  obtain ⟨-, hheight'⟩ := height_worth hbalance hitems list hself.1
  refine ⟨hworth, fun hlt => ?_⟩
  have hlt := (Doubles.lt_iff.1 hlt).2.2
  rw [hheight, hheight'] at hlt
  exact absurd hmono (not_le.2 hlt)

end Relevance

end Diversity

end Recommendation
