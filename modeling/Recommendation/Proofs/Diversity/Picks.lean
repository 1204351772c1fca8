import Recommendation.Proofs.Dictionary
import Recommendation.Proofs.Diversity.Leftovers
import Recommendation.Proofs.Diversity.Worth

/-!
Which candidate is picked. At a place without a pin stands the candidate that is worth most behind
those in front of it, among all those that are left and have room; of several that are worth most it
is the one that ranks first. What has once had no room is not looked at again, and need not be,
since the list only grows. Where relevance alone counts, and nothing is capped or pinned, the picks
come in the order of ranks.
-/

namespace Recommendation

open scoped List

/-! ### The first of the best -/

namespace Diversity

section

variable {β : Type} {value : β → Float}

/-- An element that nothing in a list is above, with whatever is in front of it below it. -/
structure IsFirstBest (value : β → Float) (front : List β) (x : β) (back : List β) : Prop where
  front : ∀ y ∈ front, (value y).isNaN = false → value y < value x
  back : ∀ y ∈ back, ¬value x < value y

theorem IsFirstBest.not_lt {front back : List β} {x y : β} (h : IsFirstBest value front x back)
    (hy : y ∈ front ++ x :: back) : ¬value x < value y := by
  rcases List.mem_append.1 hy with hfront | hy
  · intro hlt
    exact Doubles.asymm_of_lt hlt (h.front y hfront (Doubles.lt_iff.1 hlt).2.1)
  · rcases List.mem_cons.1 hy with rfl | hback
    · exact Doubles.not_self_lt _
    · exact h.back y hback

theorem exists_isFirstBest_takeBestFrom {before behind : List β} {best : β}
    (h : IsFirstBest value before.reverse best behind.reverse) (rest : List β) :
    ∃ front x back, takeBestFrom value before best (value best) behind rest = (x, front ++ back) ∧
      before.reverse ++ best :: (behind.reverse ++ rest) = front ++ x :: back ∧
      IsFirstBest value front x back := by
  induction rest generalizing before best behind with
  | nil =>
      refine ⟨before.reverse, best, behind.reverse, ?_, ?_, h⟩
      · rw [takeBestFrom, List.reverse_append]
      · rw [List.append_nil]
  | cons y rest ih =>
      rw [takeBestFrom]
      split
      · rename_i hbelow
        have hlt : value best < value y := decide_eq_true_iff.1 hbelow
        have hpassed : (behind ++ best :: before).reverse =
            before.reverse ++ best :: behind.reverse := by
          simp
        have hbest : IsFirstBest value (behind ++ best :: before).reverse y [].reverse := by
          refine ⟨fun z hz hnumber => ?_, List.forall_mem_nil _⟩
          rw [hpassed] at hz
          exact Doubles.lt_of_not_lt_of_lt hnumber (h.not_lt hz) hlt
        obtain ⟨front, x, back, htaken, hsplit, hfirst⟩ := ih hbest
        refine ⟨front, x, back, htaken, ?_, hfirst⟩
        rw [← hsplit, hpassed]
        simp
      · rename_i hbelow
        have hnot : ¬value best < value y := fun hlt => hbelow (decide_eq_true_iff.2 hlt)
        have hbest : IsFirstBest value before.reverse best (y :: behind).reverse := by
          refine ⟨h.front, fun z hz => ?_⟩
          rcases List.mem_cons.1 (List.mem_reverse.1 hz) with rfl | hz
          · exact hnot
          · exact h.back z (List.mem_reverse.2 hz)
        obtain ⟨front, x, back, htaken, hsplit, hfirst⟩ := ih hbest
        refine ⟨front, x, back, htaken, ?_, hfirst⟩
        rw [← hsplit]
        simp

/-- What is taken out of a list is the first of its best elements. -/
theorem exists_isFirstBest {xs others : List β} {x : β}
    (h : takeBest? value xs = some (x, others)) :
    ∃ front back, xs = front ++ x :: back ∧ others = front ++ back ∧
      IsFirstBest value front x back := by
  cases xs with
  | nil => cases h
  | cons y rest =>
      have hstart : IsFirstBest value [].reverse y [].reverse :=
        ⟨List.forall_mem_nil _, List.forall_mem_nil _⟩
      obtain ⟨front, x', back, htaken, hsplit, hfirst⟩ :=
        exists_isFirstBest_takeBestFrom hstart rest
      rw [takeBest?, htaken] at h
      cases h
      exact ⟨front, back, hsplit, rfl, hfirst⟩

end

end Diversity

/-! ### What steps keep -/

theorem Diversity.mem_remaining_start {d : Diversity Float} {items : Dictionary Item}
    {cs : List (Candidate Float)} {x : Choice Float} (h : x ∈ (d.start items cs).remaining) :
    x.candidate ∈ cs ∧ x.candidate.pin = none := by
  obtain ⟨c, hc, rfl⟩ := List.mem_map.1 h
  obtain ⟨hmem, hpin⟩ := List.mem_filter.1 ((mem_sortWith _).1 hc)
  exact ⟨hmem, Option.isNone_iff_eq_none.1 hpin⟩

/-- What remains are candidates without a pin in the order of their ranks, and whoever has none and
is neither chosen nor among them is crowded out. -/
structure Filling.Pooled (d : Diversity Float) (items : Dictionary Item)
    (cs : List (Candidate Float)) (s : Filling Float) : Prop where
  capped : s.Capped d items
  supplied : s.supply <+~ cs
  ranked : s.remaining <+ (d.start items cs).remaining
  present : ∀ c ∈ cs, c.pin = none →
    c ∈ s.list ∨ d.choice items c ∈ s.remaining ∨ d.IsCrowdedOut items s.list c

section Steps

variable {d : Diversity Float} {items : Dictionary Item} {largest : Float} {s s' : Filling Float}
  {cs : List (Candidate Float)} {c : Candidate Float}

theorem Filling.Capped.mem_withRoom_iff (h : s.Capped d items) :
    d.choice items c ∈ d.withRoom s.chosen s.remaining ↔
      d.choice items c ∈ s.remaining ∧ ¬d.IsCrowdedOut items s.list c := by
  rw [Diversity.withRoom, List.mem_filter, ← h.choices, Bool.not_eq_true', ← Bool.not_eq_true,
    Diversity.violates_iff]
  exact Iff.rfl

theorem Filling.Capped.marginal_choice (h : s.Capped d items) (cs : List (Candidate Float))
    (c : Candidate Float) : d.marginal (Diversity.largestScore cs) s.chosen (d.choice items c) =
      d.worth items cs s.list c := by
  rw [← h.choices]
  exact d.marginal_eq_worth items cs s.list c

/-- What no longer remains after a step has been chosen or is crowded out. -/
theorem FillStep.remaining_cases (h : FillStep d items largest s s') (hs : s.Capped d items)
    (hc : d.choice items c ∈ s.remaining) :
    c ∈ s'.list ∨ d.choice items c ∈ s'.remaining ∨ d.IsCrowdedOut items s.list c := by
  have hroom := hs.mem_withRoom_iff (c := c)
  cases h with
  | slot hslot => exact .inr (.inl hc)
  | @pick slots remaining chosen x others hslot hpick =>
      by_cases hcrowded : d.IsCrowdedOut items (Filling.list ⟨slots, remaining, chosen⟩) c
      · exact .inr (.inr hcrowded)
      · have hmem := (Diversity.perm_of_takeBest? hpick).symm.subset (hroom.2 ⟨hc, hcrowded⟩)
        rcases List.mem_cons.1 hmem with rfl | hothers
        · left
          simp [Filling.list, Diversity.choice]
        · exact .inr (.inl hothers)
  | @moveUp slot c' later remaining chosen hslot hpick =>
      have hnone := Diversity.takeBest?_eq_none_iff.1 hpick
      refine .inr (.inr ?_)
      by_contra hcrowded
      have hmem := hroom.2 ⟨hc, hcrowded⟩
      rw [hnone] at hmem
      cases hmem

theorem FillStep.remaining_sublist (h : FillStep d items largest s s') :
    s'.remaining <+ s.remaining := by
  cases h with
  | slot => exact .refl _
  | @pick slots remaining chosen x others hslot hpick =>
      obtain ⟨front, back, hsplit, rfl, -⟩ := Diversity.exists_isFirstBest hpick
      have hpassed : front ++ back <+ front ++ x :: back :=
        (List.sublist_cons_self x back).append_left front
      exact (hsplit ▸ hpassed).trans (d.withRoom_sublist chosen remaining)
  | moveUp => exact List.nil_sublist _

theorem FillStep.pooled (h : FillStep d items largest s s') (hs : s.Pooled d items cs) :
    s'.Pooled d items cs := by
  obtain ⟨x, hlist⟩ := h.exists_list_eq
  refine ⟨h.capped hs.capped, h.supply_subperm.trans hs.supplied,
    h.remaining_sublist.trans hs.ranked, fun c hc hpin => ?_⟩
  have hgrown (h : d.IsCrowdedOut items s.list c) : d.IsCrowdedOut items s'.list c := by
    rw [hlist]
    exact h.append [x]
  rcases hs.present c hc hpin with hchosen | hremaining | hcrowded
  · exact .inl (hlist ▸ List.mem_append_left _ hchosen)
  · exact (h.remaining_cases hs.capped hremaining).imp_right (Or.imp_right hgrown)
  · exact .inr (.inr (hgrown hcrowded))

/-- Of distinct candidates the one that comes first remains in front. -/
theorem Filling.Pooled.pairwise_remaining (hs : s.Pooled d items cs)
    (hids : (cs.map (·.id)).Nodup) : s.remaining.Pairwise fun x y =>
      Candidate.rankOrder x.candidate y.candidate = .lt := by
  have hranked : (Candidate.rank (cs.filter (·.pin.isNone))).Pairwise fun a b =>
      Candidate.rankOrder a b = .lt :=
    pairwise_lt_sortWith_of_nodup _ (fun _ _ => Candidate.id_eq_of_rankOrder)
      (hids.sublist (List.filter_sublist.map _))
  exact List.Pairwise.sublist hs.ranked (List.pairwise_map.2 hranked)

end Steps

/-! ### Picks -/

namespace Diversity

variable (d : Diversity Float) (items : Dictionary Item) (cs : List (Candidate Float))

/-- A candidate without a pin that is not in a list and has room behind it. -/
structure Eligible (list : List (Candidate Float)) (c : Candidate Float) : Prop where
  mem : c ∈ cs
  unpinned : c.pin = none
  fresh : c ∉ list
  room : ¬d.IsCrowdedOut items list c

/-- No candidate that could stand behind a list is worth more than this one, and none that is worth
as much ranks in front of it. -/
structure IsBestPick (list : List (Candidate Float)) (c : Candidate Float) : Prop where
  eligible : d.Eligible items cs list c
  best : ∀ y, d.Eligible items cs list y → ¬d.worth items cs list c < d.worth items cs list y
  first : ∀ y, d.Eligible items cs list y → (d.worth items cs list y).isNaN = false →
    ¬d.worth items cs list y < d.worth items cs list c → y = c ∨ Candidate.rankOrder c y = .lt

end Diversity

section Steps

variable {d : Diversity Float} {items : Dictionary Item} {s s' : Filling Float}
  {cs : List (Candidate Float)}

theorem Filling.Pooled.eligible (hs : s.Pooled d items cs) (hids : (cs.map (·.id)).Nodup)
    {x : Choice Float} (hx : x ∈ d.withRoom s.chosen s.remaining) :
    d.Eligible items cs s.list x.candidate := by
  have hremaining := (d.withRoom_sublist _ _).subset hx
  obtain ⟨hcandidate, hpin⟩ := Diversity.mem_remaining_start (hs.ranked.subset hremaining)
  refine ⟨hcandidate, hpin, fun hchosen => ?_, ?_⟩
  · -- No candidate is supplied twice, so what remains has not been chosen.
    obtain ⟨supplied, hperm, hsub⟩ := hs.supplied
    have hnodup : s.supply.Nodup := hperm.nodup_iff.1 ((List.Nodup.of_map _ hids).sublist hsub)
    have hapart := (List.nodup_append.1 hnodup).2.2 _ hchosen _
      (List.mem_append_right _ (List.mem_map_of_mem hremaining))
    exact hapart rfl
  · rw [← hs.capped.remaining x hremaining, hs.capped.mem_withRoom_iff] at hx
    exact hx.2

theorem Filling.Pooled.choice_mem_withRoom (hs : s.Pooled d items cs) {y : Candidate Float}
    (hy : d.Eligible items cs s.list y) :
    d.choice items y ∈ d.withRoom s.chosen s.remaining := by
  rw [hs.capped.mem_withRoom_iff]
  refine ⟨?_, hy.room⟩
  rcases hs.present y hy.mem hy.unpinned with hchosen | hremaining | hcrowded
  · exact absurd hchosen hy.fresh
  · exact hremaining
  · exact absurd hcrowded hy.room

theorem Filling.Pooled.isBestPick (hs : s.Pooled d items cs) (hids : (cs.map (·.id)).Nodup)
    {front back : List (Choice Float)} {x : Choice Float}
    (hsplit : d.withRoom s.chosen s.remaining = front ++ x :: back)
    (hfirst : Diversity.IsFirstBest (d.marginal (Diversity.largestScore cs) s.chosen)
      front x back) : d.IsBestPick items cs s.list x.candidate := by
  have hvalue := hs.capped.marginal_choice cs
  have hmem : x ∈ d.withRoom s.chosen s.remaining := by
    rw [hsplit]
    exact List.mem_append_right _ List.mem_cons_self
  have hx : d.choice items x.candidate = x :=
    hs.capped.remaining x ((d.withRoom_sublist _ _).subset hmem)
  have hother (y : Candidate Float) (hy : d.Eligible items cs s.list y) :
      d.choice items y ∈ front ++ x :: back := by
    rw [← hsplit]
    exact hs.choice_mem_withRoom hy
  refine ⟨hs.eligible hids hmem, fun y hy => ?_, fun y hy hnumber hnot => ?_⟩
  · have hbest := hfirst.not_lt (hother y hy)
    rwa [hvalue, ← hx, hvalue] at hbest
  · rcases List.mem_append.1 (hother y hy) with hfront | hmem
    · have hlt := hfirst.front _ hfront
      rw [hvalue, ← hx, hvalue] at hlt
      exact absurd (hlt hnumber) hnot
    · rcases List.mem_cons.1 hmem with heq | hback
      · exact .inl (congrArg Choice.candidate heq)
      · have hpairwise := List.Pairwise.sublist (d.withRoom_sublist s.chosen s.remaining)
          (hs.pairwise_remaining hids)
        rw [hsplit] at hpairwise
        have hlater := (List.pairwise_cons.1 (List.pairwise_append.1 hpairwise).2.1).1
        exact .inr (hlater (d.choice items y) hback)

/-- A step adds a pinned candidate or the best pick. -/
theorem FillStep.isBestPick (h : FillStep d items (Diversity.largestScore cs) s s')
    (hs : s.Pooled d items cs) (hids : (cs.map (·.id)).Nodup) :
    ∃ x, s'.list = s.list ++ [x] ∧ (x.pin = none → d.IsBestPick items cs s.list x) := by
  cases h with
  | slot hslot =>
      have hpin := hs.capped.slots _ (List.mem_of_find?_eq_some hslot)
      exact ⟨_, List.map_append, fun hnone => absurd hnone (Option.ne_none_iff_isSome.2 hpin)⟩
  | moveUp =>
      have hpin := hs.capped.slots _ List.mem_cons_self
      exact ⟨_, List.map_append, fun hnone => absurd hnone (Option.ne_none_iff_isSome.2 hpin)⟩
  | pick hslot hpick =>
      obtain ⟨front, back, hsplit, -, hfirst⟩ := Diversity.exists_isFirstBest hpick
      exact ⟨_, List.map_append, fun _ => hs.isBestPick hids hsplit hfirst⟩

theorem FillStep.isBestPick_getElem? (h : FillStep d items (Diversity.largestScore cs) s s')
    (hs : s.Pooled d items cs) (hids : (cs.map (·.id)).Nodup)
    (hpicks : ∀ (n : Nat) x, s.list[n]? = some x → x.pin = none →
      d.IsBestPick items cs (s.list.take n) x) (n : Nat) (x : Candidate Float)
    (hx : s'.list[n]? = some x) (hpin : x.pin = none) :
    d.IsBestPick items cs (s'.list.take n) x := by
  obtain ⟨y, hlist, hbest⟩ := h.isBestPick hs hids
  rw [hlist] at hx ⊢
  rcases Nat.lt_trichotomy n s.list.length with hlt | rfl | hgt
  · rw [List.getElem?_append_left hlt] at hx
    rw [List.take_append_of_le_length hlt.le]
    exact hpicks n x hx hpin
  · rw [List.getElem?_concat_length, Option.some_inj] at hx
    rw [List.take_left]
    subst hx
    exact hbest hpin
  · have hout : (s.list ++ [y]).length ≤ n := by
      rw [List.length_append, List.length_singleton]
      exact hgt
    rw [List.getElem?_eq_none hout] at hx
    cases hx

end Steps

namespace Diversity

variable (d : Diversity Float) (items : Dictionary Item) {cs : List (Candidate Float)}

theorem pooled_start (cs : List (Candidate Float)) : (d.start items cs).Pooled d items cs := by
  refine ⟨d.capped_start items cs, (d.supply_start items cs).subperm, .refl _,
    fun c hc hpin => .inr (.inl (List.mem_map_of_mem ?_))⟩
  exact (mem_sortWith _).2 (List.mem_filter.2 ⟨hc, Option.isNone_iff_eq_none.2 hpin⟩)

/-- Whatever stands in the list without a pin has been the best pick there. -/
theorem isBestPick_list (k : Nat) (hids : (cs.map (·.id)).Nodup) (n : Nat) (x : Candidate Float)
    (hx : (d.list items k cs)[n]? = some x) (hpin : x.pin = none) :
    d.IsBestPick items cs ((d.list items k cs).take n) x := by
  obtain ⟨s, hrun, hlist⟩ := d.exists_run_list items k cs
  have hkept : s.Pooled d items cs ∧ ∀ (n : Nat) x, s.list[n]? = some x → x.pin = none →
      d.IsBestPick items cs (s.list.take n) x := by
    refine hrun.keeps (motive := fun t => t.Pooled d items cs ∧ ∀ (n : Nat) x,
      t.list[n]? = some x → x.pin = none → d.IsBestPick items cs (t.list.take n) x) ?_ ?_
    · rintro t t' hstep ⟨hpooled, hpicks⟩
      exact ⟨hstep.pooled hpooled, hstep.isBestPick_getElem? hpooled hids hpicks⟩
    · exact ⟨d.pooled_start items cs, nofun⟩
  rw [hlist] at hx ⊢
  exact hkept.2 n x hx hpin

end Diversity

/-! ### Relevance alone -/

theorem Diversity.withRoom_of_uncapped {d : Diversity Float} (hbrand : d.brandCap = 0)
    (hcategory : d.categoryCap = 0) (chosen remaining : List (Choice Float)) :
    d.withRoom chosen remaining = remaining := by
  simp [withRoom, violates, isFull, hbrand, hcategory]

/-- No pins wait, and what has been chosen and what remains are all candidates by rank. -/
structure Filling.InRankOrder (d : Diversity Float) (items : Dictionary Item)
    (cs : List (Candidate Float)) (s : Filling Float) : Prop where
  capped : s.Capped d items
  slots : s.slots = []
  ranked : s.list ++ s.remaining.map (·.candidate) = Candidate.rank cs

section RankOrder

variable {d : Diversity Float} {items : Dictionary Item} {s s' : Filling Float}
  {cs : List (Candidate Float)} (hbalance : d.balance = 1.0) (hbrand : d.brandCap = 0)
  (hcategory : d.categoryCap = 0) (hfinite : ∀ c ∈ cs, c.score.isFinite = true)
  (hitems : Diversity.TagsFit items)

include hbalance hfinite hitems

theorem Filling.InRankOrder.front_eq_nil (hs : s.InRankOrder d items cs)
    {front back : List (Choice Float)} {x : Choice Float}
    (hsplit : s.remaining = front ++ x :: back)
    (hfirst : Diversity.IsFirstBest (d.marginal (Diversity.largestScore cs) s.chosen)
      front x back) : front = [] := by
  cases front with
  | nil => rfl
  | cons y front =>
      have hy : y ∈ s.remaining := by simp [hsplit]
      have hx : x ∈ s.remaining := by simp [hsplit]
      have hvalue {z : Choice Float} (hz : z ∈ s.remaining) :
          d.marginal (Diversity.largestScore cs) s.chosen z =
            d.worth items cs s.list z.candidate := by
        rw [← hs.capped.remaining z hz]
        exact hs.capped.marginal_choice cs z.candidate
      have hmem {z : Choice Float} (hz : z ∈ s.remaining) : z.candidate ∈ cs := by
        have hrank : z.candidate ∈ Candidate.rank cs := by
          rw [← hs.ranked]
          exact List.mem_append_right _ (List.mem_map_of_mem hz)
        exact (mem_sortWith _).1 hrank
      have hranks : (Candidate.rankOrder y.candidate x.candidate).isLE = true := by
        have hsorted := pairwise_sortWith Candidate.rankOrder cs
        rw [← Candidate.rank, ← hs.ranked, hsplit] at hsorted
        have hbehind := (List.pairwise_cons.1 (List.pairwise_append.1 hsorted).2.1).1
        refine hbehind _ (List.mem_map_of_mem ?_)
        exact List.mem_append_right _ List.mem_cons_self
      obtain ⟨hnumber, hnot⟩ := Diversity.not_worth_lt hbalance hitems hfinite s.list
        (hmem hy) (hmem hx) hranks
      have hlt := hfirst.front y List.mem_cons_self
      rw [hvalue hy, hvalue hx] at hlt
      exact absurd (hlt hnumber) hnot

include hbrand hcategory

theorem FillStep.inRankOrder (h : FillStep d items (Diversity.largestScore cs) s s')
    (hs : s.InRankOrder d items cs) : s'.InRankOrder d items cs := by
  have hcapped := h.capped hs.capped
  cases h with
  | slot hslot =>
      obtain rfl := hs.slots
      cases hslot
  | moveUp => cases hs.slots
  | @pick slots remaining chosen x others hslot hpick =>
      rw [Diversity.withRoom_of_uncapped hbrand hcategory] at hpick
      obtain ⟨front, back, hsplit, rfl, hfirst⟩ := Diversity.exists_isFirstBest hpick
      obtain rfl := hs.front_eq_nil hbalance hfinite hitems hsplit hfirst
      refine ⟨hcapped, hs.slots, ?_⟩
      rw [← hs.ranked]
      simp [Filling.list, hsplit]

end RankOrder

namespace Diversity

variable (d : Diversity Float) (items : Dictionary Item) (cs : List (Candidate Float))

/-- With all weight on relevance, no caps and no pins, candidates are listed by rank. -/
theorem list_eq_take_rank (k : Nat) (hbalance : d.balance = 1.0) (hbrand : d.brandCap = 0)
    (hcategory : d.categoryCap = 0) (hpins : ∀ c ∈ cs, c.pin = none)
    (hfinite : ∀ c ∈ cs, c.score.isFinite = true) (hitems : TagsFit items) :
    d.list items k cs = (Candidate.rank cs).take k := by
  obtain ⟨s, hrun, hlist⟩ := d.exists_run_list items k cs
  have hstart : (d.start items cs).InRankOrder d items cs := by
    have hpinned : cs.filter (·.pin.isSome) = [] := by
      refine List.filter_eq_nil_iff.2 fun c hc => ?_
      rw [hpins c hc]
      exact Bool.false_ne_true
    have hothers : cs.filter (·.pin.isNone) = cs := by
      refine List.filter_eq_self.2 fun c hc => ?_
      rw [hpins c hc]
      rfl
    refine ⟨d.capped_start items cs, ?_, ?_⟩
    · rw [start, hpinned]
      rfl
    · simp [start, hothers, Filling.list, choice, Function.comp_def]
  have hend := hrun.keeps
    (fun _ _ hstep => hstep.inRankOrder hbalance hbrand hcategory hfinite hitems) hstart
  rw [hlist, ← hend.ranked]
  rcases hrun.full_or_stuck with hfull | hstuck
  · have hlength : s.list.length = k := by
      rw [s.length_list, hfull]
      exact Nat.zero_add k
    exact (List.take_left' hlength).symm
  · have hroom := (Filling.spent_of_stuck hstuck).2
    rw [withRoom_of_uncapped hbrand hcategory] at hroom
    have hlength : s.list.length ≤ k := by
      rw [s.length_list]
      exact hrun.length_chosen_le.trans_eq (Nat.zero_add k)
    rw [hroom, List.map_nil, List.append_nil, List.take_of_length_le hlength]
    rfl

/-- At every place of the list without a pin stands the best pick: of the candidates without a pin
that are not in front of it, and that no cap crowds out behind what is, none is worth more, and of
those worth as much it ranks first. The largest score and the greatest likeness, which say what a
candidate is worth, are the largest of their kind, or nought if none is above nought. With all
weight on relevance, no caps and no pins, the list is the first candidates by rank. -/
theorem list_picks_best (k : Nat) (hids : (cs.map (·.id)).Nodup) :
    (∀ (n : Nat) x, (d.list items k cs)[n]? = some x → x.pin = none →
        d.IsBestPick items cs ((d.list items k cs).take n) x) ∧
      IsLargest ((cs.filter (·.pin.isNone)).map (·.score)) (largestScore cs) ∧
      (∀ likenesses, IsLargest likenesses (Score.largest likenesses)) ∧
      (d.balance = 1.0 → d.brandCap = 0 → d.categoryCap = 0 → (∀ c ∈ cs, c.pin = none) →
        (∀ c ∈ cs, c.score.isFinite = true) → TagsFit items →
        d.list items k cs = (Candidate.rank cs).take k) :=
  ⟨d.isBestPick_list items k hids, isLargest_largestScore cs, isLargest_largest,
    d.list_eq_take_rank items cs k⟩

def halfAndHalf : Diversity Float := { byRelevance with balance := 0.5 }

/-- Two pairs of shoes, whose tags are written differently, and a cap. -/
def hatShop : Dictionary Item :=
  .ofList [("boot", { id := "boot", tags := ["Shoes "] }),
    ("clog", { id := "clog", tags := ["shoes"] }), ("cap", { id := "cap", tags := ["hats"] })]

def capLast : List (Candidate Float) :=
  [.scored "clog" 2.5, .scored "cap" 2.0, .scored "boot" 3.0]

/-- Behind the boot the cap is the best pick, since the clog is like the boot. By relevance alone
the clog would be next. -/
theorem list_picks_best_capLast :
    (capLast.map (·.id)).Nodup ∧
      (halfAndHalf.list hatShop 3 capLast).map (·.id) = ["boot", "cap", "clog"] ∧
      (∃ x, (halfAndHalf.list hatShop 3 capLast)[1]? = some x ∧ x.id = "cap" ∧
        halfAndHalf.IsBestPick hatShop capLast ((halfAndHalf.list hatShop 3 capLast).take 1) x) ∧
      byRelevance.list hatShop 2 capLast = (Candidate.rank capLast).take 2 := by
  have hids : (capLast.map (·.id)).Nodup := by decide
  have hlist : (halfAndHalf.list hatShop 3 capLast).map (·.id) = ["boot", "cap", "clog"] := by
    decide +kernel
  have hpins : ∀ c ∈ capLast, c.pin = none := by decide
  have hfinite : ∀ c ∈ capLast, c.score.isFinite = true := by decide +kernel
  have hitems : TagsFit hatShop := by
    intro id item hitem
    have hmem := Dictionary.mem_of_get?_ofList hitem
    simp only [List.mem_cons, Prod.mk.injEq, List.not_mem_nil, or_false] at hmem
    rcases hmem with ⟨-, rfl⟩ | ⟨-, rfl⟩ | ⟨-, rfl⟩ <;> decide
  refine ⟨hids, hlist, ?_, (byRelevance.list_picks_best hatShop capLast 2 hids).2.2.2 rfl rfl rfl
    hpins hfinite hitems⟩
  have hsecond := congrArg (·[1]?) hlist
  simp only [List.getElem?_map] at hsecond
  obtain ⟨x, hx, hid⟩ := Option.map_eq_some_iff.1 hsecond
  have hpin := hpins x ((halfAndHalf.list_subperm hatShop 3 capLast).subset
    (List.mem_of_getElem? hx))
  exact ⟨x, hx, hid, (halfAndHalf.list_picks_best hatShop capLast 3 hids).1 1 x hx hpin⟩

end Diversity

end Recommendation
