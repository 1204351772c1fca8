import Recommendation.Proofs.Diversity.Filling

/-!
What caps promise. An unpinned candidate is chosen while each of its facet values
still has room among what is in front of it, and pins are never held back. So of the
items that carry a value only those within the cap can be unpinned. A pin may still
stand behind them and exceed the cap, since it asks for its place and not for room.
-/

namespace Recommendation

inductive FacetKind
  | brand
  | category

def Facets.values (f : Facets) : FacetKind → List String
  | .brand => f.brands
  | .category => f.categories

namespace Diversity

variable {α : Type}

/-- How many items with the same value the list takes; nought for any number. -/
def cap (d : Diversity α) : FacetKind → Nat
  | .brand => d.brandCap
  | .category => d.categoryCap

def carries (d : Diversity α) (items : Dictionary Item) (kind : FacetKind) (value : String)
    (c : Candidate α) : Bool :=
  ((d.choice items c).facets.values kind).contains value

def carriers (d : Diversity α) (items : Dictionary Item) (kind : FacetKind) (value : String)
    (cs : List (Candidate α)) : List (Candidate α) :=
  cs.filter (d.carries items kind value)

/-- Every candidate without a pin has room behind those in front of it. -/
inductive WithinCaps (d : Diversity α) (items : Dictionary Item) : List (Candidate α) → Prop
  | nil : WithinCaps d items []
  | snoc {front c} (h : WithinCaps d items front)
      (hroom : c.pin = none →
        d.violates (listed (front.map (d.choice items))) (d.choice items c).facets = false) :
      WithinCaps d items (front ++ [c])

variable {d : Diversity α} {items : Dictionary Item} {kind : FacetKind} {value : String}

/-! ### Room and numbers of carriers -/

theorem isFull_eq_false_iff {cap : Nat} {listed values : List String} :
    isFull cap listed values = false ↔ 0 < cap → ∀ v ∈ values, listed.count v < cap := by
  simp only [isFull, Bool.and_eq_false_imp, decide_eq_true_eq, List.any_eq_false,
    decide_eq_true_eq, Nat.not_le]

theorem count_lt_of_violates_eq_false {listed f : Facets} (h : d.violates listed f = false)
    (hcap : 0 < d.cap kind) (hvalue : value ∈ f.values kind) :
    (listed.values kind).count value < d.cap kind := by
  rw [violates, Bool.or_eq_false_iff, isFull_eq_false_iff, isFull_eq_false_iff] at h
  cases kind with
  | brand => exact h.1 hcap value hvalue
  | category => exact h.2 hcap value hvalue

theorem values_listed (chosen : List (Choice α)) (kind : FacetKind) :
    (listed chosen).values kind = chosen.flatMap fun x => x.facets.values kind := by
  cases kind <;> rfl

/-- Each carrier lists the value at least once. -/
theorem length_carriers_le_count (d : Diversity α) (items : Dictionary Item) (kind : FacetKind)
    (value : String) (cs : List (Candidate α)) :
    (d.carriers items kind value cs).length ≤
      ((listed (cs.map (d.choice items))).values kind).count value := by
  rw [values_listed]
  induction cs with
  | nil => exact Nat.le_refl _
  | cons c rest ih =>
      rw [List.map_cons, List.flatMap_cons, List.count_append, carriers, List.filter_cons]
      split
      · rename_i hcarries
        have hvalue : 0 < ((d.choice items c).facets.values kind).count value :=
          List.count_pos_iff.2 (List.contains_iff_mem.1 hcarries)
        rw [List.length_cons]
        exact Nat.add_comm _ 1 ▸ Nat.add_le_add hvalue ih
      · exact Nat.le_trans ih (Nat.le_add_left _ _)

/-! ### Lists within their caps -/

/-- Behind as many carriers as the cap allows, all carriers are pinned. -/
theorem WithinCaps.pinned_of_mem_drop {cs : List (Candidate α)} (h : d.WithinCaps items cs)
    (hcap : 0 < d.cap kind) :
    ∀ c ∈ (d.carriers items kind value cs).drop (d.cap kind), c.pin.isSome = true := by
  induction h with
  | nil => simp [carriers]
  | @snoc front c h hroom ih =>
      have hfront := length_carriers_le_count d items kind value front
      rw [carriers, List.filter_append, List.drop_append, List.forall_mem_append]
      refine ⟨ih, fun c' hc' => ?_⟩
      obtain ⟨hmem, hcarries⟩ := List.mem_filter.1 (List.mem_of_mem_drop hc')
      rw [List.mem_singleton] at hmem
      subst hmem
      -- An unpinned carrier has been chosen while the value had room, so it is not dropped.
      by_contra hpin
      rw [Bool.not_eq_true, Option.isSome_eq_false_iff, Option.isNone_iff_eq_none] at hpin
      have hcount := count_lt_of_violates_eq_false (hroom hpin) hcap
        (List.contains_iff_mem.1 hcarries)
      have hdrop : (List.filter (d.carries items kind value) [c']).drop
          (d.cap kind - (d.carriers items kind value front).length) = [] := by
        refine List.drop_eq_nil_of_le (Nat.le_trans (List.length_filter_le _ _) ?_)
        rw [List.length_singleton]
        omega
      rw [carriers] at hdrop
      rw [hdrop] at hc'
      cases hc'

/-- Of the items that carry a value, only pinned ones exceed the cap: behind as many
as the cap allows all are pinned, there are no more unpinned ones than that, and if no
pinned one stands behind an unpinned one, an excess means that all are pinned. -/
structure ExcessPinned (cap : Nat) (carriers : List (Candidate α)) : Prop where
  beyond : ∀ c ∈ carriers.drop cap, c.pin.isSome = true
  unpinned : carriers.countP (·.pin.isNone) ≤ cap
  length : (carriers.Pairwise fun c later => c.pin = none → later.pin = none) →
    carriers.length ≤ max cap (carriers.countP (·.pin.isSome))

theorem excessPinned_of_beyond {cap : Nat} {carriers : List (Candidate α)}
    (h : ∀ c ∈ carriers.drop cap, c.pin.isSome = true) : ExcessPinned cap carriers := by
  have hsplit := List.take_append_drop cap carriers
  refine ⟨h, ?_, fun hlead => ?_⟩
  · have hdrop : (carriers.drop cap).countP (·.pin.isNone) = 0 := by
      refine List.countP_eq_zero.2 fun c hc hnone => ?_
      rw [← Option.not_isSome, h c hc] at hnone
      cases hnone
    rw [← hsplit, List.countP_append, hdrop, Nat.add_zero]
    exact Nat.le_trans List.countP_le_length (List.length_take_le _ _)
  · cases hdrop : carriers.drop cap with
    | nil => exact Nat.le_trans (List.drop_eq_nil_iff.1 hdrop) (Nat.le_max_left _ _)
    | cons last rest =>
        -- A carrier beyond the cap is pinned, and then so are all those in front of it.
        have hmem : last ∈ carriers.drop cap := hdrop ▸ List.mem_cons_self
        have hlast := Option.ne_none_iff_isSome.2 (h last hmem)
        rw [← hsplit, List.pairwise_append] at hlead
        have hall : ∀ c ∈ carriers, c.pin.isSome = true := by
          intro c hc
          rw [← hsplit] at hc
          rcases List.mem_append.1 hc with hfront | hback
          · exact Option.ne_none_iff_isSome.1 fun hnone =>
              hlast (hlead.2.2 c hfront last hmem hnone)
          · exact h c hback
        rw [List.countP_eq_length.2 hall]
        exact Nat.le_max_right _ _

end Diversity

/-! ### The list -/

variable {α : Type} {d : Diversity α} {items : Dictionary Item}

/-- Slots hold pins, facets are those of the items, and the list so far is within its
caps. -/
structure Filling.Capped (d : Diversity α) (items : Dictionary Item) (s : Filling α) : Prop where
  slots : ∀ entry ∈ s.slots, entry.2.pin.isSome = true
  remaining : ∀ x ∈ s.remaining, d.choice items x.candidate = x
  chosen : ∀ x ∈ s.chosen, d.choice items x.candidate = x
  within : d.WithinCaps items (s.chosen.map (·.candidate))

theorem Filling.Capped.choices {s : Filling α} (h : s.Capped d items) :
    (s.chosen.map (·.candidate)).map (d.choice items) = s.chosen := by
  rw [List.map_map]
  exact (List.map_congr_left h.chosen).trans (List.map_id _)

/-- A pin is added whatever the caps say. -/
theorem Diversity.WithinCaps.snoc_pin {front : List (Choice α)} {c : Candidate α}
    (h : d.WithinCaps items (front.map (·.candidate))) (hpin : c.pin.isSome = true) :
    d.WithinCaps items ((front ++ [d.choice items c]).map (·.candidate)) := by
  rw [List.map_append]
  refine h.snoc fun hnone => ?_
  exact absurd hnone (Option.ne_none_iff_isSome.2 hpin)

variable [Score α] {largest : α}

theorem FillStep.capped {s s' : Filling α} (h : FillStep d items largest s s')
    (hs : s.Capped d items) : s'.Capped d items := by
  cases h with
  | @slot slots remaining chosen slot c hslot =>
      have hpin := hs.slots _ (List.mem_of_find?_eq_some hslot)
      refine ⟨fun entry hentry => ?_, hs.remaining, ?_, hs.within.snoc_pin hpin⟩
      · exact hs.slots entry (List.mem_filter.1 hentry).1
      · exact List.forall_mem_append.2 ⟨hs.chosen, by simp [Diversity.choice]⟩
  | @pick slots remaining chosen x others hslot hpick =>
      have hroom : ∀ y ∈ x :: others, y ∈ d.withRoom chosen remaining :=
        fun y hy => (Diversity.perm_of_takeBest? hpick).subset hy
      have hchoice : ∀ y ∈ x :: others, d.choice items y.candidate = y :=
        fun y hy => hs.remaining y ((d.withRoom_sublist _ _).subset (hroom y hy))
      obtain ⟨hx, hothers⟩ := List.forall_mem_cons.1 hchoice
      refine ⟨hs.slots, hothers, ?_, ?_⟩
      · exact List.forall_mem_append.2 ⟨hs.chosen, List.forall_mem_singleton.2 hx⟩
      · rw [List.map_append]
        refine hs.within.snoc fun _ => ?_
        rw [hs.choices, hx]
        exact Diversity.violates_of_mem_withRoom (hroom x List.mem_cons_self)
  | @moveUp slot c later remaining chosen hslot hpick =>
      obtain ⟨hpin, hlater⟩ := List.forall_mem_cons.1 hs.slots
      refine ⟨hlater, List.forall_mem_nil _, ?_, hs.within.snoc_pin hpin⟩
      exact List.forall_mem_append.2 ⟨hs.chosen, by simp [Diversity.choice]⟩

namespace Diversity

variable (d items)

theorem capped_start (cs : List (Candidate α)) : (d.start items cs).Capped d items := by
  refine ⟨fun entry hentry => d.isSome_pin_of_mem_slots items hentry, ?_, nofun, .nil⟩
  intro x hx
  obtain ⟨c, -, rfl⟩ := List.mem_map.1 hx
  rfl

theorem withinCaps_list (k : Nat) (cs : List (Candidate α)) :
    d.WithinCaps items (d.list items k cs) := by
  obtain ⟨s, hrun, hlist⟩ := d.exists_run_list items k cs
  rw [hlist]
  exact (hrun.keeps (fun _ _ hstep => hstep.capped) (d.capped_start items cs)).within

/-- Caps are exceeded through pins alone. -/
theorem excessPinned_list (k : Nat) (cs : List (Candidate α)) (kind : FacetKind) (value : String)
    (hcap : 0 < d.cap kind) :
    ExcessPinned (d.cap kind) (d.carriers items kind value (d.list items k cs)) :=
  excessPinned_of_beyond ((d.withinCaps_list items k cs).pinned_of_mem_drop hcap)

def oneOfABrand : Diversity Float :=
  { balance := 1.0, brandCap := 1, categoryCap := 0
    starts := { brand := ["brand:"], category := ["category:"] } }

def threeShoes : Dictionary Item :=
  .ofList [("u", { id := "u", tags := ["brand:acme"] }),
    ("x", { id := "x", tags := ["brand:zeta"] }), ("p", { id := "p", tags := ["brand:acme"] })]

/-- The best item and the item that a rule wants third are of one brand. -/
def pinnedThird : List (Candidate Float) :=
  [.scored "u" 3.0, .scored "x" 2.0,
    { Candidate.scored "p" 1.0 with pin := some { position := 3, priority := 0 } }]

theorem excessPinned_list_pinnedThird : 0 < oneOfABrand.cap .brand ∧
    ExcessPinned 1 (oneOfABrand.carriers threeShoes .brand "acme"
      (oneOfABrand.list threeShoes 3 pinnedThird)) :=
  ⟨by decide, excessPinned_list oneOfABrand threeShoes 3 pinnedThird .brand "acme" (by decide)⟩

/-- A pin behind an unpinned item of its brand exceeds the cap, though not all items
of the brand are pinned. -/
theorem not_length_carriers_le_pinnedThird :
    ¬(oneOfABrand.carriers threeShoes .brand "acme"
        (oneOfABrand.list threeShoes 3 pinnedThird)).length ≤
      max (oneOfABrand.cap .brand) ((oneOfABrand.carriers threeShoes .brand "acme"
        (oneOfABrand.list threeShoes 3 pinnedThird)).countP (·.pin.isSome)) := by
  decide +kernel

end Diversity

end Recommendation
