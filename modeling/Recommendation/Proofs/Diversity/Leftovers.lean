import Recommendation.Proofs.Diversity.Caps
import Recommendation.Proofs.Diversity.Pins

/-!
What becomes of the candidates that are not in the list. A step moves one candidate
into the list and may drop others, and it drops none but those that the caps rule out
at that moment. The list only grows, so what is ruled out once stays ruled out. A run
that ends before its places are filled has no slot and no candidate with room left;
so if the list is short, the caps alone have kept the rest out.
-/

namespace Recommendation

open scoped List

variable {α : Type}

namespace Diversity

variable {d : Diversity α} {items : Dictionary Item} {list : List (Candidate α)}
  {c : Candidate α}

/-- A brand or category of the candidate's item has reached its cap in the list. -/
def IsCrowdedOut (d : Diversity α) (items : Dictionary Item) (list : List (Candidate α))
    (c : Candidate α) : Prop :=
  ∃ kind value, 0 < d.cap kind ∧ d.carries items kind value c = true ∧
    d.cap kind ≤ (d.carriers items kind value list).length

/-- A list that grows does not make room. -/
theorem IsCrowdedOut.append (h : d.IsCrowdedOut items list c) (more : List (Candidate α)) :
    d.IsCrowdedOut items (list ++ more) c := by
  obtain ⟨kind, value, hcap, hcarries, hcount⟩ := h
  refine ⟨kind, value, hcap, hcarries, ?_⟩
  simp only [carriers, List.filter_append, List.length_append] at hcount ⊢
  omega

theorem not_isCrowdedOut_of_uncapped (hbrand : d.brandCap = 0) (hcategory : d.categoryCap = 0) :
    ¬d.IsCrowdedOut items list c := by
  rintro ⟨kind, value, hcap, -, -⟩
  cases kind with
  | brand => exact hcap.ne' hbrand
  | category => exact hcap.ne' hcategory

theorem nodup_values_choice (d : Diversity α) (items : Dictionary Item) (c : Candidate α)
    (kind : FacetKind) : ((d.choice items c).facets.values kind).Nodup := by
  rw [choice]
  cases items.get? c.id with
  | none => cases kind <;> exact List.nodup_nil
  | some item => cases kind <;> exact nodup_sortedTexts _

theorem count_listed (d : Diversity α) (items : Dictionary Item) (kind : FacetKind)
    (value : String) (cs : List (Candidate α)) :
    ((listed (cs.map (d.choice items))).values kind).count value =
      (d.carriers items kind value cs).length := by
  rw [values_listed]
  induction cs with
  | nil => rfl
  | cons c rest ih =>
      have hnodup := d.nodup_values_choice items c kind
      rw [List.map_cons, List.flatMap_cons, List.count_append, ih, hnodup.count]
      by_cases hvalue : value ∈ (d.choice items c).facets.values kind
      · have hcarries : d.carries items kind value c = true := List.contains_iff_mem.2 hvalue
        simp [carriers, hcarries, hvalue, Nat.add_comm]
      · have hcarries : d.carries items kind value c = false := by
          simpa [carries] using hvalue
        simp [carriers, hcarries, hvalue]

/-- The caps rule a candidate out exactly if one of its values has reached its cap. -/
theorem violates_iff : d.violates (listed (list.map (d.choice items)))
    (d.choice items c).facets = true ↔ d.IsCrowdedOut items list c := by
  have hcarries (kind : FacetKind) (value : String) : d.carries items kind value c = true ↔
      value ∈ (d.choice items c).facets.values kind := List.contains_iff_mem
  have hfull (kind : FacetKind) : isFull (d.cap kind)
        ((listed (list.map (d.choice items))).values kind)
        ((d.choice items c).facets.values kind) = true ↔
      ∃ value, 0 < d.cap kind ∧ d.carries items kind value c = true ∧
        d.cap kind ≤ (d.carriers items kind value list).length := by
    simp only [isFull, Bool.and_eq_true, decide_eq_true_eq, List.any_eq_true, count_listed,
      hcarries]
    constructor
    · rintro ⟨hcap, value, hvalue, hcount⟩
      exact ⟨value, hcap, hvalue, hcount⟩
    · rintro ⟨value, hcap, hvalue, hcount⟩
      exact ⟨hcap, value, hvalue, hcount⟩
  rw [violates, Bool.or_eq_true]
  constructor
  · rintro (h | h)
    · obtain ⟨value, hvalue⟩ := (hfull .brand).1 h
      exact ⟨.brand, value, hvalue⟩
    · obtain ⟨value, hvalue⟩ := (hfull .category).1 h
      exact ⟨.category, value, hvalue⟩
  · rintro ⟨kind, value, hvalue⟩
    cases kind with
    | brand => exact .inl ((hfull .brand).2 ⟨value, hvalue⟩)
    | category => exact .inr ((hfull .category).2 ⟨value, hvalue⟩)

end Diversity

/-! ### What steps drop -/

/-- All candidates are still there, but for some without a pin that are crowded out. -/
def Filling.AccountsFor (d : Diversity α) (items : Dictionary Item) (cs : List (Candidate α))
    (s : Filling α) : Prop :=
  ∃ dropped, s.supply ++ dropped ~ cs ∧
    ∀ c ∈ dropped, c.pin = none ∧ d.IsCrowdedOut items s.list c

theorem Filling.crowdedOut_of_not_mem_withRoom {d : Diversity α} {items : Dictionary Item}
    {slots : SlotMap α} {s : Filling α} {x : Choice α} (hseated : s.Seated slots)
    (hcapped : s.Capped d items) (hx : x ∈ s.remaining)
    (hroom : x ∉ d.withRoom s.chosen s.remaining) :
    x.candidate.pin = none ∧ d.IsCrowdedOut items s.list x.candidate := by
  refine ⟨hseated.unpinned x hx, Diversity.violates_iff.1 ?_⟩
  rw [Filling.list, hcapped.choices, hcapped.remaining x hx]
  simpa [Diversity.withRoom, hx] using hroom

section Steps

variable [Score α] {d : Diversity α} {items : Dictionary Item} {largest : α} {places : Nat}
  {slots : SlotMap α} {s s' : Filling α} {cs : List (Candidate α)}

theorem FillStep.exists_list_eq (h : FillStep d items largest s s') :
    ∃ x, s'.list = s.list ++ [x] := by
  cases h with
  | slot => exact ⟨_, List.map_append⟩
  | pick => exact ⟨_, List.map_append⟩
  | moveUp => exact ⟨_, List.map_append⟩

theorem FillStep.exists_dropped (h : FillStep d items largest s s') (hseated : s.Seated slots)
    (hcapped : s.Capped d items) :
    ∃ dropped, s'.supply ++ dropped ~ s.supply ∧
      ∀ c ∈ dropped, c.pin = none ∧ d.IsCrowdedOut items s.list c := by
  have hcrowded (x : Choice α) (hx : x ∈ s.remaining)
      (hroom : x ∉ d.withRoom s.chosen s.remaining) :=
    Filling.crowdedOut_of_not_mem_withRoom hseated hcapped hx hroom
  have hlength := s.length_list
  cases h with
  | @slot slots' remaining chosen slot c hslot =>
      -- The slot that comes up is the first, so it is all that leaves the map.
      have hahead := hseated.ahead
      rw [hlength] at hahead
      obtain ⟨-, hsplit⟩ := SlotMap.eq_cons_of_find? hseated.ascending hahead hslot
      refine ⟨[], ?_, List.forall_mem_nil _⟩
      apply List.Perm.of_eq
      conv_rhs => rw [Filling.supply, hsplit]
      simp [Filling.supply, Diversity.choice]
  | @pick slots' remaining chosen x others hslot hpick =>
      refine ⟨(remaining.filter fun y => !!d.violates (Diversity.listed chosen) y.facets).map
        (·.candidate), ?_, ?_⟩
      · have hothers := (Diversity.perm_of_takeBest? hpick).append_right
          (remaining.filter fun y => !!d.violates (Diversity.listed chosen) y.facets)
        have hsplit := List.filter_append_perm
          (fun y : Choice α => !d.violates (Diversity.listed chosen) y.facets) remaining
        have hremaining := ((hothers.trans hsplit).map (·.candidate)).append_left
          (slots'.map (·.2))
        simp only [Filling.supply, List.map_append, List.append_assoc, List.map_cons,
          List.map_nil, List.cons_append] at hremaining ⊢
        exact (List.perm_middle.symm.trans hremaining).append_left _
      · intro c hc
        obtain ⟨y, hy, rfl⟩ := List.mem_map.1 hc
        obtain ⟨hmem, hviolates⟩ := List.mem_filter.1 hy
        apply hcrowded y hmem
        intro hroom
        rw [Diversity.violates_of_mem_withRoom hroom] at hviolates
        cases hviolates
  | @moveUp slot c later remaining chosen hslot hpick =>
      have hnone := Diversity.takeBest?_eq_none_iff.1 hpick
      refine ⟨remaining.map (·.candidate), ?_, ?_⟩
      · apply List.Perm.of_eq
        simp [Filling.supply, Diversity.choice]
      · intro c hc
        obtain ⟨y, hy, rfl⟩ := List.mem_map.1 hc
        apply hcrowded y hy
        show y ∉ d.withRoom chosen remaining
        rw [hnone]
        exact List.not_mem_nil

theorem FillStep.accountsFor (h : FillStep d items largest s s') (hseated : s.Seated slots)
    (hcapped : s.Capped d items) (hs : s.AccountsFor d items cs) : s'.AccountsFor d items cs := by
  obtain ⟨dropped, hperm, hdropped⟩ := hs
  obtain ⟨more, hstep, hmore⟩ := h.exists_dropped hseated hcapped
  obtain ⟨x, hlist⟩ := h.exists_list_eq
  refine ⟨more ++ dropped, ?_, ?_⟩
  · rw [← List.append_assoc]
    exact (hstep.append_right dropped).trans hperm
  · intro c hc
    have hcrowded : c.pin = none ∧ d.IsCrowdedOut items s.list c :=
      (List.mem_append.1 hc).elim (hmore c) (hdropped c)
    rw [hlist]
    exact ⟨hcrowded.1, hcrowded.2.append _⟩

theorem FillRun.accountsFor (run : FillRun d items largest places s s') (hseated : s.Seated slots)
    (hcapped : s.Capped d items) (hs : s.AccountsFor d items cs) :
    s'.Seated slots ∧ s'.Capped d items ∧ s'.AccountsFor d items cs := by
  apply run.keeps
    (motive := fun t => t.Seated slots ∧ t.Capped d items ∧ t.AccountsFor d items cs)
  · rintro t t' hstep ⟨ht, hcapped, haccounts⟩
    exact ⟨hstep.seated ht, hstep.capped hcapped, hstep.accountsFor ht hcapped haccounts⟩
  · exact ⟨hseated, hcapped, hs⟩

/-- Where there is no step, no slot is left and nothing that remains has room. -/
theorem Filling.spent_of_stuck (h : ∀ s', ¬FillStep d items largest s s') :
    s.slots = [] ∧ d.withRoom s.chosen s.remaining = [] := by
  have hslots : s.slots = [] := by
    by_contra hne
    obtain ⟨s', hstep⟩ := exists_fillStep d items largest hne
    exact h s' hstep
  obtain ⟨slots, remaining, chosen⟩ := s
  obtain rfl : slots = [] := hslots
  have hpick : Diversity.takeBest? (d.marginal largest chosen) (d.withRoom chosen remaining) =
      none := by
    cases hpick : Diversity.takeBest? (d.marginal largest chosen)
      (d.withRoom chosen remaining) with
    | none => rfl
    | some pick => exact absurd (.pick rfl hpick) (h _)
  exact ⟨rfl, Diversity.takeBest?_eq_none_iff.1 hpick⟩

end Steps

/-! ### The list -/

structure Leftovers (d : Diversity α) (items : Dictionary Item) (k : Nat)
    (cs list left : List (Candidate α)) : Prop where
  /-- The list and the rest are the candidates as they were, each of them once. -/
  perm : list ++ left ~ cs
  /-- A list that is short has all the pins. -/
  pins : list.length < k → list.filter (·.pin.isSome) ~ cs.filter (·.pin.isSome)
  /-- Whatever is not in a short list has no pin and no room. -/
  crowded : list.length < k → ∀ c ∈ left, c.pin = none ∧ d.IsCrowdedOut items list c
  /-- Without caps the list is as long as it can be. -/
  uncapped : d.brandCap = 0 → d.categoryCap = 0 → list.length = min k cs.length

theorem leftovers_of_crowded {d : Diversity α} {items : Dictionary Item} {k : Nat}
    {cs list left : List (Candidate α)} (hperm : list ++ left ~ cs) (hlength : list.length ≤ k)
    (hcrowded : list.length < k → ∀ c ∈ left, c.pin = none ∧ d.IsCrowdedOut items list c) :
    Leftovers d items k cs list left := by
  refine ⟨hperm, fun hshort => ?_, hcrowded, fun hbrand hcategory => ?_⟩
  · have hleft : left.filter (·.pin.isSome) = [] := by
      apply List.filter_eq_nil_iff.2
      intro c hc
      simp [(hcrowded hshort c hc).1]
    have hpins := hperm.filter (·.pin.isSome)
    rwa [List.filter_append, hleft, List.append_nil] at hpins
  · have htotal := hperm.length_eq
    rw [List.length_append] at htotal
    rcases Nat.eq_or_lt_of_le hlength with hfull | hshort
    · omega
    · have hleft : left = [] := by
        apply List.eq_nil_iff_forall_not_mem.2
        intro c hc
        exact Diversity.not_isCrowdedOut_of_uncapped hbrand hcategory (hcrowded hshort c hc).2
      rw [hleft, List.length_nil] at htotal
      omega

namespace Diversity

variable [Score α] (d : Diversity α) (items : Dictionary Item)

/-- The slots are enough. The list is made of the candidates, none of them changed or doubled, and it
stops short of its places only if the caps keep out everything else. -/
theorem short_only_by_caps (k : Nat) (cs : List (Candidate α))
    (hbound : ∀ c ∈ cs, ∀ p, c.pin = some p →
      p.position + cs.countP (·.pin.isSome) < 2 ^ 64) :
    overruns k cs = false ∧ ∃ left, Leftovers d items k cs (d.list items k cs) left := by
  obtain ⟨s, hrun, hlist⟩ := d.exists_run_list items k cs
  have hstart : (d.start items cs).AccountsFor d items cs :=
    ⟨[], by simpa using d.supply_start items cs, List.forall_mem_nil _⟩
  obtain ⟨hseated, hcapped, dropped, hperm, hdropped⟩ := hrun.accountsFor
    (d.seated_start items cs) (d.capped_start items cs) hstart
  refine ⟨overruns_eq_false k hbound, s.slots.map (·.2) ++ s.remaining.map (·.candidate) ++ dropped, ?_⟩
  apply leftovers_of_crowded
  · rw [hlist]
    simpa only [Filling.supply, List.append_assoc] using hperm
  · exact d.length_list_le items k cs
  · rw [hlist]
    intro hshort c hc
    rw [List.length_map] at hshort
    rcases hrun.full_or_stuck with hfull | hstuck
    · simp only [start, List.length_nil] at hfull
      omega
    · obtain ⟨hslots, hroom⟩ := Filling.spent_of_stuck hstuck
      rw [hslots, List.map_nil, List.nil_append] at hc
      rcases List.mem_append.1 hc with hremaining | hc
      · obtain ⟨x, hx, rfl⟩ := List.mem_map.1 hremaining
        apply Filling.crowdedOut_of_not_mem_withRoom hseated hcapped hx
        rw [hroom]
        exact List.not_mem_nil
      · exact hdropped c hc

def twoOfABrand : Diversity Float :=
  { balance := 1.0, brandCap := 2, categoryCap := 0
    starts := { brand := ["brand:"], category := ["category:"] } }

def fourBoots : Dictionary Item :=
  .ofList [("u", { id := "u", tags := ["brand:acme"] }),
    ("v", { id := "v", tags := ["brand:acme"] }), ("w", { id := "w", tags := ["brand:zeta"] }),
    ("p", { id := "p", tags := ["brand:acme"] })]

/-- A rule wants an item of the brand that is there three times in front. -/
def bootsOnOffer : List (Candidate Float) :=
  [.scored "u" 3.0, .scored "v" 2.0, .scored "w" 1.0,
    { Candidate.scored "p" 0.5 with pin := some ⟨1, 0⟩ }]

theorem short_only_by_caps_bootsOnOffer :
    (∀ c ∈ bootsOnOffer, ∀ p, c.pin = some p →
      p.position + bootsOnOffer.countP (·.pin.isSome) < 2 ^ 64) ∧
    (twoOfABrand.list fourBoots 5 bootsOnOffer).map (·.id) = ["p", "u", "w"] ∧
    ∃ left, Leftovers twoOfABrand fourBoots 5 bootsOnOffer
      (twoOfABrand.list fourBoots 5 bootsOnOffer) left := by
  have hcount : bootsOnOffer.countP (·.pin.isSome) = 1 := by decide
  have hposition : ∀ c ∈ bootsOnOffer, ∀ p ∈ c.pin, p.position ≤ 1 := by decide
  have hbound : ∀ c ∈ bootsOnOffer, ∀ p, c.pin = some p →
      p.position + bootsOnOffer.countP (·.pin.isSome) < 2 ^ 64 := by
    intro c hc p hp
    have hp := hposition c hc p hp
    rw [hcount]
    omega
  refine ⟨hbound, by decide +kernel, ?_⟩
  exact (twoOfABrand.short_only_by_caps fourBoots 5 bootsOnOffer hbound).2

end Diversity

end Recommendation
