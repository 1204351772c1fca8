import Recommendation.Proofs.Allocation
import Recommendation.Proofs.Diversity.Pins
import Recommendation.Proofs.Engine.NoLeak
import Recommendation.Proofs.Facets
import Recommendation.Proofs.Policy.Accounting

/-!
What becomes of the items that rules name for a place. The engine adds them to the
candidates by their identifiers without blanks at the ends, while a rule covers an item
only under the identifier that it has. So a name with a blank at its end brings in an
item that the rule does not cover. An item that a pin does cover is counted, and as long
as there are slots it is pinned and stands by its slot in the list.
-/

namespace Recommendation

open scoped List

def CoveredByPin (starts : FacetStarts) (rules : List Rule) (item : Item) : Prop :=
  ∃ rule ∈ rules, (∃ position, rule.action = .pin position) ∧
    rule.target.covers starts item = true

/-- A pin among the rules names the item by its identifier, blanks included. -/
def NamedVerbatim (rules : List Rule) (id : String) : Prop :=
  ∃ rule ∈ rules, (∃ position, rule.action = .pin position) ∧
    ∃ ids, rule.target = .items ids ∧ id ∈ ids

/-! ### Names -/

section Names

variable {starts : FacetStarts} {rules : List Rule} {rule : Rule} {seeds : List String}
  {target : RuleTarget} {item : Item} {id : String}

/-- An item without tags is covered by its identifier alone. -/
theorem RuleTarget.covers_untagged_iff (h : item.tags = []) :
    target.covers starts item = true ↔ ∃ ids, target = .items ids ∧ item.id ∈ ids := by
  cases target <;> simp [covers, Item.hasTag_iff, Item.hasFacet_iff, h]

/-- Rules cover an item whatever it is like only if they name it as it is. -/
theorem forall_coveredByPin_iff :
    (∀ item : Item, item.id = id → CoveredByPin starts rules item) ↔ NamedVerbatim rules id := by
  constructor
  · intro h
    obtain ⟨rule, hrule, hpin, hcovers⟩ := h { id } rfl
    exact ⟨rule, hrule, hpin, (RuleTarget.covers_untagged_iff rfl).1 hcovers⟩
  · rintro ⟨rule, hrule, hpin, ids, htarget, hid⟩ item rfl
    exact ⟨rule, hrule, hpin, by simpa [htarget, RuleTarget.covers] using hid⟩

namespace Ranked

theorem mem_namedByPin_iff : id ∈ namedByPin rule ↔
    (∃ position, rule.action = .pin position) ∧
      ∃ ids, rule.target = .items ids ∧ ∃ x ∈ ids, Text.trim x = id := by
  rw [namedByPin]
  split
  · rename_i position ids haction htarget
    simp [haction, htarget]
  · rename_i hother
    constructor
    · nofun
    · rintro ⟨⟨position, haction⟩, ids, htarget, -⟩
      exact absurd htarget (hother position ids haction)

/-- The items that rules name for a place are told by their names without blanks at the ends. -/
theorem mem_pinnedIds_iff : id ∈ pinnedIds rules seeds ↔
    (∃ rule ∈ rules, (∃ position, rule.action = .pin position) ∧
      ∃ ids, rule.target = .items ids ∧ ∃ x ∈ ids, Text.trim x = id) ∧ id ≠ "" ∧ id ∉ seeds := by
  simp [pinnedIds, mem_namedByPin_iff]

theorem exists_candidate_of_mem {α : Type} [Score α] {pinned : List String} (h : id ∈ pinned)
    (input : RankInput α) (items : Dictionary Item) (sets : List (CandidateSet α)) :
    ∃ c ∈ candidates input items pinned sets, c.id = id := by
  rw [candidates]
  by_cases hblended : (input.blend.candidates input.weights
      (CandidateSet.widen sets items)).any fun c => c.id == id
  · obtain ⟨c, hc, hid⟩ := List.any_eq_true.1 hblended
    exact ⟨c, List.mem_append_left _ hc, beq_iff_eq.1 hid⟩
  · refine ⟨.pinned id, List.mem_append_right _ (List.mem_map_of_mem ?_), rfl⟩
    exact List.mem_filter.2 ⟨h, by simpa using hblended⟩

end Ranked

end Names

/-! ### Slots -/

/-- The rule at this place among the rules can still grant a slot. -/
def SlotsRemain (slots : Slots) (grants : List Grant) (place : Nat) (rule : Rule) : Prop :=
  (∀ n, slots = some n → grants.length < n) ∧
    ∀ n, rule.maxPins = some n → grants.countP (fun g => g.rule = place) < n

theorem PinAllocation.exists_pin {starts : FacetStarts} {slots : Slots} {rules : List Rule}
    {pool : List PoolEntry} {pins : Dictionary Pin} {grants : List Grant}
    (h : PinAllocation starts slots rules pool pins grants) {place : Nat} {rule : Rule}
    (hrule : rules[place]? = some rule) {entry : PoolEntry} (hentry : entry ∈ pool)
    {position : Nat} (hasks : rule.AsksFor starts entry position)
    (hremain : SlotsRemain slots grants place rule) :
    ∃ pin, pins.get? entry.item.id = some pin := by
  obtain ⟨j, hj⟩ := List.mem_iff_getElem?.1 hentry
  rcases h.settled ⟨place, j⟩ rule entry position hrule hj hasks with
    ⟨g, hg, hsame, -⟩ | hown | hall
  · obtain ⟨_, entry', _, -, hentry', -, hpin⟩ := h.asked g hg
    rw [hsame, hj] at hentry'
    cases hentry'
    exact ⟨_, hpin⟩
  · have hlt := hremain.2 _ hown
    have hle : grants.countP (fun g => g.rule = place ∧ g.entry < j) ≤
        grants.countP (fun g => g.rule = place) := by
      refine List.countP_mono_left fun g _ hg => ?_
      rw [decide_eq_true_eq] at hg ⊢
      exact hg.1
    exact absurd hlt (Nat.not_lt.2 hle)
  · have hlt := hremain.1 _ hall
    exact absurd hlt (Nat.not_lt.2 List.countP_le_length)

/-- The candidate has one of the slots. If the slot is in the list, the candidate stands there, or in
front of it with nothing but pins behind. -/
def StandsBySlot {α : Type} (slots : SlotMap α) (k : Nat) (list : List (Candidate α))
    (c : Candidate α) : Prop :=
  ∃ slot, (slot, c) ∈ slots ∧ (slot < k → ∃ i, i ≤ slot ∧ list[i]? = some c ∧
    (i < slot → ∀ x ∈ list.drop i, x.pin.isSome))

section Slots

variable {α : Type} {slots given before after : SlotMap α} {cs list : List (Candidate α)}
  {c : Candidate α} {k : Nat}

/-- Candidates that get slots in turn all get one, and nobody loses one. -/
theorem SlotMap.Granted.exists_slot (h : Granted before cs after) :
    (∀ entry ∈ before, entry ∈ after) ∧ ∀ c ∈ cs, ∃ slot, (slot, c) ∈ after := by
  induction h with
  | nil => exact ⟨fun _ hentry => hentry, nofun⟩
  | @cons before c cs slot after _ _ ih =>
      obtain ⟨hkept, hrest⟩ := ih
      refine ⟨fun entry hentry => hkept entry (List.mem_append_left _ hentry), ?_⟩
      exact List.forall_mem_cons.2
        ⟨⟨slot, hkept _ (List.mem_append_right _ (List.mem_singleton_self _))⟩, hrest⟩

theorem PlacedBySlot.standsBySlot (h : PlacedBySlot slots k list)
    (hgranted : SlotMap.Granted [] cs given) (hperm : slots ~ given) (hc : c ∈ cs) :
    StandsBySlot given k list c := by
  obtain ⟨slot, hslot⟩ := hgranted.exists_slot.2 c hc
  refine ⟨slot, hslot, fun hlt => ?_⟩
  obtain ⟨n, hn⟩ := List.mem_iff_getElem?.1 (hperm.mem_iff.2 hslot)
  obtain ⟨i, hle, hpin⟩ := h.present n slot c hn hlt
  obtain ⟨slot', hn', -, hearly⟩ := h.early n i c hpin
  cases hn.symm.trans hn'
  exact ⟨i, hle, hpin.here, hearly⟩

end Slots

/-! ### The policy -/

namespace PolicyInput

variable {α : Type} {input : PolicyInput} {cs : List (Candidate α)}

theorem nodup_pool (hbears : input.BearsIds) (h : (cs.map (·.id)).Nodup) :
    ((input.pool cs).map (·.item.id)).Nodup := by
  have hpool : (input.pool cs).map (·.item.id) =
      (cs.map (·.id)).filterMap fun id => (input.available? id).map (·.id) := by
    rw [pool, List.map_filterMap, List.filterMap_map]
    simp [Function.comp_def]
  rw [hpool]
  refine h.filterMap fun id id' x hx hx' => ?_
  obtain ⟨item, hitem, rfl⟩ := Option.map_eq_some_iff.1 hx
  obtain ⟨item', hitem', hsame⟩ := Option.map_eq_some_iff.1 hx'
  rw [← hbears id item (available?_eq_some_iff.1 hitem).1,
    ← hbears id' item' (available?_eq_some_iff.1 hitem').1, hsame]

end PolicyInput

namespace Policy

variable {α : Type} [Score α] {policy : Policy} {input : PolicyInput} {cs : List (Candidate α)}
  {grants : List Grant} {c : Candidate α} {item : Item}

/-- What the policy makes of a candidate with an available record, as far as pins go. -/
structure FollowsPins (policy : Policy) (input : PolicyInput) (cs : List (Candidate α))
    (grants : List Grant) (c : Candidate α) (item : Item) : Prop where
  /-- The item counts as matched by a pin exactly if some pin covers it. -/
  counted : c.id ∈ (policy.outcome input cs).effects.pinMatches ↔
    CoveredByPin policy.starts input.rules item
  /-- An item that only rules name goes without a reason if no pin covers it. -/
  silent : ¬CoveredByPin policy.starts input.rules item → c.pinOnly = true →
    (policy.outcome input cs).dropReason? c.id = none → (policy.outcome input cs).HasFate c .silent
  /-- An item that the request neither excludes nor rules out is kept under a pin if some pin with
  slots left covers it. -/
  pinned : (policy.outcome input cs).dropReason? c.id ≠ some .explicitExclude →
    (policy.outcome input cs).dropReason? c.id ≠ some .constraint →
    ∀ place rule, (Rule.sort input.rules)[place]? = some rule →
      (∃ position, rule.action = .pin position) → rule.target.covers policy.starts item = true →
      SlotsRemain policy.slots grants place rule →
      ∃ s ∈ (policy.outcome input cs).survivors, s.id = c.id ∧ s.pin.isSome = true

theorem mem_pinMatches_effects_iff (policy : Policy) (hbears : input.BearsIds) (hc : c ∈ cs)
    (hitem : input.available? c.id = some item) :
    c.id ∈ (policy.effects input cs).pinMatches ↔ CoveredByPin policy.starts input.rules item := by
  rw [effects, RuleEffects.mem_pinMatches_ofRules_iff]
  exact exists_covering_iff policy.starts hbears hc hitem fun rule =>
    ∃ position, rule.action = .pin position

theorem mem_pool_pinnable (hc : c ∈ cs) (hitem : input.available? c.id = some item)
    (hexcluded : (policy.outcome input cs).dropReason? c.id ≠ some .explicitExclude)
    (hconstraint : (policy.outcome input cs).dropReason? c.id ≠ some .constraint) :
    (input.mark c.id = none ∨ input.mark c.id = some .recentEvent) ∧
      ⟨item, true⟩ ∈ input.pool cs := by
  rw [dropReason?_outcome hc, ne_eq, RuleEffects.verdict_eq_some_iff] at hexcluded hconstraint
  have hmark : input.mark c.id = none ∨ input.mark c.id = some .recentEvent := by
    rw [PolicyInput.mark_of_available hitem] at hexcluded hconstraint ⊢
    grind
  refine ⟨hmark, List.mem_filterMap.2 ⟨c, hc, ?_⟩⟩
  rw [hitem]
  rcases hmark with hmark | hmark <;> simp [hmark]

theorem followsPins (hbears : input.BearsIds) (hallocation : PinAllocation policy.starts
      policy.slots (Rule.sort input.rules) (input.pool cs) (policy.effects input cs).pins grants)
    (hc : c ∈ cs) (hitem : input.available? c.id = some item) :
    FollowsPins policy input cs grants c item := by
  have hmatches : c.id ∈ (policy.effects input cs).pinMatches ↔
      CoveredByPin policy.starts input.rules item :=
    mem_pinMatches_effects_iff policy hbears hc hitem
  refine ⟨hmatches, fun huncovered honly hreason => ?_,
    fun hexcluded hconstraint place rule hrule ⟨position, haction⟩ hcovers hremain => ?_⟩
  · have hnone : (policy.effects input cs).pin? c.id = none := by
      rw [Option.eq_none_iff_forall_ne_some]
      exact fun pin hpin => huncovered (hmatches.1 (RuleEffects.mem_pinMatches_of_pin? hpin))
    rw [dropReason?_outcome hc] at hreason
    exact (isSilent_outcome_iff hc).2 ⟨honly, hnone, hreason⟩
  · obtain ⟨hmark, hentry⟩ := mem_pool_pinnable hc hitem hexcluded hconstraint
    obtain ⟨pin, hpin⟩ := hallocation.exists_pin hrule hentry ⟨haction, hcovers, rfl⟩ hremain
    have hid : item.id = c.id := hbears _ _ (PolicyInput.available?_eq_some_iff.1 hitem).1
    have hpinned : (policy.effects input cs).pin? c.id = some pin := hid ▸ hpin
    have hsurvives : survives input (policy.effects input cs) c = true := by
      rw [survives_iff_verdict, RuleEffects.verdict_eq_none_iff, hpinned]
      simpa [or_comm] using hmark
    refine ⟨_, mem_survivors_iff.2 ⟨c, hc, hsurvives, rfl⟩, RuleEffects.attach_id c, ?_⟩
    rw [RuleEffects.attach_pin, hpinned]
    rfl

end Policy

/-! ### Rankings -/

namespace Ranked

variable {α : Type} [Score α] (settings : Settings) (input : RankInput α)
  (sets : List (CandidateSet α)) (reads : Reads)

def policy (settings : Settings) : Policy := ⟨settings.starts, some settings.maxPinSlots⟩

def allCandidates : List (Candidate α) :=
  candidates input reads.items (pinnedIds reads.rules input.seeds) sets

theorem nodup_allCandidates : ((allCandidates input sets reads).map (·.id)).Nodup :=
  nodup_candidates input reads.items reads.rules sets

/-- The slots of a ranking have been granted in turn. -/
theorem exists_pinAllocation_outcome (hbears : (policyInput input reads).BearsIds) :
    ∃ grants, PinAllocation settings.starts (some settings.maxPinSlots) (Rule.sort reads.rules)
      ((policyInput input reads).pool (allCandidates input sets reads))
      (outcome settings input sets reads).effects.pins grants :=
  RuleEffects.exists_pinAllocation α settings.starts (some settings.maxPinSlots) reads.rules
    (PolicyInput.nodup_pool hbears (nodup_allCandidates input sets reads))

theorem countP_pinned_le (hbears : (policyInput input reads).BearsIds) :
    (outcome settings input sets reads).survivors.countP (·.pin.isSome) ≤
      settings.maxPinSlots := by
  obtain ⟨grants, hallocation⟩ := exists_pinAllocation_outcome settings input sets reads hbears
  have hkeys : ∀ s ∈ (outcome settings input sets reads).survivors, s.pin.isSome = true →
      s.id ∈ (outcome settings input sets reads).effects.pins.keys := by
    intro s hs hpinned
    obtain ⟨c, -, -, rfl⟩ := Policy.mem_survivors_iff.1 hs
    rw [RuleEffects.attach_pin] at hpinned
    rw [RuleEffects.attach_id]
    exact Dictionary.mem_keys_iff.2 (Option.isSome_iff_exists.1 hpinned)
  have hcount := countP_le_length (nodup_survivors_outcome settings input sets reads) hkeys
  rw [Dictionary.keys, List.length_map] at hcount
  exact hcount.trans (hallocation.size.trans_le (hallocation.total _ rfl))

/-- If the places that rules ask for leave room for the slots, all slots can be counted. -/
theorem position_add_lt (hbears : (policyInput input reads).BearsIds)
    (hbound : ∀ rule ∈ reads.rules, ∀ position, rule.action = .pin position →
      max position 1 + settings.maxPinSlots < 2 ^ 64) :
    ∀ s ∈ (outcome settings input sets reads).survivors, ∀ p, s.pin = some p →
      p.position + (outcome settings input sets reads).survivors.countP (·.pin.isSome) <
        2 ^ 64 := by
  intro s hs p hp
  have hcount := countP_pinned_le settings input sets reads hbears
  obtain ⟨c, -, -, rfl⟩ := Policy.mem_survivors_iff.1 hs
  rw [RuleEffects.attach_pin] at hp
  obtain ⟨rule, hrule, -, -, position, -, haction, -, rfl⟩ := RuleEffects.grantedBy_of_pin? hp
  have hplace := hbound rule hrule position haction
  dsimp only
  omega

/-- Rules name items for a place by their identifiers without blanks at the ends, and pins cover
every item with such an identifier if and only if one of them has it as it is. An available item
that rules name is a candidate; it counts as matched by a pin if and only if a pin covers it, and if
none does, it goes without a reason unless a signal proposes it. If a pin with slots left covers it
and the request has nothing against it, it is kept under a pin, and so stands by its slot. -/
theorem named_pins_followed (hbears : (policyInput input reads).BearsIds) :
    (∀ (starts : FacetStarts) (rules : List Rule) (seeds : List String) (id : String),
        (id ∈ pinnedIds rules seeds ↔
          (∃ rule ∈ rules, (∃ position, rule.action = .pin position) ∧
            ∃ ids, rule.target = .items ids ∧ ∃ x ∈ ids, Text.trim x = id) ∧
          id ≠ "" ∧ id ∉ seeds) ∧
        ((∀ item : Item, item.id = id → CoveredByPin starts rules item) ↔
          NamedVerbatim rules id)) ∧
      (ofReads settings input sets reads).summary.rulePinCount =
        (outcome settings input sets reads).effects.pinMatches.length ∧
      (∃ grants, PinAllocation settings.starts (some settings.maxPinSlots) (Rule.sort reads.rules)
          ((policyInput input reads).pool (allCandidates input sets reads))
          (outcome settings input sets reads).effects.pins grants ∧
        ∀ id ∈ pinnedIds reads.rules input.seeds, ∃ c ∈ allCandidates input sets reads, c.id = id ∧
          ∀ item, (policyInput input reads).available? id = some item →
            (policy settings).FollowsPins (policyInput input reads) (allCandidates input sets reads)
              grants c item) ∧
      ((∀ rule ∈ reads.rules, ∀ position, rule.action = .pin position →
          max position 1 + settings.maxPinSlots < 2 ^ 64) →
        (ofReads settings input sets reads).overrun = false ∧
        ∃ given, SlotMap.Granted [] (Diversity.inTurn (outcome settings input sets reads).survivors)
            given ∧
          ∀ s ∈ (outcome settings input sets reads).survivors, s.pin.isSome = true →
            StandsBySlot given input.k (ofReads settings input sets reads).list s) := by
  refine ⟨fun _ _ _ _ => ⟨mem_pinnedIds_iff, forall_coveredByPin_iff⟩, ?_, ?_, fun hbound => ?_⟩
  · rw [ofReads_eq]
    rfl
  · obtain ⟨grants, hallocation⟩ := exists_pinAllocation_outcome settings input sets reads hbears
    refine ⟨grants, hallocation, fun id hid => ?_⟩
    obtain ⟨c, hc, rfl⟩ := exists_candidate_of_mem hid input reads.items sets
    exact ⟨c, hc, rfl, fun item hitem => Policy.followsPins hbears hallocation hc hitem⟩
  · have hroom := position_add_lt settings input sets reads hbears hbound
    obtain ⟨given, hgranted, hperm, -⟩ :=
      Diversity.exists_granted_inTurn (outcome settings input sets reads).survivors
    rw [ofReads_eq]
    refine ⟨Diversity.overruns_eq_false input.k hroom, given, hgranted, fun s hs hpinned => ?_⟩
    exact ((diversity settings).placedBySlot_list reads.items input.k _).standsBySlot hgranted
      hperm (Diversity.mem_inTurn.2 ⟨hs, hpinned⟩)

def pinOf (name : String) : Rule :=
  { id := .none, space := "shop", target := .items [name], action := .pin 1 }

def emptyInput : RankInput Float :=
  { scope := ⟨.none, "shop"⟩, surface := "default", blend := ⟨⟨1.0, 0.1, 0.1⟩, 0.5⟩
    weights := ⟨1.0, 0.1, 0.1⟩, seeds := [], user := some "ann", constraints := none
    types := .overDefaults [], k := 5 }

def bootReads : Reads :=
  { rules := [pinOf "boot"], items := .ofList [("boot", { id := "boot" })], recent := [] }

theorem named_pins_followed_boot :
    (policyInput emptyInput bootReads).BearsIds ∧ "boot" ∈ pinnedIds bootReads.rules [] ∧
      NamedVerbatim bootReads.rules "boot" ∧
      (∀ item : Item, item.id = "boot" → CoveredByPin ⟨[], []⟩ bootReads.rules item) ∧
      (∃ c ∈ allCandidates emptyInput [] bootReads, c.id = "boot" ∧
        c.id ∈ (outcome {} emptyInput [] bootReads).effects.pinMatches) ∧
      ∃ given, SlotMap.Granted [] (Diversity.inTurn (outcome {} emptyInput [] bootReads).survivors)
          given ∧
        ∀ s ∈ (outcome {} emptyInput [] bootReads).survivors, s.pin.isSome = true →
          StandsBySlot given 5 (ofReads {} emptyInput [] bootReads).list s := by
  have hbears : (policyInput emptyInput bootReads).BearsIds := by
    intro id item hget
    obtain ⟨rfl, rfl⟩ : id = "boot" ∧ item = { id := "boot" } := by
      simpa using Dictionary.mem_of_get?_ofList hget
    rfl
  obtain ⟨hnames, -, ⟨grants, -, hfollows⟩, hslots⟩ :=
    named_pins_followed {} emptyInput [] bootReads hbears
  have hnamed : "boot" ∈ pinnedIds bootReads.rules [] := by decide +kernel
  have hverbatim : NamedVerbatim bootReads.rules "boot" :=
    ⟨pinOf "boot", List.mem_singleton_self _, ⟨1, rfl⟩, ["boot"], rfl, List.mem_singleton_self _⟩
  have hcovers := fun starts => (hnames starts bootReads.rules [] "boot").2.2 hverbatim
  obtain ⟨c, hc, hid, hitems⟩ := hfollows "boot" hnamed
  have hcounted := (hitems { id := "boot" } rfl).counted.2 (hcovers _ _ rfl)
  refine ⟨hbears, hnamed, hverbatim, hcovers _, ⟨c, hc, hid, hcounted⟩, (hslots ?_).2⟩
  intro rule hrule position haction
  obtain rfl := List.mem_singleton.1 hrule
  cases haction
  decide

end Ranked

namespace Engine

/-- A shop with one boot, which a rule puts first by a name with a blank in front. -/
def blankPinShop : Snapshot := { items := [{ id := "boot" }], rules := [Ranked.pinOf " boot"] }

def blankPinEngine : Engine Unit := ⟨{}, .memory [(⟨.none, "shop"⟩, blankPinShop)]⟩

def pinRequest : RecommendRequest Float := { userId := "ann", space := "shop", k := 5 }

/-- The rule brings the boot in, but no pin covers it. So it is not counted, and the list stays
empty though the boot is available and has nothing against it. -/
theorem blankPin_brings_in_uncovered :
    "boot" ∈ Ranked.pinnedIds blankPinShop.rules [] ∧
      (∀ starts, ¬CoveredByPin starts blankPinShop.rules { id := "boot" }) ∧
      ∃ a, (blankPinEngine.recommend { org := .none, now := ⟨2000, 0⟩ } pinRequest
          ⟨0, ()⟩).1.answer = .ok a ∧
        (a.items.map (·.itemId), a.summary.totalCandidates, a.summary.rulePinCount) =
          ([], 1, 0) := by
  refine ⟨by decide +kernel, ?_, Except.exists_ok_of_map_toOption (by decide +kernel)⟩
  rintro starts ⟨rule, hrule, -, hcovers⟩
  obtain rfl := List.mem_singleton.1 hrule
  obtain ⟨ids, htarget, hid⟩ := (RuleTarget.covers_untagged_iff rfl).1 hcovers
  cases htarget
  exact absurd hid (by decide)

end Engine

end Recommendation
