import Recommendation.Proofs.Dictionary
import Recommendation.Proofs.Engine.SelfChecks
import Recommendation.Store.Memory

/-!
What an item must be like to be in a list for a user. `Cleared` collects what the
record of the item, the request and the rules have to say; a candidate is let through
if and only if its item is cleared. What the request asks of an item is looked at
only if the user has not met the item recently. So a pin, which lifts the exclusion
of a recent item, lets an item through that is not as the request asks.
-/

namespace Recommendation

open Time (Instant)

/-! ### Records bear their identifiers -/

/-- The records that a store reads bear the identifiers that they are read by. -/
def Store.BearsIds {σ : Type} (store : Store σ) : Prop :=
  ∀ ctx scope ids w items w', Returns (store.itemsByIds ctx scope ids) w items w' →
    ∀ id item, items.get? id = some item → item.id = id

theorem Snapshot.id_of_itemsByIds {s : Snapshot} {ids : List String} {id : String} {item : Item}
    (h : (s.itemsByIds ids).get? id = some item) : item.id = id := by
  obtain ⟨_, -, heq⟩ := List.mem_map.1 (Dictionary.mem_of_get?_ofList h)
  cases heq
  rfl

theorem Store.bearsIds_memory {σ : Type} (tenants : Tenants) :
    (memory tenants : Store σ).BearsIds := by
  intro ctx scope ids w items w' h id item hget
  obtain ⟨_, _, -, hpure⟩ := returns_bind_iff.1 h
  obtain ⟨rfl, -⟩ := returns_pure_iff.1 hpure
  exact Snapshot.id_of_itemsByIds hget

/-! ### Items that are cleared -/

/-- The item may be shown: there is an available record of it, the request does not
exclude it, it is as the request asks unless the user has met it recently, and if it
has been met recently or blocked, it is pinned. -/
structure Cleared (starts : FacetStarts) (input : PolicyInput) (id : String) (item : Item)
    (pinned : Prop) : Prop where
  recorded : input.items.get? id = some item
  available : item.available = true
  notExcluded : ∀ c, input.constraints = some c → ∀ excluded ∈ c.excludeItemIds,
    Text.trim excluded ≠ id
  asAsked : id ∉ input.recent → ∀ c, input.constraints = some c → c.Admits item
  underPin : (id ∈ input.recent ∨ ∃ rule ∈ input.rules, rule.action = .block ∧
    rule.target.covers starts item = true) → pinned

def GrantedFor (starts : FacetStarts) (rules : List Rule) (item : Item) (pin : Pin) : Prop :=
  ∃ rule ∈ rules, ∃ position, rule.action = .pin position ∧
    rule.target.covers starts item = true ∧ pin = ⟨max position 1, rule.priority⟩

namespace PolicyInput

variable {input : PolicyInput} {id : String}

theorem isExcluded_eq_false_iff : input.isExcluded id = false ↔
    ∀ c, input.constraints = some c → ∀ excluded ∈ c.excludeItemIds, Text.trim excluded ≠ id := by
  rw [isExcluded]
  cases input.constraints with
  | none => simp
  | some c => simp [Constraints.excluded]

theorem allows_iff {item : Item} : input.allows item = true ↔
    ∀ c, input.constraints = some c → c.Admits item := by
  rw [allows]
  cases input.constraints with
  | none => simp
  | some c => simp [Constraints.allows_iff]

end PolicyInput

namespace Policy

variable {α : Type} [Score α] {policy : Policy} {input : PolicyInput} {cs : List (Candidate α)}
  {c : Candidate α} {item : Item}

/-- A pin has been granted by a rule that covers the record of its item. -/
theorem grantedFor_of_pin? (hbears : input.BearsIds) (hitem : input.available? c.id = some item)
    {pin : Pin} (hpin : (policy.effects input cs).pin? c.id = some pin) :
    GrantedFor policy.starts input.rules item pin := by
  obtain ⟨rule, hrule, entry, hentry, position, hcovers, haction, hid, rfl⟩ :=
    RuleEffects.grantedBy_of_pin? hpin
  have havailable := PolicyInput.available?_of_mem_pool hbears hentry
  rw [hid, hitem] at havailable
  cases havailable
  exact ⟨rule, hrule, position, haction, hcovers, rfl⟩

/-- A candidate is let through if and only if its item is cleared and, if only a rule
has named it, pinned. -/
theorem survives_iff_cleared (policy : Policy) (hbears : input.BearsIds) (hc : c ∈ cs) :
    survives input (policy.effects input cs) c = true ↔
      ∃ item, Cleared policy.starts input c.id item
          (((policy.effects input cs).pin? c.id).isSome = true) ∧
        (c.pinOnly = true → ((policy.effects input cs).pin? c.id).isSome = true) := by
  rw [survives_iff]
  constructor
  · rintro ⟨item, hitem, hexcluded, hverdict, honly⟩
    obtain ⟨hrecord, havailable⟩ := PolicyInput.available?_eq_some_iff.1 hitem
    have hblocked := mem_blocked_effects_iff policy hbears hc hitem
    refine ⟨item, ⟨hrecord, havailable, PolicyInput.isExcluded_eq_false_iff.1 hexcluded, ?_, ?_⟩,
      honly⟩
    · intro hfresh
      rcases hverdict with ⟨hrecent, -⟩ | ⟨-, hallows, -⟩
      · exact absurd hrecent hfresh
      · exact PolicyInput.allows_iff.1 hallows
    · rintro (hrecent | hblock)
      · rcases hverdict with ⟨-, hpin⟩ | ⟨hfresh, -, -⟩
        · exact hpin
        · exact absurd hrecent hfresh
      · rcases hverdict with ⟨-, hpin⟩ | ⟨-, -, hlifted⟩
        · exact hpin
        · exact hlifted (hblocked.2 hblock)
  · rintro ⟨item, hcleared, honly⟩
    have hitem := PolicyInput.available?_eq_some_iff.2 ⟨hcleared.recorded, hcleared.available⟩
    have hblocked := mem_blocked_effects_iff policy hbears hc hitem
    refine ⟨item, hitem, PolicyInput.isExcluded_eq_false_iff.2 hcleared.notExcluded, ?_, honly⟩
    by_cases hrecent : c.id ∈ input.recent
    · exact .inl ⟨hrecent, hcleared.underPin (.inl hrecent)⟩
    · exact .inr ⟨hrecent, PolicyInput.allows_iff.2 (hcleared.asAsked hrecent),
        fun hblock => hcleared.underPin (.inr (hblocked.1 hblock))⟩

end Policy

/-! ### Lists for users -/

namespace Ranked

variable {σ α : Type}

def policyInput (input : RankInput α) (reads : Reads) : PolicyInput :=
  ⟨input.constraints, reads.recent, reads.rules, reads.items⟩

theorem bearsIds_of_read {settings : Settings} {store : Store σ} (hstore : store.BearsIds)
    {ctx : Context} {input : RankInput α} {sets : List (CandidateSet α)} {w w' : World σ}
    {reads : Reads} (h : Returns (read settings store ctx input sets) w reads w') :
    (policyInput input reads).BearsIds := by
  simp only [read, returns_bind_iff, returns_step_iff, returns_pure_iff] at h
  obtain ⟨rules, _, -, items, _, hitems, recent, _, -, rfl, -⟩ := h
  intro id item hget
  rw [readItems] at hitems
  split at hitems
  · obtain ⟨rfl, -⟩ := returns_pure_iff.1 hitems
    cases hget
  · exact hstore _ _ _ _ _ _ hitems id item hget

end Ranked

namespace Engine

variable {σ α : Type} [Score α] {e : Engine σ} {ctx : Context} {r : RecommendRequest α}
  {w w' : World σ}

namespace RecommendRun

variable (run : RecommendRun e ctx r w w')

def policyInput : PolicyInput := Ranked.policyInput run.input run.reads

def candidates : List (Candidate α) :=
  Ranked.candidates run.input run.reads.items
    (Ranked.pinnedIds run.reads.rules run.input.seeds) run.proposals.sets

def pin? (id : String) : Option Pin := run.outcome.effects.pin? id

variable {run}

/-- The candidates that the policy lets through are those whose items are cleared,
but for items that only a rule has named and that got no slot. -/
theorem mem_survivors_iff_cleared (hstore : e.store.BearsIds) {c : Candidate α}
    (hc : c ∈ run.candidates) :
    c.id ∈ run.outcome.survivors.map (·.id) ↔
      ∃ item, Cleared e.settings.starts run.policyInput c.id item ((run.pin? c.id).isSome = true) ∧
        (c.pinOnly = true → (run.pin? c.id).isSome = true) := by
  have hbears := Ranked.bearsIds_of_read hstore run.ranks
  have hdistinct : (run.candidates.map (·.id)).Nodup := Ranked.nodup_candidates _ _ _ _
  refine Iff.trans ?_ (Policy.survives_iff_cleared
    ⟨e.settings.starts, some e.settings.maxPinSlots⟩ hbears hc)
  rw [List.mem_map]
  constructor
  · rintro ⟨s, hs, hid⟩
    obtain ⟨c', hc', hsurvives, rfl⟩ := Policy.mem_survivors_iff.1 hs
    rw [RuleEffects.attach_id] at hid
    -- The survivor comes from this very candidate, since identifiers are distinct.
    exact List.inj_on_of_nodup_map hdistinct hc' hc hid ▸ hsurvives
  · exact fun hsurvives =>
      ⟨_, Policy.mem_survivors_iff.2 ⟨c, hc, hsurvives, rfl⟩, RuleEffects.attach_id c⟩

/-- Whatever is in the list is cleared, and its pin comes from a rule about its item. -/
theorem cleared_of_mem_list (hstore : e.store.BearsIds) {c : Candidate α}
    (hc : c ∈ run.ranked.list) :
    ∃ item, Cleared e.settings.starts run.policyInput c.id item (c.pin.isSome = true) ∧
      ∀ pin, c.pin = some pin → GrantedFor e.settings.starts run.reads.rules item pin := by
  have hbears := Ranked.bearsIds_of_read hstore run.ranks
  obtain ⟨c', hc', hsurvives, rfl⟩ := Ranked.exists_candidate_of_mem_list _ _ _ _ hc
  obtain ⟨item, hcleared, -⟩ := (Policy.survives_iff_cleared _ hbears hc').1 hsurvives
  have hitem := PolicyInput.available?_eq_some_iff.2 ⟨hcleared.recorded, hcleared.available⟩
  rw [RuleEffects.attach_id, RuleEffects.attach_pin]
  exact ⟨item, hcleared, fun pin hpin => Policy.grantedFor_of_pin? hbears hitem hpin⟩

end RecommendRun

/-- A list for a user has nothing in it that is not cleared: every item has an
available record, is not excluded, is as the request asks unless the user has met it
recently, and is pinned by a rule about it if it has been met recently or blocked.
This is all that is asked of a candidate, but for a slot if only a rule has named
it: what the request asks of a recent item under a pin does not count. -/
theorem recommend_cleared (hstore : e.store.BearsIds) {a : Answer α}
    (hok : (e.recommend ctx r w).1.answer = .ok a) :
    ∃ run : RecommendRun e ctx r w (e.recommend ctx r w).2,
      a.items = run.ranked.list.map (·.shown r.includeReasons) ∧
      (∀ c ∈ run.ranked.list, ∃ item,
        Cleared e.settings.starts run.policyInput c.id item (c.pin.isSome = true) ∧
          ∀ pin, c.pin = some pin → GrantedFor e.settings.starts run.reads.rules item pin) ∧
      ∀ c ∈ run.candidates, c.id ∈ run.outcome.survivors.map (·.id) ↔
        ∃ item, Cleared e.settings.starts run.policyInput c.id item
            ((run.pin? c.id).isSome = true) ∧
          (c.pinOnly = true → (run.pin? c.id).isSome = true) := by
  rcases e.recommend_cases ctx r w with ⟨w₁, run, hrun⟩ | ⟨f, w₁, -, hrun⟩
  · rw [hrun] at hok ⊢
    refine ⟨run, ?_, fun c hc => RecommendRun.cleared_of_mem_list hstore hc,
      fun c hc => RecommendRun.mem_survivors_iff_cleared hstore hc⟩
    have hsound := Ranked.sound_ofReads e.settings run.input run.proposals.sets run.reads
    dsimp only at hok
    rw [RecommendRun.served] at hok
    exact items_of_finish hsound.fault hok
  · rw [hrun] at hok
    cases hok

/-- A shop with one shoe, which is not on sale, a user who has looked at it, and a rule
that puts it first. -/
def shoeShop : Snapshot :=
  { items := [{ id := "shoe" }]
    events := [{ userId := "ann", itemId := "shoe", kind := 9, time := ⟨999, 0⟩ }]
    rules := [{ id := .none, space := "shop", target := .items ["shoe"], action := .pin 1 }] }

def shoeEngine : Engine Unit :=
  { settings := { excludesRecent := true, excludedKinds := [9], weights := ⟨1.0, 0.0, 0.0⟩ }
    store := .memory [(⟨.none, "shop"⟩, shoeShop)] }

def onSale : Constraints := { includeTagsAny := ["sale"] }

def shoeContext : Context := { org := .none, now := ⟨1000, 0⟩ }

def saleRequest : RecommendRequest Float :=
  { userId := "ann", space := "shop", k := 5, constraints := some onSale }

theorem recommend_saleRequest :
    ∃ a, (shoeEngine.recommend shoeContext saleRequest ⟨0, ()⟩).1.answer = .ok a ∧
      a.items.map (·.itemId) = ["shoe"] :=
  Except.exists_ok_of_map_toOption (by decide +kernel)

theorem recommend_cleared_saleRequest : shoeEngine.store.BearsIds ∧
    ∃ a, (shoeEngine.recommend shoeContext saleRequest ⟨0, ()⟩).1.answer = .ok a ∧
      ∃ w', ∃ run : RecommendRun shoeEngine shoeContext saleRequest ⟨0, ()⟩ w',
        ∀ c ∈ run.ranked.list, ∃ item,
          Cleared shoeEngine.settings.starts run.policyInput c.id item (c.pin.isSome = true) := by
  have hstore : shoeEngine.store.BearsIds := Store.bearsIds_memory _
  obtain ⟨a, hok, -⟩ := recommend_saleRequest
  obtain ⟨run, -, hcleared, -⟩ := recommend_cleared hstore hok
  refine ⟨hstore, a, hok, _, run, fun c hc => ?_⟩
  obtain ⟨item, hitem, -⟩ := hcleared c hc
  exact ⟨item, hitem⟩

/-- A shoe that is not on sale answers a request for items on sale, because a rule
pins it and the user has looked at it. -/
theorem saleRequest_gets_not_onSale :
    ∃ a, (shoeEngine.recommend shoeContext saleRequest ⟨0, ()⟩).1.answer = .ok a ∧
      a.items.map (·.itemId) = ["shoe"] ∧
      ∃ item, (shoeShop.itemsByIds ["shoe"]).get? "shoe" = some item ∧ ¬onSale.Admits item := by
  obtain ⟨a, hok, hitems⟩ := recommend_saleRequest
  refine ⟨a, hok, hitems, { id := "shoe" }, rfl, ?_⟩
  rw [← Constraints.allows_iff]
  decide

end Engine

end Recommendation
