import Recommendation.Policy
import Recommendation.Proofs.Dictionary
import Recommendation.Proofs.RuleEffects

/-!
Which candidates the policy lets through. `Constraints.Admits` says what a request
asks of an item, apart from the test that decides it, and `Policy.survives_iff`
says when a candidate is let through: an item that the user has met recently is
let through by a pin alone, and what the request asks is not looked at then. A
verdict depends on the identifier of a candidate and on nothing else, so that no
survivor has a reason against it.
-/

namespace Recommendation

/-- An item is as a request asks: it has one of the tags asked for, if any are, its
price lies in the range, and it is younger than the instant. -/
structure Constraints.Admits (c : Constraints) (item : Item) : Prop where
  tags : (∃ t ∈ c.includeTagsAny, normalTag t ≠ "") →
    ∃ t ∈ c.includeTagsAny, normalTag t ≠ "" ∧ normalTag t ∈ item.normalTags
  price : ∀ low high, c.priceBetween = some (low, high) →
    ∃ price, item.price = some price ∧ low ≤ price ∧ price ≤ high
  age : ∀ t, c.createdAfter = some t → t < item.createdAt

namespace Constraints

variable {c : Constraints} {item : Item}

theorem mem_wantedTags {tag : String} :
    tag ∈ c.wantedTags ↔ ∃ t ∈ c.includeTagsAny, normalTag t ≠ "" ∧ normalTag t = tag := by
  simp only [wantedTags, mem_sortedTexts, List.mem_filter, List.mem_map, bne_iff_ne]
  constructor
  · rintro ⟨⟨t, ht, rfl⟩, hne⟩
    exact ⟨t, ht, hne, rfl⟩
  · rintro ⟨t, ht, hne, rfl⟩
    exact ⟨⟨t, ht, rfl⟩, hne⟩

theorem allowsTags_iff : c.allowsTags item = true ↔
    ((∃ t ∈ c.includeTagsAny, normalTag t ≠ "") →
      ∃ t ∈ c.includeTagsAny, normalTag t ≠ "" ∧ normalTag t ∈ item.normalTags) := by
  rw [allowsTags, Bool.or_eq_true, List.isEmpty_iff, List.eq_nil_iff_forall_not_mem,
    List.any_eq_true]
  simp only [List.contains_iff_mem, mem_wantedTags]
  constructor
  · rintro (hnone | ⟨tag, htag, t, ht, hne, rfl⟩) ⟨t', ht', hne'⟩
    · exact absurd ⟨t', ht', hne', rfl⟩ (hnone _)
    · exact ⟨t, ht, hne, htag⟩
  · intro h
    by_cases hsome : ∃ t ∈ c.includeTagsAny, normalTag t ≠ ""
    · obtain ⟨t, ht, hne, htag⟩ := h hsome
      exact .inr ⟨_, htag, t, ht, hne, rfl⟩
    · refine .inl fun tag => ?_
      rintro ⟨t, ht, hne, -⟩
      exact hsome ⟨t, ht, hne⟩

theorem allowsPrice_iff : c.allowsPrice item = true ↔
    ∀ low high, c.priceBetween = some (low, high) →
      ∃ price, item.price = some price ∧ low ≤ price ∧ price ≤ high := by
  rw [allowsPrice]
  rcases hrange : c.priceBetween with _ | ⟨low, high⟩
  · simp
  · cases hprice : item.price with
    | none => simp
    | some price => simp

theorem allowsAge_iff : c.allowsAge item = true ↔
    ∀ t, c.createdAfter = some t → t < item.createdAt := by
  rw [allowsAge]
  cases c.createdAfter <;> simp

theorem allows_iff : c.allows item = true ↔ c.Admits item := by
  rw [allows, Bool.and_eq_true, Bool.and_eq_true, allowsTags_iff, allowsPrice_iff, allowsAge_iff]
  exact ⟨fun ⟨⟨tags, price⟩, age⟩ => ⟨tags, price, age⟩, fun h => ⟨⟨h.tags, h.price⟩, h.age⟩⟩

end Constraints

/-! ### Marks and verdicts -/

namespace PolicyInput

variable {input : PolicyInput} {id : String}

theorem available?_eq_some_iff {item : Item} : input.available? id = some item ↔
    input.items.get? id = some item ∧ item.available = true := by
  rw [available?, Option.filter_eq_some_iff]

theorem mark_of_unavailable (h : input.available? id = none) :
    input.mark id = some .unavailable := by
  simp [mark, exclusion, h]

/-- The mark of an available item: what the request asks of it is looked at last. -/
theorem mark_of_available {item : Item} (h : input.available? id = some item) :
    input.mark id =
      if input.isExcluded id then some .explicitExclude
      else if id ∈ input.recent then some .recentEvent
      else if input.allows item then none
      else some .constraint := by
  simp only [mark, exclusion, h, Option.isNone_some, Bool.false_eq_true, if_false,
    List.contains_iff_mem, Option.all_some]
  split
  · rfl
  · split <;> rfl

theorem mark_eq_none_iff : input.mark id = none ↔
    ∃ item, input.available? id = some item ∧ input.isExcluded id = false ∧
      id ∉ input.recent ∧ input.allows item = true := by
  cases hitem : input.available? id with
  | none => simp [mark_of_unavailable hitem]
  | some item =>
      rw [mark_of_available hitem]
      grind

/-- A recently met item is marked as such whatever the request asks of it. -/
theorem mark_eq_recentEvent_iff : input.mark id = some .recentEvent ↔
    ∃ item, input.available? id = some item ∧ input.isExcluded id = false ∧
      id ∈ input.recent := by
  cases hitem : input.available? id with
  | none => simp [mark_of_unavailable hitem]
  | some item =>
      rw [mark_of_available hitem]
      grind

end PolicyInput

namespace RuleEffects

variable {α : Type} {e : RuleEffects α} {id : String}

/-- Nothing is against an item after all if a pin lifts the mark of a recent item,
or if there is no mark and every block is under a pin. -/
theorem verdict_eq_none_iff {mark : Option DropReason} : e.verdict mark id = none ↔
    mark = some .recentEvent ∧ (e.pin? id).isSome = true ∨
      mark = none ∧ (id ∈ e.blocked → (e.pin? id).isSome = true) := by
  unfold verdict
  cases hpin : e.pin? id with
  | none => rcases mark with _ | (_ | _ | _ | _ | _) <;> simp [isBlocked]
  | some pin => rcases mark with _ | (_ | _ | _ | _ | _) <;> simp

variable [Score α]

@[simp] theorem attach_id (c : Candidate α) : (e.attach c).id = c.id := by
  rw [attach]
  split <;> rfl

@[simp] theorem attach_pin (c : Candidate α) : (e.attach c).pin = e.pin? c.id := by
  rw [attach]
  split <;> rfl

theorem attach_boosted {c : Candidate α} (h : c.boosted = false) :
    (e.attach c).boosted = (e.boost? c.id).isSome := by
  rw [attach]
  split
  · rename_i hnone
    exact h.trans (by rw [hnone]; rfl)
  · rename_i hsome
    rw [hsome]
    rfl

end RuleEffects

/-! ### Records and the rules that cover them -/

namespace PolicyInput

variable {input : PolicyInput}

/-- The records bear the identifiers that they stand under. -/
def BearsIds (input : PolicyInput) : Prop :=
  ∀ id item, input.items.get? id = some item → item.id = id

variable {α : Type} {cs : List (Candidate α)}

theorem exists_mem_pool {c : Candidate α} {item : Item} (hc : c ∈ cs)
    (hitem : input.available? c.id = some item) : ∃ entry ∈ input.pool cs, entry.item = item :=
  ⟨_, List.mem_filterMap.2 ⟨c, hc, by rw [hitem]; rfl⟩, rfl⟩

theorem available?_of_mem_pool (hbears : input.BearsIds) {entry : PoolEntry}
    (hentry : entry ∈ input.pool cs) : input.available? entry.item.id = some entry.item := by
  obtain ⟨c, -, hc⟩ := List.mem_filterMap.1 hentry
  obtain ⟨item, hitem, rfl⟩ := Option.map_eq_some_iff.1 hc
  rw [hbears c.id item (available?_eq_some_iff.1 hitem).1]
  exact hitem

end PolicyInput

namespace Policy

variable {α : Type} {input : PolicyInput} {cs : List (Candidate α)} {c : Candidate α} {item : Item}

theorem exists_covering_iff (starts : FacetStarts) (hbears : input.BearsIds) (hc : c ∈ cs)
    (hitem : input.available? c.id = some item) (hit : Rule → Prop) :
    (∃ rule ∈ input.rules, ∃ entry ∈ input.pool cs,
        rule.target.covers starts entry.item = true ∧ hit rule ∧ entry.item.id = c.id) ↔
      ∃ rule ∈ input.rules, hit rule ∧ rule.target.covers starts item = true := by
  constructor
  · rintro ⟨rule, hrule, entry, hentry, hcovers, hhit, hid⟩
    -- The rule covers an entry of the pool, which is the record of the candidate.
    have havailable := PolicyInput.available?_of_mem_pool hbears hentry
    rw [hid, hitem] at havailable
    cases havailable
    exact ⟨rule, hrule, hhit, hcovers⟩
  · rintro ⟨rule, hrule, hhit, hcovers⟩
    obtain ⟨entry, hentry, rfl⟩ := PolicyInput.exists_mem_pool hc hitem
    exact ⟨rule, hrule, entry, hentry, hcovers, hhit,
      hbears _ _ (PolicyInput.available?_eq_some_iff.1 hitem).1⟩

variable [Score α]

theorem mem_blocked_effects_iff (policy : Policy) (hbears : input.BearsIds) (hc : c ∈ cs)
    (hitem : input.available? c.id = some item) :
    c.id ∈ (policy.effects input cs).blocked ↔
      ∃ rule ∈ input.rules, rule.action = .block ∧
        rule.target.covers policy.starts item = true := by
  rw [effects, RuleEffects.mem_blocked_ofRules_iff]
  exact exists_covering_iff policy.starts hbears hc hitem (·.action = .block)

theorem isSome_boost?_effects_iff (policy : Policy) (hbears : input.BearsIds) (hc : c ∈ cs)
    (hitem : input.available? c.id = some item) :
    ((policy.effects input cs).boost? c.id).isSome = true ↔
      ∃ rule ∈ input.rules, (∃ strength, rule.action = .boost strength) ∧
        rule.target.covers policy.starts item = true := by
  rw [effects, RuleEffects.isSome_boost?_ofRules_iff]
  exact exists_covering_iff policy.starts hbears hc hitem fun rule =>
    ∃ strength, rule.action = .boost strength

end Policy

/-! ### Survivors -/

namespace Policy

variable {α : Type} {policy : Policy} {input : PolicyInput} {cs : List (Candidate α)}

/-- A candidate survives if nothing is against it after all and, if only a rule has named it, it
has got a slot. -/
theorem survives_iff_verdict {e : RuleEffects α} {c : Candidate α} : survives input e c = true ↔
    e.verdict (input.mark c.id) c.id = none ∧
      (c.pinOnly = true → (e.pin? c.id).isSome = true) := by
  rw [survives, Bool.and_eq_true, beq_iff_eq]
  cases c.pinOnly <;> cases e.pin? c.id <;> simp

theorem survives_iff {e : RuleEffects α} {c : Candidate α} : survives input e c = true ↔
    ∃ item, input.available? c.id = some item ∧ input.isExcluded c.id = false ∧
      (c.id ∈ input.recent ∧ (e.pin? c.id).isSome = true ∨
        c.id ∉ input.recent ∧ input.allows item = true ∧
          (c.id ∈ e.blocked → (e.pin? c.id).isSome = true)) ∧
      (c.pinOnly = true → (e.pin? c.id).isSome = true) := by
  rw [survives_iff_verdict, RuleEffects.verdict_eq_none_iff,
    PolicyInput.mark_eq_recentEvent_iff, PolicyInput.mark_eq_none_iff]
  constructor
  · rintro ⟨⟨⟨item, hitem, hexcluded, hrecent⟩, hpin⟩ |
      ⟨⟨item, hitem, hexcluded, hrecent, hallows⟩, hblock⟩, honly⟩
    · exact ⟨item, hitem, hexcluded, .inl ⟨hrecent, hpin⟩, honly⟩
    · exact ⟨item, hitem, hexcluded, .inr ⟨hrecent, hallows, hblock⟩, honly⟩
  · rintro ⟨item, hitem, hexcluded, ⟨hrecent, hpin⟩ | ⟨hrecent, hallows, hblock⟩, honly⟩
    · exact ⟨.inl ⟨⟨item, hitem, hexcluded, hrecent⟩, hpin⟩, honly⟩
    · exact ⟨.inr ⟨⟨item, hitem, hexcluded, hrecent, hallows⟩, hblock⟩, honly⟩

variable [Score α]

theorem survivors_perm : (policy.outcome input cs).survivors.Perm
    ((cs.filter (survives input (policy.effects input cs))).map (policy.effects input cs).attach) :=
  sortWith_perm _ _

/-- The survivors are the candidates let through, with the marks of the rules. -/
theorem mem_survivors_iff {c : Candidate α} : c ∈ (policy.outcome input cs).survivors ↔
    ∃ c₀ ∈ cs, survives input (policy.effects input cs) c₀ = true ∧
      (policy.effects input cs).attach c₀ = c := by
  rw [survivors_perm.mem_iff, List.mem_map]
  simp only [List.mem_filter, and_assoc]

theorem nodup_survivors (h : (cs.map (·.id)).Nodup) :
    ((policy.outcome input cs).survivors.map (·.id)).Nodup := by
  rw [(survivors_perm.map _).nodup_iff, List.map_map]
  simp only [Function.comp_def, RuleEffects.attach_id]
  exact h.sublist (List.filter_sublist.map _)

theorem dropReason?_outcome {c : Candidate α} (hc : c ∈ cs) :
    (policy.outcome input cs).dropReason? c.id =
      (policy.effects input cs).verdict (input.mark c.id) c.id := by
  have hdropped : (policy.outcome input cs).dropped = cs.filterMap fun c =>
      ((policy.effects input cs).verdict (input.mark c.id) c.id).map fun r => (c.id, r) := rfl
  cases hreason : (policy.outcome input cs).dropReason? c.id with
  | some reason =>
      have hentry := mem_of_find?_key_eq_some hreason
      rw [hdropped] at hentry
      obtain ⟨c', -, hc'⟩ := List.mem_filterMap.1 hentry
      obtain ⟨reason', hverdict, heq⟩ := Option.map_eq_some_iff.1 hc'
      rw [Prod.mk.injEq] at heq
      rw [← heq.1, ← heq.2, hverdict]
  | none =>
      rw [PolicyOutcome.dropReason?, Option.map_eq_none_iff, List.find?_eq_none] at hreason
      cases hverdict : (policy.effects input cs).verdict (input.mark c.id) c.id with
      | none => rfl
      | some reason =>
          have hentry : (c.id, reason) ∈ (policy.outcome input cs).dropped := by
            rw [hdropped]
            exact List.mem_filterMap.2 ⟨c, hc, by rw [hverdict]; rfl⟩
          exact absurd (beq_self_eq_true c.id) (hreason _ hentry)

theorem dropReason?_of_mem_survivors {c : Candidate α}
    (h : c ∈ (policy.outcome input cs).survivors) :
    (policy.outcome input cs).dropReason? c.id = none := by
  obtain ⟨c₀, hc₀, hsurvives, rfl⟩ := mem_survivors_iff.1 h
  rw [RuleEffects.attach_id, dropReason?_outcome hc₀, (survives_iff_verdict.1 hsurvives).1]

/-- Whatever is made of survivors, none of it leaks. -/
theorem leaks_eq_nil {list : List (Candidate α)}
    (h : ∀ c ∈ list, ∃ s ∈ (policy.outcome input cs).survivors, s.id = c.id) :
    (policy.outcome input cs).leaks (list.map (·.id)) = [] := by
  rw [PolicyOutcome.leaks, List.filter_eq_nil_iff]
  intro id hid
  obtain ⟨c, hc, rfl⟩ := List.mem_map.1 hid
  obtain ⟨s, hs, hsid⟩ := h c hc
  rw [← hsid, dropReason?_of_mem_survivors hs]
  exact Bool.false_ne_true

/-- The policy finds nothing wrong with its own work. -/
theorem constraintLeakCount_outcome :
    (policy.outcome input cs).summary.constraintLeakCount = 0 := by
  have hnone : (policy.outcome input cs).leaks
      ((policy.outcome input cs).survivors.map (·.id)) = [] :=
    leaks_eq_nil fun c hc => ⟨c, hc, rfl⟩
  exact (Nat.zero_add _).trans (congrArg List.length hnone)

end Policy

end Recommendation
