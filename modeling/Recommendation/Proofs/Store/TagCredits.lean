import Recommendation.Proofs.Dictionary
import Recommendation.Proofs.Doubles.Laws
import Recommendation.Proofs.Engine.Failures

/-!
What a user's events give to a tag. An event adds its weight to the tag for every spelling of the
tag that its item has, so a tag that no item spells twice gets the weight of each event once. A tag
is in the profile just if some event that weighs anything is on an item with the tag, however the
tag is spelled.
-/

namespace Recommendation

open Time (Instant)

/-! ### Weights -/

theorem EventTypes.weight_nonneg {types : EventTypes} (h : ∀ w ∈ types.weights, 0.0 ≤ w)
    (code : Int) : 0.0 ≤ types.weight code := by
  rw [weight]
  cases hget : types.get? code with
  | none => decide
  | some type =>
      have hentry : (code, type) ∈ types.entries := mem_of_find?_key_eq_some hget
      exact h type.weight (List.mem_map_of_mem hentry)

namespace Doubles

variable {weights : List Float}

theorem sum_append_singleton (weights : List Float) (w : Float) :
    Score.sum (weights ++ [w]) = Score.sum weights + w := by
  rw [Score.sum, List.foldl_append]
  rfl

theorem zero_lt_sum_iff (h : ∀ w ∈ weights, 0.0 ≤ w) :
    0.0 < Score.sum weights ↔ ∃ w ∈ weights, 0.0 < w := by
  suffices hboth : 0.0 ≤ Score.sum weights ∧
      (0.0 < Score.sum weights ↔ ∃ w ∈ weights, 0.0 < w) from hboth.2
  induction weights using List.reverseRecOn with
  | nil =>
      have hnot : ¬(0.0 : Float) < 0.0 := not_self_lt 0.0
      exact ⟨by decide, iff_of_false hnot fun ⟨w, hw, _⟩ => absurd hw List.not_mem_nil⟩
  | append_singleton weights w ih =>
      obtain ⟨hweights, hw⟩ := List.forall_mem_append.1 h
      rw [List.forall_mem_singleton] at hw
      obtain ⟨hnonneg, hpos⟩ := ih hweights
      rw [sum_append_singleton]
      refine ⟨add_nonneg hnonneg hw, ?_⟩
      rw [zero_lt_add_iff hnonneg hw, hpos]
      simp only [List.mem_append, List.mem_singleton, or_and_right, exists_or, exists_eq_left]

end Doubles

namespace Snapshot

/-! ### Spellings -/

/-- How many of the tags of the event's item are spellings of a tag. -/
def spellings (s : Snapshot) (tag : String) (e : Event) : Nat :=
  ((s.items.find? fun item => item.id == e.itemId).elim [] Item.normalTags).count tag

/-- The event's item has a tag that compares equal to the given one. -/
def Bears (s : Snapshot) (tag : String) (e : Event) : Prop :=
  ∃ item ∈ s.items, item.id = e.itemId ∧ ∃ t ∈ item.tags, normalTag t = tag

instance (s : Snapshot) (tag : String) (e : Event) : Decidable (s.Bears tag e) :=
  List.decidableBEx _ _

variable {s : Snapshot} {tag : String} {e : Event} {user : String} {since now : Instant}
  {types : EventTypes}

theorem get?_records_eq (h : (s.items.map (·.id)).Nodup) (id : String) :
    s.records.get? id = s.items.find? fun item => item.id == id := by
  have hkeys : ((s.items.map fun item => (item.id, item)).map (·.1)).Nodup := by
    rwa [List.map_map]
  have hreverse := (List.reverse_perm (s.items.map fun item => (item.id, item))).symm
  rw [records, Dictionary.get?_ofList, ← find?_key_congr hreverse hkeys, List.find?_map,
    Option.map_map]
  exact Option.map_id'

theorem spellings_pos_iff (h : (s.items.map (·.id)).Nodup) :
    0 < s.spellings tag e ↔ s.Bears tag e := by
  rw [spellings, List.count_pos_iff, Bears]
  cases hfind : s.items.find? fun item => item.id == e.itemId with
  | none =>
      have hnone : ∀ item ∈ s.items, item.id ≠ e.itemId := by
        simpa using List.find?_eq_none.1 hfind
      exact iff_of_false List.not_mem_nil fun ⟨item, hitem, hid, _⟩ => hnone item hitem hid
  | some item =>
      have hmem := List.mem_of_find?_eq_some hfind
      have hid : item.id = e.itemId := by simpa using List.find?_some hfind
      rw [Option.elim_some, Item.normalTags, List.mem_map]
      refine ⟨fun htag => ⟨item, hmem, hid, htag⟩, ?_⟩
      rintro ⟨item', hmem', hid', htag⟩
      rwa [List.inj_on_of_nodup_map h hmem hmem' (hid.trans hid'.symm)]

/-! ### Credits -/

/-- What the events of a user give to a tag, each as often as its item spells the tag. -/
def credits (s : Snapshot) (user : String) (since now : Instant) (types : EventTypes)
    (tag : String) : List Float :=
  (s.windowOf user since now).flatMap fun e =>
    List.replicate (s.spellings tag e) (types.weight e.kind)

/-- The weights of the events of a user on items with a tag, each once. -/
def weightsOn (s : Snapshot) (user : String) (since now : Instant) (types : EventTypes)
    (tag : String) : List Float :=
  ((s.windowOf user since now).filter fun e => s.Bears tag e).map fun e => types.weight e.kind

/-- An event that weighs anything is on an item with the tag. -/
theorem exists_pos_credits_iff (h : (s.items.map (·.id)).Nodup) :
    (∃ w ∈ s.credits user since now types tag, 0.0 < w) ↔
      ∃ w ∈ s.weightsOn user since now types tag, 0.0 < w := by
  simp only [credits, weightsOn, List.mem_flatMap, List.mem_replicate, List.mem_map,
    List.mem_filter, decide_eq_true_eq, ← spellings_pos_iff h, Nat.pos_iff_ne_zero]
  constructor
  · rintro ⟨_, ⟨e, he, hspelled, rfl⟩, hpos⟩
    exact ⟨_, ⟨e, ⟨he, hspelled⟩, rfl⟩, hpos⟩
  · rintro ⟨_, ⟨e, ⟨he, hspelled⟩, rfl⟩, hpos⟩
    exact ⟨_, ⟨e, he, hspelled, rfl⟩, hpos⟩

/-- Events on items that spell a tag once at most give their weights once. -/
theorem credits_eq_weightsOn (h : (s.items.map (·.id)).Nodup)
    (honce : ∀ e ∈ s.windowOf user since now, s.spellings tag e ≤ 1) :
    s.credits user since now types tag = s.weightsOn user since now types tag := by
  rw [credits, weightsOn]
  generalize s.windowOf user since now = events at honce ⊢
  induction events with
  | nil => rfl
  | cons e rest ih =>
      obtain ⟨he, hrest⟩ := List.forall_mem_cons.1 honce
      rw [List.flatMap_cons, List.filter_cons, ih hrest]
      by_cases hbears : s.Bears tag e
      · have hone : s.spellings tag e = 1 := by
          have := (spellings_pos_iff h).2 hbears
          omega
        rw [hone, if_pos (decide_eq_true hbears), List.map_cons]
        rfl
      · have hnone : s.spellings tag e = 0 :=
          Nat.eq_zero_of_not_pos fun hpos => hbears ((spellings_pos_iff h).1 hpos)
        rw [hnone, if_neg (by simpa using hbears)]
        rfl

theorem nonneg_of_mem_credits (hweights : ∀ w ∈ types.weights, 0.0 ≤ w) :
    ∀ w ∈ s.credits user since now types tag, 0.0 ≤ w := by
  intro w hw
  obtain ⟨e, -, hw⟩ := List.mem_flatMap.1 hw
  rw [List.eq_of_mem_replicate hw]
  exact EventTypes.weight_nonneg hweights e.kind

theorem nonneg_of_mem_weightsOn (hweights : ∀ w ∈ types.weights, 0.0 ≤ w) :
    ∀ w ∈ s.weightsOn user since now types tag, 0.0 ≤ w := by
  intro w hw
  obtain ⟨e, -, rfl⟩ := List.mem_map.1 hw
  exact EventTypes.weight_nonneg hweights e.kind

/-! ### The table of tags -/

def tagCredits (s : Snapshot) (types : EventTypes) (events : List Event) : List (String × Float) :=
  events.flatMap fun e =>
    match s.records.get? e.itemId with
    | none => []
    | some item => item.normalTags.map fun tag => (tag, types.weight e.kind)

def plusCredit (credit : String × Float) (old : Option Float) : Float := old.getD 0.0 + credit.2

theorem tagProfile_eq : s.tagProfile user since now types =
    ((s.tagCredits types (s.windowOf user since now)).foldl (fun d c => d.alter c.1 (plusCredit c))
      Dictionary.empty).filter fun _ weight => 0.0 < weight := rfl

theorem map_filter_key_eq (tags : List String) (weight : Float) (tag : String) :
    ((tags.map fun t => (t, weight)).filter fun c => c.1 == tag).map (·.2) =
      List.replicate (tags.count tag) weight := by
  rw [List.filter_map, List.map_map, List.eq_replicate_iff, List.length_map, List.count,
    List.countP_eq_length_filter]
  refine ⟨rfl, fun w hw => ?_⟩
  obtain ⟨t, -, rfl⟩ := List.mem_map.1 hw
  rfl

theorem credits_eq (h : (s.items.map (·.id)).Nodup) : s.credits user since now types tag =
    ((s.tagCredits types (s.windowOf user since now)).filter fun c => c.1 == tag).map (·.2) := by
  rw [credits, tagCredits, List.filter_flatMap, List.map_flatMap]
  refine List.flatMap_congr fun e _ => ?_
  rw [spellings, get?_records_eq h]
  cases s.items.find? fun item => item.id == e.itemId with
  | none => rfl
  | some item => exact (map_filter_key_eq item.normalTags _ tag).symm

/-- The table adds up what is given to each tag, and keeps what is above nought. -/
theorem get?_tagProfile_eq_some_iff (h : (s.items.map (·.id)).Nodup) {weight : Float} :
    (s.tagProfile user since now types).get? tag = some weight ↔
      0.0 < weight ∧ weight = Score.sum (s.credits user since now types tag) := by
  let Tells (seen : List (String × Float)) (weight : Float) : Prop :=
    weight = Score.sum (seen.map (·.2))
  have hfirst (c : String × Float) : Tells [c] (plusCredit c none) := rfl
  have hmore (seen : List (String × Float)) (c : String × Float) (weight : Float)
      (hseen : Tells seen weight) : Tells (seen ++ [c]) (plusCredit c (some weight)) := by
    change weight + c.2 = Score.sum ((seen ++ [c]).map (·.2))
    rw [List.map_append, List.map_singleton, Doubles.sum_append_singleton, hseen]
  rw [tagProfile_eq, Dictionary.get?_filter, Option.filter_eq_some_iff, decide_eq_true_eq,
    credits_eq h, and_comm]
  refine and_congr_right fun hpos => ?_
  obtain ⟨hnone, hget⟩ | ⟨weight', hget, htells⟩ := Dictionary.get?_foldl_alter_cases
    (·.1) plusCredit hfirst hmore (s.tagCredits types (s.windowOf user since now)) tag
  · rw [hget, hnone]
    refine iff_of_false nofun fun hzero => ?_
    rw [hzero] at hpos
    exact Doubles.not_self_lt 0.0 hpos
  · rw [hget, Option.some.injEq, ← htells]
    exact eq_comm

/-- A tag is in the table just if an event that weighs anything is on an item with the tag. -/
theorem exists_get?_tagProfile_iff (h : (s.items.map (·.id)).Nodup)
    (hweights : ∀ w ∈ types.weights, 0.0 ≤ w) :
    (∃ weight, (s.tagProfile user since now types).get? tag = some weight) ↔
      0.0 < Score.sum (s.weightsOn user since now types tag) := by
  simp only [get?_tagProfile_eq_some_iff h, exists_eq_right]
  rw [Doubles.zero_lt_sum_iff (nonneg_of_mem_credits hweights), exists_pos_credits_iff h,
    Doubles.zero_lt_sum_iff (nonneg_of_mem_weightsOn hweights)]

end Snapshot

/-- A store in memory that is asked for the tags of a user answers, unless the request is canceled,
with a table. The user's events in the window give their weights to the tags of their items, and a
tag that an item spells in several ways gets the weight as many times. The table has the sum for
each tag whose sum is above nought; these are the tags for which the weights of the events on items
with the tag, each taken once, add up to more than nought. If no item that the user has met spells
a tag in two ways, its sum is that of the weights taken once. -/
theorem Store.tag_profile_adds_spellings {σ : Type} (tenants : Tenants) (ctx : Context)
    (scope : Scope) (user : String) (since : Instant) (types : EventTypes)
    (hitems : ((tenants.snapshot scope).items.map (·.id)).Nodup)
    (hweights : ∀ w ∈ types.weights, 0.0 ≤ w) :
    let s := tenants.snapshot scope
    let seen := s.windowOf user since ctx.now
    let table := s.tagProfile user since ctx.now types
    let once := fun tag => Score.sum ((seen.filter fun e => s.Bears tag e).map fun e =>
      types.weight e.kind)
    (∀ w : World σ, ((memory tenants).tagProfile ctx scope user since types).run w =
        (if ctx.isCanceledBy w.clock then .error .canceled else .ok table, w)) ∧
      (∀ tag weight, table.get? tag = some weight ↔ 0.0 < weight ∧
        weight = Score.sum (seen.flatMap fun e =>
          List.replicate (s.spellings tag e) (types.weight e.kind))) ∧
      (∀ tag e, 0 < s.spellings tag e ↔ s.Bears tag e) ∧
      (∀ tag, (∃ weight, table.get? tag = some weight) ↔ 0.0 < once tag) ∧
      ∀ tag, (∀ e ∈ seen, s.spellings tag e ≤ 1) → ∀ weight,
        table.get? tag = some weight ↔ 0.0 < weight ∧ weight = once tag := by
  intro s seen table once
  refine ⟨run_answer tenants ctx scope (·.tagProfile user since ctx.now types),
    fun _ _ => Snapshot.get?_tagProfile_eq_some_iff hitems,
    fun _ _ => Snapshot.spellings_pos_iff hitems,
    fun _ => Snapshot.exists_get?_tagProfile_iff hitems hweights, fun tag honce weight => ?_⟩
  have hcredits :
      s.credits user since ctx.now types tag = s.weightsOn user since ctx.now types tag :=
    Snapshot.credits_eq_weightsOn hitems honce
  rw [Snapshot.get?_tagProfile_eq_some_iff hitems, hcredits]
  rfl

/-- A shop with a boot that has two spellings of shoes among its tags. Ann has bought the boot and
looked at the clog. -/
def twoSpellings : Snapshot :=
  { items := [{ id := "boot", tags := ["Shoes", "shoes ", "winter"] },
      { id := "clog", tags := ["Winter"] }]
    events := [{ userId := "ann", itemId := "boot", kind := 3, time := ⟨1000, 0⟩ },
      { userId := "ann", itemId := "clog", kind := 0, time := ⟨1500, 0⟩ }] }

theorem Store.tag_profile_adds_spellings_twoSpellings :
    let table := twoSpellings.tagProfile "ann" ⟨0, 0⟩ ⟨2000, 0⟩ .defaults
    (twoSpellings.items.map (·.id)).Nodup ∧ (∀ w ∈ EventTypes.defaults.weights, 0.0 ≤ w) ∧
      table.get? "shoes" = some 2.0 ∧
      (∀ e ∈ twoSpellings.windowOf "ann" ⟨0, 0⟩ ⟨2000, 0⟩,
        twoSpellings.spellings "winter" e ≤ 1) ∧
      table.get? "winter" = some 1.1 := by
  have hitems : (twoSpellings.items.map (·.id)).Nodup := by decide
  have hweights : ∀ w ∈ EventTypes.defaults.weights, 0.0 ≤ w := by decide +kernel
  obtain ⟨-, hsum, -, -, honce⟩ := Store.tag_profile_adds_spellings (σ := Unit)
    [(⟨.none, "shop"⟩, twoSpellings)] { org := .none, now := ⟨2000, 0⟩ } ⟨.none, "shop"⟩ "ann"
    ⟨0, 0⟩ .defaults hitems hweights
  have hspelled : ∀ e ∈ twoSpellings.windowOf "ann" ⟨0, 0⟩ ⟨2000, 0⟩,
      twoSpellings.spellings "winter" e ≤ 1 := by decide +kernel
  exact ⟨hitems, hweights, (hsum "shoes" 2.0).2 ⟨by decide +kernel, by decide +kernel⟩, hspelled,
    (honce "winter" hspelled 1.1).2 ⟨by decide +kernel, by decide +kernel⟩⟩

/-- Of the two events one is on shoes, with a weight of one, and the table gives two to shoes. -/
theorem twoSpellings_credit_shoes_twice :
    (twoSpellings.items.map (·.id)).Nodup ∧ (∀ w ∈ EventTypes.defaults.weights, 0.0 ≤ w) ∧
      (twoSpellings.tagProfile "ann" ⟨0, 0⟩ ⟨2000, 0⟩ .defaults).get? "shoes" = some 2.0 ∧
      Score.sum (twoSpellings.weightsOn "ann" ⟨0, 0⟩ ⟨2000, 0⟩ .defaults "shoes") = 1.0 ∧
      (2.0 : Float) ≠ 1.0 := by
  decide +kernel

end Recommendation
