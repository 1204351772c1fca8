import Recommendation.Proofs.Doubles.Laws
import Recommendation.Proofs.Engine.Failures
import Recommendation.Proofs.Orders

/-!
How popular items grow with events. An event adds its weight, less what has decayed of it, to
the score of its item and to no other one, and it may be the latest event there. Where what is added
is not below nought, rounding does not lower a score for it, so an item that is listed stays listed,
and it stays in front of whatever it stood in front of.
-/

namespace Recommendation

open Time (Instant)

/-! ### Contributions -/

namespace Snapshot

variable {s : Snapshot} {q : PopularityQuery} {now : Instant} {e : Event} {item : String}

theorem counts_of_pos (hweight : 0.0 < q.types.weight e.kind) (hallowed : e.itemId ∉ q.excluded) :
    counts q e = true := by
  obtain ⟨-, hpos⟩ := Doubles.zero_lt_iff.1 hweight
  have hnot : ¬q.types.weight e.kind ≤ 0.0 := fun hle => by
    obtain ⟨-, -, hle⟩ := Doubles.le_iff.1 hle
    exact absurd hpos (not_lt.2 hle)
  simp [counts, hnot, hallowed]

theorem le_add_contribution {score : Float} (hscore : 0.0 < score)
    (hnonneg : 0.0 ≤ contribution q now e) : 0.0 < score + contribution q now e ∧
      floatRank score ≤ floatRank (score + contribution q now e) := by
  obtain ⟨hscored, hpos⟩ := Doubles.zero_lt_iff.1 hscore
  obtain ⟨-, hsum, hle⟩ := Doubles.le_iff.1 (Doubles.le_add hscore hnonneg)
  have hpos' := hpos.trans_le hle
  rw [Doubles.floatRank_eq_height hscored hpos, Doubles.floatRank_eq_height hsum hpos']
  exact ⟨Doubles.zero_lt_iff.2 ⟨hsum, hpos'⟩, hle⟩

/-! ### Scores -/

def countedOn (s : Snapshot) (q : PopularityQuery) (now : Instant) (item : String) : List Event :=
  s.events.filter fun e => e.itemId == item && counts q e && e.isVisible q.since now

def total (q : PopularityQuery) (now : Instant) (events : List Event) : Float :=
  events.foldl (fun score e => score + contribution q now e) 0.0

def credited (q : PopularityQuery) (now : Instant) (e : Event) (old : Option (Float × Instant)) :
    Float × Instant :=
  let (score, last) := old.getD (0.0, e.time)
  (score + contribution q now e, last.later e.time)

def times (events : List Event) : Set Instant := {t | ∃ e ∈ events, e.time = t}

theorem popularity_eq (s : Snapshot) (q : PopularityQuery) (now : Instant) :
    s.popularity q now = ((s.window q.since now).filter (counts q)).foldl
      (fun d e => d.alter e.itemId (credited q now e)) .empty := rfl

theorem isGreatest_times_append {seen : List Event} {last : Instant}
    (h : IsGreatest (times seen) last) (e : Event) :
    IsGreatest (times (seen ++ [e])) (last.later e.time) := by
  obtain ⟨⟨e', he', hlast⟩, hgreatest⟩ := h
  refine ⟨?_, ?_⟩
  · rcases last.later_eq_or e.time with hlater | hlater
    · exact ⟨e', List.mem_append_left _ he', hlast.trans hlater.symm⟩
    · exact ⟨e, List.mem_append_right _ (List.mem_singleton.2 rfl), hlater.symm⟩
  · rintro _ ⟨e'', he'', rfl⟩
    rcases List.mem_append.1 he'' with hseen | hnew
    · exact Instant.le_trans (hgreatest ⟨e'', hseen, rfl⟩) (Instant.le_later_left _ _)
    · cases List.mem_singleton.1 hnew
      exact Instant.le_later_right _ _

/-- A score with an instant tells of events: it is their total, and the instant is that of the latest. -/
def Tells (q : PopularityQuery) (now : Instant) (seen : List Event) (v : Float × Instant) : Prop :=
  v.1 = total q now seen ∧ IsGreatest (times seen) v.2

theorem tells_credited_none (q : PopularityQuery) (now : Instant) (e : Event) :
    Tells q now [e] (credited q now e none) := by
  refine ⟨rfl, ⟨e, List.mem_singleton.2 rfl, ?_⟩, ?_⟩
  · exact (ite_self _).symm
  · rintro _ ⟨e', he', rfl⟩
    cases List.mem_singleton.1 he'
    exact Instant.le_later_right _ _

theorem Tells.credited_some {seen : List Event} {v : Float × Instant} (h : Tells q now seen v)
    (e : Event) : Tells q now (seen ++ [e]) (credited q now e (some v)) := by
  obtain ⟨hscore, hlast⟩ := h
  refine ⟨?_, isGreatest_times_append hlast e⟩
  rw [total, List.foldl_append]
  exact congrArg (· + contribution q now e) hscore

/-- What is kept for an item are the total of the events that count and the time of the latest. -/
theorem get?_popularity_cases (s : Snapshot) (q : PopularityQuery) (now : Instant)
    (item : String) :
    (s.countedOn q now item = [] ∧ (s.popularity q now).get? item = none) ∨
      ∃ v, (s.popularity q now).get? item = some v ∧ v.1 = total q now (s.countedOn q now item) ∧
        IsGreatest (times (s.countedOn q now item)) v.2 := by
  have hcounted : s.countedOn q now item =
      ((s.window q.since now).filter (counts q)).filter fun e => e.itemId == item := by
    rw [window, List.filter_filter, List.filter_filter]
    rfl
  rw [hcounted, popularity_eq]
  exact Dictionary.get?_foldl_alter_cases Event.itemId (credited q now) (tells_credited_none q now)
    (fun _ e _ htells => htells.credited_some e) _ item

theorem get?_popularity_eq_some_iff {score : Float} {last : Instant} :
    (s.popularity q now).get? item = some (score, last) ↔
      score = total q now (s.countedOn q now item) ∧
        IsGreatest (times (s.countedOn q now item)) last := by
  obtain ⟨hnone, hget⟩ | ⟨⟨score', last'⟩, hget, hscore, hlast⟩ :=
    get?_popularity_cases s q now item
  · rw [hget, hnone]
    refine ⟨nofun, ?_⟩
    rintro ⟨-, ⟨e, he, -⟩, -⟩
    cases he
  · rw [hget, Option.some.injEq, Prod.mk.injEq]
    constructor
    · rintro ⟨rfl, rfl⟩
      exact ⟨hscore, hlast⟩
    · rintro ⟨rfl, hgreatest⟩
      exact ⟨hscore, Instant.le_antisymm (hgreatest.2 hlast.1) (hlast.2 hgreatest.1)⟩

/-! ### The list of a snapshot -/

/-- The popular items, if none is cut off. -/
def popularItems (s : Snapshot) (q : PopularityQuery) (now : Instant) : List (PopularItem Float) :=
  sortWith PopularItem.order (((s.popularity q now).entries.map fun (id, score, last) =>
    PopularItem.mk id score last).filter fun p => 0.0 < p.score)

theorem mem_popularItems_iff {p : PopularItem Float} : p ∈ s.popularItems q now ↔
    0.0 < p.score ∧ (s.popularity q now).get? p.itemId = some (p.score, p.lastTime) := by
  rw [popularItems, mem_sortWith, List.mem_filter, decide_eq_true_eq, and_comm, List.mem_map]
  refine and_congr_right fun _ => ?_
  constructor
  · rintro ⟨⟨id, score, last⟩, hentry, rfl⟩
    exact Dictionary.mem_entries_iff.1 hentry
  · intro hget
    exact ⟨(p.itemId, p.score, p.lastTime), Dictionary.mem_entries_iff.2 hget, rfl⟩

theorem nodup_itemId_scored (scores : Dictionary (Float × Instant)) :
    (((scores.entries.map fun (id, score, last) => PopularItem.mk id score last).filter
      fun p => 0.0 < p.score).map (·.itemId)).Nodup := by
  refine List.Nodup.sublist (List.filter_sublist.map _) ?_
  rw [List.map_map]
  exact nodup_keys scores.sorted

theorem nodup_itemId_popularItems (s : Snapshot) (q : PopularityQuery) (now : Instant) :
    ((s.popularItems q now).map (·.itemId)).Nodup := by
  rw [popularItems, ((sortWith_perm _ _).map _).nodup_iff]
  exact nodup_itemId_scored (s.popularity q now)

theorem pairwise_popularItems (s : Snapshot) (q : PopularityQuery) (now : Instant) :
    (s.popularItems q now).Pairwise fun p p' => PopularItem.order p p' = .lt :=
  pairwise_lt_sortWith_of_nodup _ (fun _ _ => PopularItem.itemId_eq_of_order)
    (nodup_itemId_scored (s.popularity q now))

/-! ### One more event -/

def withEvent (s : Snapshot) (e : Event) : Snapshot := { s with events := s.events ++ [e] }

theorem popularity_withEvent (s : Snapshot) (hvisible : e.isVisible q.since now = true)
    (hcounts : counts q e = true) : (s.withEvent e).popularity q now =
      (s.popularity q now).alter e.itemId (credited q now e) := by
  have hevents : ((s.withEvent e).window q.since now).filter (counts q) =
      (s.window q.since now).filter (counts q) ++ [e] := by
    rw [withEvent, window, List.filter_append, List.filter_append,
      List.filter_singleton, hvisible, cond_true, List.filter_singleton, hcounts, cond_true]
    rfl
  rw [popularity_eq, hevents, List.foldl_append]
  rfl

def grown (q : PopularityQuery) (now : Instant) (e : Event) (p : PopularItem Float) :
    PopularItem Float :=
  { p with score := p.score + contribution q now e, lastTime := p.lastTime.later e.time }

theorem isLE_order_grown {p : PopularItem Float} (hscore : 0.0 < p.score)
    (hnonneg : 0.0 ≤ contribution q now e) : (PopularItem.order (grown q now e p) p).isLE = true := by
  obtain ⟨-, hrank⟩ := le_add_contribution hscore hnonneg
  have hscored : (floatOrder p.score (grown q now e p).score).isLE = true :=
    Std.isLE_compare.2 hrank
  have hlast : (compare p.lastTime (grown q now e p).lastTime).isLE = true :=
    Instant.isLE_compare_iff.2 (Instant.le_later_left _ _)
  have hid : compare (grown q now e p).itemId p.itemId = .eq := Std.compare_eq_iff_eq.2 rfl
  rw [PopularItem.order, hid, Ordering.then_eq, Ordering.isLE_then_iff_and]
  exact ⟨hscored, .inr hlast⟩

section

variable (hvisible : e.isVisible q.since now = true) (hweight : 0.0 < q.types.weight e.kind)
  (hallowed : e.itemId ∉ q.excluded)

include hvisible hweight hallowed

theorem get?_popularity_withEvent_of_ne (h : item ≠ e.itemId) :
    ((s.withEvent e).popularity q now).get? item = (s.popularity q now).get? item := by
  rw [popularity_withEvent s hvisible (counts_of_pos hweight hallowed), Dictionary.get?_alter,
    if_neg h]

theorem grown_mem_popularItems {p : PopularItem Float} (hp : p ∈ s.popularItems q now)
    (hid : p.itemId = e.itemId) (hnonneg : 0.0 ≤ contribution q now e) :
    grown q now e p ∈ (s.withEvent e).popularItems q now := by
  obtain ⟨hscore, hget⟩ := mem_popularItems_iff.1 hp
  refine mem_popularItems_iff.2 ⟨(le_add_contribution hscore hnonneg).1, ?_⟩
  have hid' : (grown q now e p).itemId = e.itemId := hid
  rw [popularity_withEvent s hvisible (counts_of_pos hweight hallowed), Dictionary.get?_alter,
    hid', if_pos rfl, ← hid, hget]
  rfl

/-- An item with one more event stays in front of what it has stood in front of. -/
theorem pair_sublist_withEvent
    (hnonneg : ∀ p ∈ s.popularItems q now, p.itemId = e.itemId → 0.0 ≤ contribution q now e)
    (h : [e.itemId, item].Sublist ((s.popularItems q now).map (·.itemId))) :
    [e.itemId, item].Sublist (((s.withEvent e).popularItems q now).map (·.itemId)) := by
  have hother : item ≠ e.itemId :=
    (List.pairwise_pair.1 ((nodup_itemId_popularItems s q now).sublist h)).symm
  obtain ⟨pair, hsub, hpair⟩ := List.sublist_map_iff.1 h
  obtain ⟨p, rest, rfl, hid, hrest⟩ := List.map_eq_cons_iff.1 hpair.symm
  obtain ⟨p', rest', rfl, rfl, hnil⟩ := List.map_eq_cons_iff.1 hrest
  obtain rfl := List.map_eq_nil_iff.1 hnil
  obtain ⟨hp, hp', horder⟩ := (pair_sublist_iff _ (pairwise_popularItems s q now)).1 hsub
  have hgrown := grown_mem_popularItems hvisible hweight hallowed hp hid (hnonneg p hp hid)
  have hkept : p' ∈ (s.withEvent e).popularItems q now := by
    rw [mem_popularItems_iff] at hp' ⊢
    rwa [get?_popularity_withEvent_of_ne hvisible hweight hallowed hother]
  have hrises := isLE_order_grown (mem_popularItems_iff.1 hp).1 (hnonneg p hp hid)
  have hfront := (pair_sublist_iff _ (pairwise_popularItems _ q now)).2
    ⟨hgrown, hkept, Std.TransCmp.lt_of_isLE_of_lt hrises horder⟩
  rw [← hid]
  exact hfront.map (·.itemId)

end

end Snapshot

/-- A store in memory that is asked for popular items answers, unless the request is canceled, with
the first ones of one list. An item has a score if events in the window count for it, and the score
is the total of what they contribute; it is listed if the score is above nought. Higher scores
stand in front, of equal ones the later last event, and then the smaller identifier. One more event
of the window with a weight above nought leaves what is kept for any other item as it is. If what it
contributes is not below nought, its own item stays listed, with a score no lower and a last event no
earlier, and stays in front of whatever it stood in front of. -/
theorem Store.popularity_grows_with_events {σ : Type} (tenants : Tenants) (ctx : Context)
    (scope : Scope) (q : PopularityQuery) :
    let kept := fun (s : Snapshot) item => (s.popularity q ctx.now).get? item
    let listed := fun s : Snapshot => s.popularItems q ctx.now
    let counted := fun (s : Snapshot) item => s.countedOn q ctx.now item
    (∀ w : World σ, ((memory tenants).topPopular ctx scope q).run w =
        (if ctx.isCanceledBy w.clock then .error .canceled
          else .ok ((listed (tenants.snapshot scope)).take q.limit), w)) ∧
      (∀ s item score last, kept s item = some (score, last) ↔
        score = Snapshot.total q ctx.now (counted s item) ∧
          IsGreatest (Snapshot.times (counted s item)) last) ∧
      (∀ s p, p ∈ listed s ↔ 0.0 < p.score ∧ kept s p.itemId = some (p.score, p.lastTime)) ∧
      (∀ s, ((listed s).map (·.itemId)).Nodup) ∧
      (∀ s, (listed s).Pairwise fun p p' => floatOrder p'.score p.score = .lt ∨
        p'.score = p.score ∧ (p'.lastTime < p.lastTime ∨
          p'.lastTime = p.lastTime ∧ p.itemId < p'.itemId)) ∧
      ∀ (s : Snapshot) (e : Event), q.since ≤ e.time → e.time ≤ ctx.now →
        0.0 < q.types.weight e.kind → e.itemId ∉ q.excluded →
        (∀ item, item ≠ e.itemId → kept (s.withEvent e) item = kept s item) ∧
          ((∀ p ∈ listed s, p.itemId = e.itemId → 0.0 ≤ Snapshot.contribution q ctx.now e) →
            (∀ p ∈ listed s, p.itemId = e.itemId → ∃ p' ∈ listed (s.withEvent e),
              p'.itemId = e.itemId ∧ p.score ≤ p'.score ∧ p.lastTime ≤ p'.lastTime) ∧
            ∀ item, [e.itemId, item].Sublist ((listed s).map (·.itemId)) →
              [e.itemId, item].Sublist ((listed (s.withEvent e)).map (·.itemId))) := by
  intro kept listed counted
  refine ⟨run_answer tenants ctx scope (·.topPopular q ctx.now),
    fun _ _ _ _ => Snapshot.get?_popularity_eq_some_iff, fun _ _ => Snapshot.mem_popularItems_iff,
    fun s => Snapshot.nodup_itemId_popularItems s q ctx.now,
    fun s => (Snapshot.pairwise_popularItems s q ctx.now).imp PopularItem.order_eq_lt_iff.1,
    fun s e hsince hnow hweight hallowed => ?_⟩
  have hvisible : e.isVisible q.since ctx.now = true := by
    simp [Event.isVisible, hsince, hnow]
  refine ⟨fun _ => Snapshot.get?_popularity_withEvent_of_ne hvisible hweight hallowed,
    fun hnonneg => ⟨fun p hp hid => ?_, fun _ =>
      Snapshot.pair_sublist_withEvent hvisible hweight hallowed hnonneg⟩⟩
  have hscore := (Snapshot.mem_popularItems_iff.1 hp).1
  exact ⟨Snapshot.grown q ctx.now e p,
    Snapshot.grown_mem_popularItems hvisible hweight hallowed hp hid (hnonneg p hp hid), hid,
    Doubles.le_add hscore (hnonneg p hp hid),
    Time.Instant.le_later_left _ _⟩

def Event.bought (user : String) : Event :=
  { userId := user, itemId := "boot", kind := 3, time := ⟨1100, 0⟩ }

/-- A shop whose boot has been bought and whose clog has been seen since. -/
def Snapshot.boughtAndSeen : Snapshot :=
  { items := [{ id := "boot" }, { id := "clog" }]
    events :=
      [.bought "ann", { userId := "bob", itemId := "clog", kind := 0, time := ⟨1500, 0⟩ }]
    rules := [] }

def PopularityQuery.weekly : PopularityQuery :=
  { since := ⟨0, 0⟩, halfLife := 7.0, limit := 10, excluded := [], types := .defaults }

theorem Snapshot.countedOn_boughtAndSeen (hweight : 0.0 < PopularityQuery.weekly.types.weight 3) :
    Snapshot.boughtAndSeen.countedOn .weekly ⟨2000, 0⟩ "boot" = [.bought "ann"] := by
  have hcounts : Snapshot.counts .weekly (.bought "ann") = true :=
    Snapshot.counts_of_pos hweight List.not_mem_nil
  have hvisible : (Event.bought "ann").isVisible PopularityQuery.weekly.since ⟨2000, 0⟩ = true := by
    decide
  have hboot : ((Event.bought "ann").itemId == "boot") = true := by decide
  have hclog : ("clog" == "boot") = false := by decide
  rw [Snapshot.countedOn, Snapshot.boughtAndSeen]
  simp only [List.filter_cons, hcounts, hvisible, hboot, hclog, Bool.and_self, if_true,
    Bool.false_and, Bool.false_eq_true, if_false, List.filter_nil]

/-- If the boot stands in front of the clog, another purchase of the boot leaves it there. -/
theorem Store.popularity_grows_with_events_boughtAndSeen :
    let q := PopularityQuery.weekly
    let listed := fun s : Snapshot => s.popularItems q ⟨2000, 0⟩
    let e := Event.bought "bob"
    q.since ≤ e.time ∧ e.time ≤ ⟨2000, 0⟩ ∧ 0.0 < q.types.weight e.kind ∧ e.itemId ∉ q.excluded ∧
      (∀ p ∈ listed .boughtAndSeen, p.itemId = e.itemId →
        0.0 ≤ Snapshot.contribution q ⟨2000, 0⟩ e) ∧
      (["boot", "clog"].Sublist ((listed .boughtAndSeen).map (·.itemId)) →
        ["boot", "clog"].Sublist
          ((listed (Snapshot.boughtAndSeen.withEvent e)).map (·.itemId))) := by
  intro q listed e
  obtain ⟨-, hkept, hlisted, -, -, hgrows⟩ := Store.popularity_grows_with_events (σ := Unit)
    [] { org := .none, now := ⟨2000, 0⟩ } ⟨.none, "shop"⟩ q
  have hsince : q.since ≤ e.time := by decide
  have hnow : e.time ≤ ⟨2000, 0⟩ := by decide
  have hweight : 0.0 < q.types.weight e.kind := by decide +kernel
  have hallowed : e.itemId ∉ q.excluded := List.not_mem_nil
  have hnonneg : ∀ p ∈ listed .boughtAndSeen, p.itemId = e.itemId →
      0.0 ≤ Snapshot.contribution q ⟨2000, 0⟩ e := by
    -- A purchase contributes as much as the one for which the boot is listed.
    intro p hp hid
    obtain ⟨hpos, hget⟩ := (hlisted .boughtAndSeen p).1 hp
    obtain ⟨hscore, -⟩ := (hkept .boughtAndSeen p.itemId p.score p.lastTime).1 hget
    have hcounted : Snapshot.boughtAndSeen.countedOn q ⟨2000, 0⟩ e.itemId = [.bought "ann"] :=
      Snapshot.countedOn_boughtAndSeen hweight
    dsimp only at hscore
    rw [hid, hcounted] at hscore
    rw [hscore] at hpos
    exact Doubles.le_of_lt (Doubles.zero_lt_zero_add_iff.1 hpos)
  exact ⟨hsince, hnow, hweight, hallowed, hnonneg,
    ((hgrows .boughtAndSeen e hsince hnow hweight hallowed).2 hnonneg).2 "clog"⟩

end Recommendation
