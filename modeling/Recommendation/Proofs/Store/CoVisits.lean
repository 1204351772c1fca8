import Mathlib.Data.Set.Card
import Recommendation.Proofs.Engine.Failures
import Recommendation.Proofs.Orders
import Recommendation.Proofs.WholeDoubles

/-!
How many users two items share. A snapshot lists an item beside a seed with the number of
users who have met both in the window, however often they have met them. The number is the
same whichever of the two is the seed. It is told as a double, which is exact up to
fifty-three binary digits.
-/

namespace Recommendation

open Time (Instant)

namespace Snapshot

/-! ### Users of both -/

def Met (s : Snapshot) (since now : Instant) (user item : String) : Prop :=
  ∃ e ∈ s.events, e.userId = user ∧ e.itemId = item ∧ since ≤ e.time ∧ e.time ≤ now

def usersOfBoth (s : Snapshot) (since now : Instant) (x y : String) : Set String :=
  {user | s.Met since now user x ∧ s.Met since now user y}

noncomputable def sharedCount (s : Snapshot) (since now : Instant) (x y : String) : Nat :=
  (s.usersOfBoth since now x y).ncard

variable {s : Snapshot} {since now : Instant} {seed item user : String}

theorem sharedCount_comm (s : Snapshot) (since now : Instant) (x y : String) :
    s.sharedCount since now x y = s.sharedCount since now y x :=
  congrArg Set.ncard (Set.ext fun _ => and_comm)

theorem nonempty_usersOfBoth {x y : String} (h : 1 ≤ s.sharedCount since now x y) :
    (s.usersOfBoth since now x y).Nonempty := by
  refine Set.nonempty_of_ncard_ne_zero fun hnone => ?_
  rw [sharedCount, hnone] at h
  cases h

theorem sharedCount_le_length_events (x y : String) :
    s.sharedCount since now x y ≤ s.events.length := by
  have hsub : s.usersOfBoth since now x y ⊆ ↑(s.events.map (·.userId)).toFinset := by
    rintro user ⟨⟨e, he, rfl, -⟩, -⟩
    exact Finset.mem_coe.2 (List.mem_toFinset.2 (List.mem_map_of_mem he))
  calc s.sharedCount since now x y
      ≤ (↑(s.events.map (·.userId)).toFinset : Set String).ncard :=
        Set.ncard_le_ncard hsub (Finset.finite_toSet _)
    _ = (s.events.map (·.userId)).toFinset.card := Set.ncard_coe_finset _
    _ ≤ (s.events.map (·.userId)).length := List.toFinset_card_le _
    _ = s.events.length := List.length_map _

theorem met_iff :
    s.Met since now user item ↔ ∃ e ∈ s.window since now, e.userId = user ∧ e.itemId = item := by
  simp only [Met, window, List.mem_filter, Event.isVisible, Bool.and_eq_true, decide_eq_true_eq]
  constructor
  · rintro ⟨e, hmem, huser, hitem, htime⟩
    exact ⟨e, ⟨hmem, htime⟩, huser, hitem⟩
  · rintro ⟨e, ⟨hmem, htime⟩, huser, hitem⟩
    exact ⟨e, hmem, huser, hitem, htime⟩

/-! ### The count of a snapshot -/

def joined (e : Event) (users : Option (List String)) : List String :=
  (users.getD []).insert e.userId

/-- The events on an item other than the seed by users who have met the seed. -/
def companions (seed item : String) (events : List Event) : List Event :=
  (events.filter fun e => e.itemId != seed &&
    ((events.filter fun e => e.itemId == seed).map (·.userId)).contains e.userId).filter
      fun e => e.itemId == item

/-- However many companions a user has, the user is counted once. -/
theorem get?_sharedUsers (seed item : String) (events : List Event) :
    (companions seed item events = [] ∧ (sharedUsers seed events).get? item = none) ∨
      ∃ users, (sharedUsers seed events).get? item = some users ∧ users ≠ [] ∧ users.Nodup ∧
        ∀ user, user ∈ users ↔ user ∈ (companions seed item events).map (·.userId) := by
  let Tells (seen : List Event) (users : List String) : Prop :=
    users ≠ [] ∧ users.Nodup ∧ ∀ user, user ∈ users ↔ user ∈ seen.map (·.userId)
  have hfirst (e : Event) : Tells [e] (joined e none) :=
    ⟨List.cons_ne_nil _ _, List.nodup_singleton _, fun _ => Iff.rfl⟩
  have hmore (seen : List Event) (e : Event) (users : List String) (hjoined : Tells seen users) :
      Tells (seen ++ [e]) (joined e (some users)) := by
    obtain ⟨-, hnodup, hmem⟩ := hjoined
    refine ⟨List.ne_nil_of_mem List.mem_insert_self, hnodup.insert, fun user => ?_⟩
    rw [joined, Option.getD_some, List.mem_insert_iff, hmem, List.map_append, List.mem_append,
      or_comm]
    exact or_congr_right List.mem_singleton.symm
  exact Dictionary.get?_foldl_alter_cases Event.itemId joined hfirst hmore _ item

theorem mem_users_companions_iff :
    user ∈ (companions seed item (s.window since now)).map (·.userId) ↔
      item ≠ seed ∧ user ∈ s.usersOfBoth since now seed item := by
  have hboth : user ∈ s.usersOfBoth since now seed item ↔
      s.Met since now user seed ∧ s.Met since now user item := Iff.rfl
  simp only [companions, List.mem_map, List.mem_filter, Bool.and_eq_true, bne_iff_ne, beq_iff_eq,
    List.contains_iff_mem, hboth, met_iff]
  constructor
  · rintro ⟨e, ⟨⟨he, hother, seen, ⟨hseen, hseed⟩, huser⟩, rfl⟩, rfl⟩
    exact ⟨hother, ⟨seen, hseen, huser, hseed⟩, e, he, rfl, rfl⟩
  · rintro ⟨hother, ⟨seen, hseen, huser, hseed⟩, e, he, rfl, rfl⟩
    exact ⟨e, ⟨⟨he, hother, seen, ⟨hseen, hseed⟩, huser⟩, rfl⟩, rfl⟩

/-- An item is counted if it is another one and shares users with the seed, and what is kept for it
are these users. -/
theorem get?_sharedUsers_eq_some {users : List String}
    (h : (sharedUsers seed (s.window since now)).get? item = some users) :
    item ≠ seed ∧ 1 ≤ users.length ∧ users.length = s.sharedCount since now seed item := by
  obtain ⟨-, hnone⟩ | ⟨users', hget, hsome, hnodup, hmem⟩ :=
    get?_sharedUsers seed item (s.window since now)
  · cases hnone.symm.trans h
  cases hget.symm.trans h
  obtain ⟨user, huser⟩ := List.exists_mem_of_ne_nil _ hsome
  have hother : item ≠ seed := (mem_users_companions_iff.1 ((hmem _).1 huser)).1
  have hset : s.usersOfBoth since now seed item = ↑users.toFinset := by
    refine Set.ext fun user => ?_
    rw [Finset.mem_coe, List.mem_toFinset, hmem, mem_users_companions_iff]
    exact (and_iff_right hother).symm
  refine ⟨hother, List.length_pos_of_mem huser, ?_⟩
  rw [sharedCount, hset, Set.ncard_coe_finset, List.toFinset_card_of_nodup hnodup]

theorem exists_get?_sharedUsers (hother : item ≠ seed)
    (hshared : 1 ≤ s.sharedCount since now seed item) :
    ∃ users, (sharedUsers seed (s.window since now)).get? item = some users := by
  obtain ⟨user, huser⟩ := nonempty_usersOfBoth hshared
  have hcompanion := mem_users_companions_iff.2 ⟨hother, huser⟩
  obtain ⟨hnone, -⟩ | ⟨users, hget, -⟩ := get?_sharedUsers seed item (s.window since now)
  · rw [hnone] at hcompanion
    cases hcompanion
  · exact ⟨users, hget⟩

/-! ### The list of a snapshot -/

def neighbours (s : Snapshot) (since now : Instant) (seed : String) : List CoVisitor :=
  sortWith CoVisitor.order ((sharedUsers seed (s.window since now)).entries.map fun (id, users) =>
    CoVisitor.mk id (Score.ofNat users.length))

theorem coVisitors_eq (limit : Nat) :
    s.coVisitors seed since now limit = (s.neighbours since now seed).take limit := rfl

theorem mem_neighbours_iff {count : Float} : ⟨item, count⟩ ∈ s.neighbours since now seed ↔
    item ≠ seed ∧ 1 ≤ s.sharedCount since now seed item ∧
      count = Score.ofNat (s.sharedCount since now seed item) := by
  rw [neighbours, mem_sortWith, List.mem_map]
  constructor
  · rintro ⟨⟨id, users⟩, hentry, ⟨⟩⟩
    obtain ⟨hother, hpositive, hlength⟩ :=
      get?_sharedUsers_eq_some (Dictionary.mem_entries_iff.1 hentry)
    exact ⟨hother, hlength ▸ hpositive, congrArg Score.ofNat hlength⟩
  · rintro ⟨hother, hshared, hcount⟩
    obtain ⟨users, hget⟩ := exists_get?_sharedUsers hother hshared
    obtain ⟨-, -, hlength⟩ := get?_sharedUsers_eq_some hget
    have hcounted : count = Score.ofNat users.length :=
      hcount.trans (congrArg Score.ofNat hlength.symm)
    exact ⟨(item, users), Dictionary.mem_entries_iff.2 hget,
      congrArg (CoVisitor.mk item) hcounted.symm⟩

/-- An item stands beside a seed with the count with which the seed stands beside the item. -/
theorem mem_neighbours_comm {count : Float} :
    ⟨item, count⟩ ∈ s.neighbours since now seed ↔ ⟨seed, count⟩ ∈ s.neighbours since now item := by
  rw [mem_neighbours_iff, mem_neighbours_iff, sharedCount_comm, ne_comm]

theorem nodup_itemId_neighbours : ((s.neighbours since now seed).map (·.itemId)).Nodup := by
  rw [neighbours, ((sortWith_perm _ _).map _).nodup_iff, List.map_map]
  exact nodup_keys (sharedUsers seed (s.window since now)).sorted

theorem pairwise_neighbours : (s.neighbours since now seed).Pairwise fun v v' =>
    floatOrder v'.count v.count = .lt ∨ v'.count = v.count ∧ v.itemId < v'.itemId := by
  have hsorted : (s.neighbours since now seed).Pairwise fun v v' => CoVisitor.order v v' = .lt := by
    refine pairwise_lt_sortWith_of_nodup _ (fun _ _ => CoVisitor.itemId_eq_of_order) ?_
    rw [List.map_map]
    exact nodup_keys (sharedUsers seed (s.window since now)).sorted
  exact hsorted.imp CoVisitor.order_eq_lt_iff.1

/-- As long as a double tells the number of shared users exactly, the count is that number. -/
theorem mem_neighbours_iff_sharedCount {n : Nat}
    (hshared : s.sharedCount since now seed item < 2 ^ 53) (hn : n < 2 ^ 53) :
    ⟨item, Score.ofNat n⟩ ∈ s.neighbours since now seed ↔
      item ≠ seed ∧ 1 ≤ n ∧ s.sharedCount since now seed item = n := by
  rw [mem_neighbours_iff]
  constructor
  · rintro ⟨hother, hpositive, hcount⟩
    cases ofNat_float_injective hn hshared hcount
    exact ⟨hother, hpositive, rfl⟩
  · rintro ⟨hother, hpositive, rfl⟩
    exact ⟨hother, hpositive, rfl⟩

/-- Items that share more users with the seed stand in front, and of those that share as many the
smaller one does. -/
theorem pairwise_sharedCount
    (hshared : ∀ v ∈ s.neighbours since now seed, s.sharedCount since now seed v.itemId < 2 ^ 53) :
    (s.neighbours since now seed).Pairwise fun v v' =>
      s.sharedCount since now seed v'.itemId < s.sharedCount since now seed v.itemId ∨
        s.sharedCount since now seed v'.itemId = s.sharedCount since now seed v.itemId ∧
          v.itemId < v'.itemId := by
  refine pairwise_neighbours.imp_of_mem fun {v v'} hv hv' horder => ?_
  have hcount := (mem_neighbours_iff.1 hv).2.2
  have hcount' := (mem_neighbours_iff.1 hv').2.2
  rw [hcount, hcount', floatOrder_ofNat (hshared v' hv') (hshared v hv)] at horder
  rcases horder with hfewer | ⟨hsame, hid⟩
  · exact .inl (Nat.compare_eq_lt.1 hfewer)
  · exact .inr ⟨ofNat_float_injective (hshared v' hv') (hshared v hv) hsame, hid⟩

end Snapshot

/-- A store in memory that is asked what is beside a seed answers, unless the request is canceled,
with the first items of one list. An item is in it if it is another one that shares users with the
seed, and its count is the double of their number; items with larger counts stand in front, and of
those with equal counts the smaller one does. So whichever of two items is the seed, the other one
has the same count. As long as the doubles are exact, the counts and their order are those of the
numbers of users. -/
theorem Store.co_visitors_count_shared_users {σ : Type} (tenants : Tenants) (ctx : Context)
    (scope : Scope) (since : Instant) :
    let s := tenants.snapshot scope
    let listed := s.neighbours since ctx.now
    let shared := s.sharedCount since ctx.now
    (∀ seed limit (w : World σ), ((memory tenants).coVisitors ctx scope seed since limit).run w =
        (if ctx.isCanceledBy w.clock then .error .canceled else .ok ((listed seed).take limit),
          w)) ∧
      (∀ seed item count, ⟨item, count⟩ ∈ listed seed ↔
        item ≠ seed ∧ 1 ≤ shared seed item ∧ count = Score.ofNat (shared seed item)) ∧
      (∀ seed, ((listed seed).map (·.itemId)).Nodup) ∧
      (∀ seed, (listed seed).Pairwise fun v v' =>
        floatOrder v'.count v.count = .lt ∨ v'.count = v.count ∧ v.itemId < v'.itemId) ∧
      (∀ x y count, ⟨y, count⟩ ∈ listed x ↔ ⟨x, count⟩ ∈ listed y) ∧
      (∀ seed item n, shared seed item < 2 ^ 53 → n < 2 ^ 53 →
        (⟨item, Score.ofNat n⟩ ∈ listed seed ↔ item ≠ seed ∧ 1 ≤ n ∧ shared seed item = n)) ∧
      ∀ seed, (∀ v ∈ listed seed, shared seed v.itemId < 2 ^ 53) →
        (listed seed).Pairwise fun v v' => shared seed v'.itemId < shared seed v.itemId ∨
          shared seed v'.itemId = shared seed v.itemId ∧ v.itemId < v'.itemId :=
  ⟨fun seed limit w =>
      run_answer tenants ctx scope (·.coVisitors seed since ctx.now limit) w,
    fun _ _ _ => Snapshot.mem_neighbours_iff, fun _ => Snapshot.nodup_itemId_neighbours,
    fun _ => Snapshot.pairwise_neighbours, fun _ _ _ => Snapshot.mem_neighbours_comm,
    fun _ _ _ => Snapshot.mem_neighbours_iff_sharedCount,
    fun _ => Snapshot.pairwise_sharedCount⟩

/-- A shop whose boot and clog have been met by the same two users, by one of them twice, and whose
cap has been met by one of these. -/
def Snapshot.clogShop : Snapshot :=
  { items := [{ id := "boot" }, { id := "clog" }, { id := "cap" }]
    events :=
      [{ userId := "ann", itemId := "boot", kind := 0, time := ⟨1000, 0⟩ },
       { userId := "ann", itemId := "clog", kind := 0, time := ⟨1100, 0⟩ },
       { userId := "ann", itemId := "clog", kind := 3, time := ⟨1200, 0⟩ },
       { userId := "bob", itemId := "clog", kind := 0, time := ⟨1300, 0⟩ },
       { userId := "bob", itemId := "boot", kind := 3, time := ⟨1400, 0⟩ },
       { userId := "bob", itemId := "cap", kind := 0, time := ⟨1500, 0⟩ }]
    rules := [] }

/-- Boot and clog share two users, not three, and the clog stands in front of what shares fewer users
with the boot. -/
theorem Store.co_visitors_count_shared_users_clogShop :
    let listed := Snapshot.clogShop.neighbours ⟨0, 0⟩ ⟨2000, 0⟩
    let shared := Snapshot.clogShop.sharedCount ⟨0, 0⟩ ⟨2000, 0⟩
    (∀ item, shared "boot" item < 2 ^ 53) ∧ shared "boot" "clog" = 2 ∧
      ⟨"boot", Score.ofNat 2⟩ ∈ listed "clog" ∧
      (listed "boot").Pairwise fun v v' => shared "boot" v'.itemId < shared "boot" v.itemId ∨
        shared "boot" v'.itemId = shared "boot" v.itemId ∧ v.itemId < v'.itemId := by
  intro listed shared
  obtain ⟨-, -, -, -, hcomm, hnumber, horder⟩ := Store.co_visitors_count_shared_users (σ := Unit)
    [(⟨.none, "shop"⟩, Snapshot.clogShop)] { org := .none, now := ⟨2000, 0⟩ } ⟨.none, "shop"⟩ ⟨0, 0⟩
  have hshop : Tenants.snapshot [(⟨.none, "shop"⟩, Snapshot.clogShop)] ⟨.none, "shop"⟩ =
      Snapshot.clogShop := by
    simp [Tenants.snapshot]
  rw [hshop] at hcomm hnumber horder
  have hlisted : ⟨"clog", Score.ofNat 2⟩ ∈ listed "boot" := by
    have hseen : ∃ v ∈ Snapshot.clogShop.neighbours ⟨0, 0⟩ ⟨2000, 0⟩ "boot",
        v.itemId = "clog" ∧ floatOrder v.count (Score.ofNat 2) = .eq := by
      decide +kernel
    obtain ⟨⟨item, count⟩, hv, rfl, hcount⟩ := hseen
    cases Std.LawfulEqCmp.eq_of_compare hcount
    exact hv
  have hfew (item : String) : shared "boot" item < 2 ^ 53 :=
    (Snapshot.sharedCount_le_length_events _ _).trans_lt (by decide)
  have htwo : shared "boot" "clog" = 2 :=
    ((hnumber _ _ _ (hfew _) (by decide)).1 hlisted).2.2
  exact ⟨hfew, htwo, (hcomm _ _ _).1 hlisted, horder _ fun _ _ => hfew _⟩

end Recommendation
