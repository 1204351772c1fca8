import Recommendation.Proofs.Engine.Failures
import Recommendation.Proofs.Orders

/-!
The samples of a snapshot next to a query that numbers rows. The query puts the events of
each user in order, numbers them from one on, and keeps those numbered one of users with
enough rows. The snapshot passes over the events once, and keeps for each user a count
and the event that comes last. What it has kept is the count of all rows and the row
numbered one, in whatever order the events stand.
-/

namespace Recommendation

open Time (Instant)

/-! ### Last events -/

/-- The events of a user as they are numbered: later ones first, and of those at one time the one
on the smallest item. -/
def Event.latestOrder (a b : Event) : Ordering :=
  (compare b.time a.time).then (compare a.itemId b.itemId)

instance : Std.TransCmp Event.latestOrder := transCmp_latestFirst Event.time _

/-- Of some events, none comes later, nor at the same time on a smaller item. -/
structure Event.IsLastOf (e : Event) (events : List Event) : Prop where
  mem : e ∈ events
  last : ∀ e' ∈ events, e'.time < e.time ∨ e'.time = e.time ∧ e.itemId ≤ e'.itemId

namespace Event

variable {e e' : Event} {events : List Event}

theorem isLastOf_iff : e.IsLastOf events ↔
    e ∈ events ∧ ∀ e' ∈ events, (latestOrder e e').isLE = true := by
  have hle (e' : Event) : (latestOrder e e').isLE = true ↔ _ := isLE_latestFirst_iff
  simp only [hle]
  exact ⟨fun h => ⟨h.mem, h.last⟩, fun h => ⟨h.1, h.2⟩⟩

theorem IsLastOf.unique (h : e.IsLastOf events) (h' : e'.IsLastOf events) :
    e.time = e'.time ∧ e.itemId = e'.itemId := by
  obtain ⟨hmem, hle⟩ := isLastOf_iff.1 h
  obtain ⟨hmem', hle'⟩ := isLastOf_iff.1 h'
  have heq : latestOrder e e' = .eq := Std.OrientedCmp.isLE_antisymm (hle _ hmem') (hle' _ hmem)
  obtain ⟨htime, hitem⟩ := Ordering.then_eq_eq.1 heq
  exact ⟨(Std.LawfulEqOrd.eq_of_compare htime).symm, Std.LawfulEqOrd.eq_of_compare hitem⟩

theorem isLastOf_singleton (e : Event) : e.IsLastOf [e] := by
  refine isLastOf_iff.2 ⟨List.mem_singleton_self e, fun e' he' => ?_⟩
  rw [List.mem_singleton.1 he']
  exact Std.ReflCmp.isLE_rfl

theorem isLastOf_head {rest : List Event} (h : sortWith latestOrder events = e :: rest) :
    e.IsLastOf events := by
  have hsorted := pairwise_sortWith latestOrder events
  have hmem (x : Event) : x ∈ events ↔ x ∈ e :: rest := by
    rw [← h, mem_sortWith]
  rw [h, List.pairwise_cons] at hsorted
  refine isLastOf_iff.2 ⟨(hmem e).2 List.mem_cons_self, fun e' he' => ?_⟩
  rcases List.mem_cons.1 ((hmem e').1 he') with rfl | hrest
  · exact Std.ReflCmp.isLE_rfl
  · exact hsorted.1 e' hrest

end Event

namespace Snapshot

variable {e last : Event} {events : List Event}

theorem supersedes_iff : supersedes e last = true ↔ Event.latestOrder e last = .lt := by
  simp only [supersedes, Bool.or_eq_true, Bool.and_eq_true, decide_eq_true_eq, beq_iff_eq,
    Event.latestOrder, latestFirst_eq_lt_iff]
  rw [eq_comm]

theorem isLastOf_append (h : last.IsLastOf events) (e : Event) :
    (if supersedes e last then e else last).IsLastOf (events ++ [e]) := by
  obtain ⟨hmem, hle⟩ := Event.isLastOf_iff.1 h
  rw [Event.isLastOf_iff]
  split
  · rename_i hnewer
    rw [supersedes_iff] at hnewer
    refine ⟨List.mem_append_right _ (List.mem_singleton_self e), fun e' he' => ?_⟩
    rcases List.mem_append.1 he' with hold | hnew
    · exact Std.TransCmp.isLE_trans (Ordering.isLE_of_eq_lt hnewer) (hle e' hold)
    · rw [List.mem_singleton.1 hnew]
      exact Std.ReflCmp.isLE_rfl
  · rename_i hnot
    rw [supersedes_iff] at hnot
    refine ⟨List.mem_append_left _ hmem, fun e' he' => ?_⟩
    rcases List.mem_append.1 he' with hold | hnew
    · exact hle e' hold
    · rw [List.mem_singleton.1 hnew]
      by_contra hgt
      exact hnot (Std.OrientedCmp.lt_of_not_isLE hgt)

def tallied (e : Event) (old : Option (Nat × Event)) : Nat × Event :=
  let (count, last) := old.getD (0, e)
  (count + 1, if supersedes e last then e else last)

/-- A tally of events is their number with the last of them. -/
def Tallies (seen : List Event) (tally : Nat × Event) : Prop :=
  tally.1 = seen.length ∧ tally.2.IsLastOf seen

theorem tallies_tallied_none (e : Event) : Tallies [e] (tallied e none) := by
  have hself : (tallied e none).2 = e := ite_self e
  exact ⟨rfl, hself.symm ▸ Event.isLastOf_singleton e⟩

theorem Tallies.tallied_some {seen : List Event} {tally : Nat × Event} (h : Tallies seen tally)
    (e : Event) : Tallies (seen ++ [e]) (tallied e (some tally)) := by
  obtain ⟨hcount, hlast⟩ := h
  have hlength : (seen ++ [e]).length = seen.length + 1 := List.length_append
  exact ⟨hlength ▸ congrArg (· + 1) hcount, isLastOf_append hlast e⟩

/-- A user with events has their number and the last of them, and a user without has nothing. -/
theorem get?_lastEvents (events : List Event) (user : String) :
    (events.filter (·.userId == user) = [] ∧ (lastEvents events).get? user = none) ∨
      ∃ last, (lastEvents events).get? user =
          some ((events.filter (·.userId == user)).length, last) ∧
        last.IsLastOf (events.filter (·.userId == user)) := by
  obtain hnone | ⟨⟨count, last⟩, hget, rfl, hlast⟩ :=
    Dictionary.get?_foldl_alter_cases Event.userId tallied tallies_tallied_none
      (fun _ e _ htally => htally.tallied_some e) events user
  · exact .inl hnone
  · exact .inr ⟨last, hget, hlast⟩

/-! ### Samples -/

section Samples

variable (s : Snapshot) (since now : Instant) (minEvents : Nat)

def eventsOf (user : String) : List Event :=
  s.events.filter fun e => e.userId == user && (since ≤ e.time && e.time ≤ now)

/-- A sample of a user who has events, and enough of them: their number, with the time and the item
of the last one. -/
structure IsHoldout (t : HoldoutSample) : Prop where
  enough : max minEvents 1 ≤ (s.eventsOf since now t.userId).length
  counted : t.eventCount = ((s.eventsOf since now t.userId).length : Int)
  last : ∃ e : Event, e.IsLastOf (s.eventsOf since now t.userId) ∧
    t.itemId = e.itemId ∧ t.time = e.time

def usersIn : List String :=
  sortedTexts ((s.events.filter fun e => since ≤ e.time && e.time ≤ now).map (·.userId))

def holdout? (user : String) : Option HoldoutSample :=
  ((lastEvents (s.window since now)).get? user).bind fun (count, last) =>
    if minEvents ≤ count then some ⟨user, last.itemId, last.time, (count : Int)⟩ else none

def holdouts : List HoldoutSample :=
  (s.usersIn since now).filterMap (s.holdout? since now minEvents)

variable {s since now minEvents}

theorem mem_eventsOf_iff {user : String} {e : Event} :
    e ∈ s.eventsOf since now user ↔
      e ∈ s.events ∧ e.userId = user ∧ since ≤ e.time ∧ e.time ≤ now := by
  simp [eventsOf]

theorem mem_usersIn_of_mem_eventsOf {user : String} {e : Event}
    (h : e ∈ s.eventsOf since now user) : user ∈ s.usersIn since now := by
  obtain ⟨he, huser, htime⟩ := mem_eventsOf_iff.1 h
  exact mem_sortedTexts.2 (List.mem_map.2 ⟨e, by simpa [he] using htime, huser⟩)

theorem get?_lastEvents_window (s : Snapshot) (since now : Instant) (user : String) :
    (s.eventsOf since now user = [] ∧ (lastEvents (s.window since now)).get? user = none) ∨
      ∃ last, (lastEvents (s.window since now)).get? user =
          some ((s.eventsOf since now user).length, last) ∧
        last.IsLastOf (s.eventsOf since now user) := by
  have hevents : s.eventsOf since now user = (s.window since now).filter (·.userId == user) :=
    List.filter_filter.symm
  rw [hevents]
  exact get?_lastEvents _ user

theorem holdout?_eq_some_iff {user : String} {t : HoldoutSample} :
    s.holdout? since now minEvents user = some t ↔
      t.userId = user ∧ s.IsHoldout since now minEvents t := by
  rcases s.get?_lastEvents_window since now user with ⟨hnone, hget⟩ | ⟨last, hget, hlast⟩
  · rw [holdout?, hget]
    refine ⟨nofun, ?_⟩
    rintro ⟨rfl, henough, -, -⟩
    have hpositive := (Nat.le_max_right _ _).trans henough
    rw [hnone] at hpositive
    cases hpositive
  · have hpositive := List.length_pos_of_mem hlast.mem
    rw [holdout?, hget, Option.bind_some, Option.ite_none_right_eq_some]
    constructor
    · rintro ⟨henough, ⟨⟩⟩
      exact ⟨rfl, max_le henough hpositive, rfl, last, hlast, rfl, rfl⟩
    · obtain ⟨user', item, time, count⟩ := t
      rintro ⟨rfl, henough, hcounted, e, he, hitem, htime⟩
      dsimp only at henough hcounted he hitem htime
      obtain ⟨hsametime, hsameitem⟩ := hlast.unique he
      refine ⟨(Nat.le_max_left _ _).trans henough, ?_⟩
      rw [hitem, htime, hcounted, hsametime, hsameitem]

/-- The samples are those of the users with enough events, in order. -/
theorem holdoutSamples_eq (limit : Nat) : s.holdoutSamples since now minEvents limit =
    (sortWith HoldoutSample.order (s.holdouts since now minEvents)).take limit := by
  have hentries := Dictionary.filterMap_entries (lastEvents (s.window since now))
    fun user (counted : Nat × Event) => if minEvents ≤ counted.1 then
      some (HoldoutSample.mk user counted.2.itemId counted.2.time (counted.1 : Int)) else none
  have hkeys : (lastEvents (s.window since now)).keys = s.usersIn since now :=
    Dictionary.keys_foldl_alter Event.userId tallied _
  rw [hkeys] at hentries
  exact congrArg (fun samples => (sortWith HoldoutSample.order samples).take limit) hentries

end Samples

/-! ### Numbered rows -/

/-- A row of the query: an event, its number among those of its user, and how many these are. -/
structure NumberedEvent where
  event : Event
  number : Nat
  outOf : Nat

def NumberedEvent.sample (row : NumberedEvent) : HoldoutSample :=
  ⟨row.event.userId, row.event.itemId, row.event.time, (row.outOf : Int)⟩

section Numbered

variable (s : Snapshot) (since now : Instant) (minEvents : Nat)

def numberedOf (user : String) : List NumberedEvent :=
  let rows := sortWith Event.latestOrder (s.eventsOf since now user)
  (rows.zipIdx 1).map fun (e, number) => ⟨e, number, rows.length⟩

def numbered : List NumberedEvent := (s.usersIn since now).flatMap (s.numberedOf since now)

/-- What the query answers without a limit: the rows numbered one of users with enough rows, later
ones first, and of those at one time the one of the smallest user. -/
def samplesByNumber : List HoldoutSample :=
  sortWith HoldoutSample.order
    (((s.numbered since now).filter fun row => row.number == 1 && minEvents ≤ row.outOf).map
      (·.sample))

variable {s since now minEvents}

theorem filter_number_eq_one (e : Event) (rest : List Event) (n : Nat) :
    ((((e :: rest).zipIdx 1).map fun (e, number) => (⟨e, number, n⟩ : NumberedEvent)).filter
      fun row => row.number == 1 && minEvents ≤ row.outOf) =
        if minEvents ≤ n then [⟨e, 1, n⟩] else [] := by
  have hrest : ((rest.zipIdx 2).map fun (e, number) => (⟨e, number, n⟩ : NumberedEvent)).filter
      (fun row => row.number == 1 && minEvents ≤ row.outOf) = [] := by
    rw [List.filter_eq_nil_iff]
    intro row hrow hone
    obtain ⟨⟨e', number⟩, hmem, rfl⟩ := List.mem_map.1 hrow
    have hnumber : number = 1 := by simpa using (Bool.and_eq_true_iff.1 hone).1
    have hbehind : 2 ≤ number := List.le_snd_of_mem_zipIdx hmem
    omega
  rw [List.zipIdx_cons, List.map_cons, List.filter_cons, hrest]
  simp

/-- The row numbered one is the sample of the user. -/
theorem samples_numberedOf (user : String) :
    ((s.numberedOf since now user).filter fun row => row.number == 1 && minEvents ≤ row.outOf).map
      (·.sample) = (s.holdout? since now minEvents user).toList := by
  have hperm := sortWith_perm Event.latestOrder (s.eventsOf since now user)
  rw [numberedOf]
  cases hrows : sortWith Event.latestOrder (s.eventsOf since now user) with
  | nil =>
      have hnone : s.eventsOf since now user = [] := (hrows ▸ hperm).nil_eq.symm
      rcases s.get?_lastEvents_window since now user with ⟨-, hget⟩ | ⟨last, -, hlast⟩
      · rw [holdout?, hget]
        rfl
      · have hmem := hlast.mem
        rw [hnone] at hmem
        cases hmem
  | cons e rest =>
      have hfirst : e.IsLastOf (s.eventsOf since now user) := Event.isLastOf_head hrows
      have hlength : (e :: rest).length = (s.eventsOf since now user).length :=
        (hrows ▸ hperm).length_eq
      have huser : e.userId = user := (mem_eventsOf_iff.1 hfirst.mem).2.1
      have hpositive : 1 ≤ (s.eventsOf since now user).length := List.length_pos_of_mem hfirst.mem
      dsimp only
      rw [filter_number_eq_one, hlength]
      split
      · rename_i henough
        have hsample : s.holdout? since now minEvents user = some
            ⟨user, e.itemId, e.time, ((s.eventsOf since now user).length : Int)⟩ :=
          holdout?_eq_some_iff.2 ⟨rfl, max_le henough hpositive, rfl, e, hfirst, rfl, rfl⟩
        rw [hsample, ← huser]
        rfl
      · rename_i hfew
        have hnone : s.holdout? since now minEvents user = none := by
          refine Option.eq_none_iff_forall_ne_some.2 fun t ht => hfew ?_
          obtain ⟨rfl, henough, -⟩ := holdout?_eq_some_iff.1 ht
          exact (Nat.le_max_left _ _).trans henough
        rw [hnone]
        rfl

/-- The passage over the events and the query come to the same samples. -/
theorem samplesByNumber_eq : s.samplesByNumber since now minEvents =
    sortWith HoldoutSample.order (s.holdouts since now minEvents) := by
  rw [samplesByNumber, numbered, List.filter_flatMap, List.map_flatMap, holdouts]
  simp only [samples_numberedOf, List.filterMap_eq_flatMap_toList]

theorem mem_samplesByNumber_iff {t : HoldoutSample} :
    t ∈ s.samplesByNumber since now minEvents ↔ s.IsHoldout since now minEvents t := by
  rw [samplesByNumber_eq, mem_sortWith, holdouts, List.mem_filterMap]
  constructor
  · rintro ⟨user, -, hsome⟩
    exact (holdout?_eq_some_iff.1 hsome).2
  · intro ht
    obtain ⟨e, he, -⟩ := ht.last
    exact ⟨t.userId, mem_usersIn_of_mem_eventsOf he.mem, holdout?_eq_some_iff.2 ⟨rfl, ht⟩⟩

theorem exists_holdout?_iff {user : String} :
    (∃ t, s.holdout? since now minEvents user = some t) ↔
      max minEvents 1 ≤ (s.eventsOf since now user).length := by
  refine ⟨fun ⟨t, ht⟩ => ?_, fun henough => ?_⟩
  · obtain ⟨rfl, hholdout⟩ := holdout?_eq_some_iff.1 ht
    exact hholdout.enough
  · rcases s.get?_lastEvents_window since now user with ⟨hnone, -⟩ | ⟨last, -, hlast⟩
    · rw [hnone, List.length_nil] at henough
      omega
    · exact ⟨⟨user, last.itemId, last.time, ((s.eventsOf since now user).length : Int)⟩,
        holdout?_eq_some_iff.2 ⟨rfl, henough, rfl, last, hlast, rfl, rfl⟩⟩

theorem mem_map_userId_iff {user : String} :
    user ∈ (s.samplesByNumber since now minEvents).map (·.userId) ↔
      max minEvents 1 ≤ (s.eventsOf since now user).length := by
  rw [List.mem_map, ← exists_holdout?_iff]
  constructor
  · rintro ⟨t, ht, rfl⟩
    exact ⟨t, holdout?_eq_some_iff.2 ⟨rfl, mem_samplesByNumber_iff.1 ht⟩⟩
  · rintro ⟨t, ht⟩
    obtain ⟨huser, hholdout⟩ := holdout?_eq_some_iff.1 ht
    exact ⟨t, mem_samplesByNumber_iff.2 hholdout, huser⟩

theorem nodup_userId_holdouts : ((s.holdouts since now minEvents).map (·.userId)).Nodup := by
  rw [holdouts, List.map_filterMap]
  refine (nodup_sortedTexts _).filterMap fun user user' x hx hx' => ?_
  obtain ⟨t, ht, rfl⟩ := Option.map_eq_some_iff.1 hx
  obtain ⟨t', ht', hsame⟩ := Option.map_eq_some_iff.1 hx'
  exact (holdout?_eq_some_iff.1 ht).1.symm.trans (hsame.symm.trans (holdout?_eq_some_iff.1 ht').1)

theorem nodup_userId_samplesByNumber :
    ((s.samplesByNumber since now minEvents).map (·.userId)).Nodup := by
  rw [samplesByNumber_eq, ((sortWith_perm _ _).map _).nodup_iff]
  exact nodup_userId_holdouts

theorem pairwise_samplesByNumber :
    (s.samplesByNumber since now minEvents).Pairwise fun t t' =>
      t'.time < t.time ∨ t'.time = t.time ∧ t.userId < t'.userId := by
  have hsorted : (s.samplesByNumber since now minEvents).Pairwise fun t t' =>
      HoldoutSample.order t t' = .lt := by
    rw [samplesByNumber_eq]
    exact pairwise_lt_sortWith_of_nodup _ (fun _ _ => HoldoutSample.userId_eq_of_order)
      nodup_userId_holdouts
  exact hsorted.imp latestFirst_eq_lt_iff.1

end Numbered

end Snapshot

/-- A store in memory that is asked for samples answers, unless the request is canceled, with the
first rows of the query that numbers events. Its rows are one for each user with events in the
window, both ends included, and with enough of them: their number, with the time and the item of the
last one. Later ones stand in front, and of those at one time the one of the smaller user. -/
theorem Store.holdout_samples_by_row_number {σ : Type} (tenants : Tenants) (ctx : Context)
    (scope : Scope) (since : Instant) (minEvents : Nat) :
    let s := tenants.snapshot scope
    let rows := s.samplesByNumber since ctx.now minEvents
    (∀ limit (w : World σ),
        ((memory tenants).holdoutSamples ctx scope since minEvents limit).run w =
          (if ctx.isCanceledBy w.clock then .error .canceled else .ok (rows.take limit), w)) ∧
      (∀ t, t ∈ rows ↔ s.IsHoldout since ctx.now minEvents t) ∧
      (∀ user, user ∈ rows.map (·.userId) ↔
        max minEvents 1 ≤ (s.eventsOf since ctx.now user).length) ∧
      (rows.map (·.userId)).Nodup ∧
      rows.Pairwise fun t t' => t'.time < t.time ∨ t'.time = t.time ∧ t.userId < t'.userId := by
  refine ⟨fun limit w => ?_, fun t => Snapshot.mem_samplesByNumber_iff,
    fun user => Snapshot.mem_map_userId_iff, Snapshot.nodup_userId_samplesByNumber,
    Snapshot.pairwise_samplesByNumber⟩
  rw [Snapshot.samplesByNumber_eq, ← Snapshot.holdoutSamples_eq]
  exact run_answer tenants ctx scope (·.holdoutSamples since ctx.now minEvents limit) w

end Recommendation
