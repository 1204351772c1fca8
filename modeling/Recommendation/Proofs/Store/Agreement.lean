import Recommendation.Proofs.Time.Instant
import Recommendation.Store.Memory

/-!
When stores cannot be told apart. `Store.AgreesOn` says that every read which looks
back no further than an instant, in one scope and as of one present, is the same
computation on two stores. Stores in memory agree in this way if the snapshots of the
scope have the same items, kinds of events and rules, and the same events from the
instant to the present; whatever else they hold makes no difference.
-/

namespace Recommendation

open Time (Instant)

/-- Two snapshots with the same data but for users, and for events outside a window. -/
structure Snapshot.AgreesSince (s t : Snapshot) (since now : Instant) : Prop where
  items : s.items = t.items
  eventTypes : s.eventTypes = t.eventTypes
  rules : s.rules = t.rules
  window : s.window since now = t.window since now

/-- Two snapshots with the same data but for users, and for events before a window or
at its end or later. -/
structure Snapshot.AgreesBefore (s t : Snapshot) (since time : Instant) : Prop where
  items : s.items = t.items
  eventTypes : s.eventTypes = t.eventTypes
  rules : s.rules = t.rules
  events : (s.events.filter fun e => since ≤ e.time && e.time < time) =
    t.events.filter fun e => since ≤ e.time && e.time < time

namespace Snapshot

variable {s t : Snapshot} {since start now : Instant}

theorem window_eq_filter_before {time : Instant} (hnow : now < time) :
    s.window since now = (s.events.filter fun e => since ≤ e.time && e.time < time).filter
      (·.isVisible since now) := by
  rw [window, List.filter_filter]
  refine List.filter_congr fun e _ => ?_
  rw [eq_comm, Bool.and_eq_left_iff_imp]
  intro hvisible
  simp only [Event.isVisible, Bool.and_eq_true, decide_eq_true_eq] at hvisible ⊢
  exact ⟨hvisible.1, Instant.lt_of_le_of_lt hvisible.2 hnow⟩

theorem AgreesBefore.agreesSince {time : Instant} (h : s.AgreesBefore t since time)
    (hnow : now < time) : s.AgreesSince t since now where
  items := h.items
  eventTypes := h.eventTypes
  rules := h.rules
  window := by rw [window_eq_filter_before hnow, window_eq_filter_before hnow, h.events]

/-- A window that starts later holds those events of the window that are not too early. -/
theorem window_eq_filter (hle : since ≤ start) :
    s.window start now = (s.window since now).filter fun e => start ≤ e.time := by
  rw [window, window, List.filter_filter]
  refine List.filter_congr fun e _ => ?_
  by_cases hstart : start ≤ e.time
  · have hsince : since ≤ e.time := Instant.le_trans hle hstart
    simp [Event.isVisible, hstart, hsince]
  · simp [Event.isVisible, hstart]

namespace AgreesSince

variable (h : s.AgreesSince t since now) (hle : since ≤ start)
include h

theorem types_eq : s.types = t.types := congrArg EventTypes.overDefaults h.eventTypes

theorem itemsByIds_eq (ids : List String) : s.itemsByIds ids = t.itemsByIds ids := by
  rw [itemsByIds, itemsByIds, h.items]

theorem itemsWithAnyTag_eq (tags : List String) (limit : Nat) :
    s.itemsWithAnyTag tags limit = t.itemsWithAnyTag tags limit := by
  rw [itemsWithAnyTag, itemsWithAnyTag, h.items]

theorem rulesFor_eq (space surface : String) (now : Instant) :
    s.rulesFor space surface now = t.rulesFor space surface now := by
  rw [rulesFor, rulesFor, h.rules]

include hle

theorem window_eq : s.window start now = t.window start now := by
  rw [window_eq_filter hle, window_eq_filter hle, h.window]

theorem windowOf_eq (user : String) : s.windowOf user start now = t.windowOf user start now := by
  rw [windowOf, windowOf, h.window_eq hle]

theorem coVisitors_eq (seed : String) (limit : Nat) :
    s.coVisitors seed start now limit = t.coVisitors seed start now limit := by
  rw [coVisitors, coVisitors, h.window_eq hle]

theorem recentItems_eq (user : String) (limit : Nat) (types : EventTypes) :
    s.recentItems user start now limit types = t.recentItems user start now limit types := by
  rw [recentItems, recentItems, h.windowOf_eq hle]

theorem tagProfile_eq (user : String) (types : EventTypes) :
    s.tagProfile user start now types = t.tagProfile user start now types := by
  rw [tagProfile, tagProfile, h.windowOf_eq hle, records, records, h.items]

theorem recentEventItems_eq (user : String) (kinds : List Int) :
    s.recentEventItems user kinds start now = t.recentEventItems user kinds start now := by
  rw [recentEventItems, recentEventItems, h.windowOf_eq hle]

omit hle

theorem topPopular_eq {q : PopularityQuery} (hle : since ≤ q.since) :
    s.topPopular q now = t.topPopular q now := by
  rw [topPopular, topPopular, popularity, popularity, h.window_eq hle]

end AgreesSince

end Snapshot

namespace Store

variable {σ : Type}

/-- Reads in a scope of windows that begin as `starts` says are the same. -/
structure AgreesAt (s t : Store σ) (ctx : Context) (scope : Scope) (starts : Instant → Prop) :
    Prop where
  eventTypes : s.eventTypes ctx scope = t.eventTypes ctx scope
  topPopular : ∀ q, starts q.since → s.topPopular ctx scope q = t.topPopular ctx scope q
  coVisitors : ∀ seed start limit, starts start →
    s.coVisitors ctx scope seed start limit = t.coVisitors ctx scope seed start limit
  recentItems : ∀ user start limit types, starts start →
    s.recentItems ctx scope user start limit types = t.recentItems ctx scope user start limit types
  tagProfile : ∀ user start types, starts start →
    s.tagProfile ctx scope user start types = t.tagProfile ctx scope user start types
  itemsByIds : ∀ ids, s.itemsByIds ctx scope ids = t.itemsByIds ctx scope ids
  itemsWithAnyTag : ∀ tags limit,
    s.itemsWithAnyTag ctx scope tags limit = t.itemsWithAnyTag ctx scope tags limit
  rulesFor : ∀ surface, s.rulesFor ctx scope surface = t.rulesFor ctx scope surface
  recentEventItems : ∀ user kinds start, starts start →
    s.recentEventItems ctx scope user kinds start = t.recentEventItems ctx scope user kinds start

/-- Reads in a scope that look back no further than an instant are the same. -/
abbrev AgreesOn (s t : Store σ) (ctx : Context) (scope : Scope) (since : Instant) : Prop :=
  s.AgreesAt t ctx scope (since ≤ ·)

/-- Stores in memory agree where their snapshots do. -/
theorem agreesOn_memory {tenants tenants' : Tenants} {ctx : Context} {scope : Scope}
    {since : Instant}
    (h : (tenants.snapshot scope).AgreesSince (tenants'.snapshot scope) since ctx.now) :
    (memory tenants : Store σ).AgreesOn (memory tenants') ctx scope since where
  eventTypes := by simp only [memory, answer, h.types_eq]
  topPopular q hle := by simp only [memory, answer, h.topPopular_eq hle]
  coVisitors seed start limit hle := by simp only [memory, answer, h.coVisitors_eq hle]
  recentItems user start limit types hle := by simp only [memory, answer, h.recentItems_eq hle]
  tagProfile user start types hle := by simp only [memory, answer, h.tagProfile_eq hle]
  itemsByIds ids := by simp only [memory, answer, h.itemsByIds_eq]
  itemsWithAnyTag tags limit := by simp only [memory, answer, h.itemsWithAnyTag_eq]
  rulesFor surface := by simp only [memory, answer, h.rulesFor_eq]
  recentEventItems user kinds start hle := by
    simp only [memory, answer, h.recentEventItems_eq hle]

end Store

end Recommendation
