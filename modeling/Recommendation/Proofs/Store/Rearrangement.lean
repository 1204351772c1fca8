import Recommendation.Proofs.Dictionary
import Recommendation.Proofs.Orders
import Recommendation.Proofs.Store.Agreement

/-!
The rows of a snapshot in another order. Items are read by identifier or in an order of
their own, rules in the order in which they apply, and kinds of events by code. So if
identifiers and codes tell rows apart, every read has the same answer in whatever order
the rows stand. Events keep their order here: sums over them are rounded one by one.
-/

namespace Recommendation

open Time (Instant)

namespace Snapshot

/-- Two snapshots with the same rows, those of events in the same order. -/
structure Rearranges (s t : Snapshot) : Prop where
  items : s.items.Perm t.items
  users : s.users.Perm t.users
  eventTypes : s.eventTypes.Perm t.eventTypes
  rules : s.rules.Perm t.rules
  events : s.events = t.events

/-- No two items or rules have one identifier, and no two kinds of events one code. -/
structure HasDistinctRows (s : Snapshot) : Prop where
  items : (s.items.map (·.id)).Nodup
  eventTypes : (s.eventTypes.map (·.1)).Nodup
  rules : (s.rules.map (·.id)).Nodup

namespace Rearranges

variable {s t : Snapshot} (h : s.Rearranges t) (hrows : s.HasDistinctRows)
include h

theorem window_eq (since now : Instant) : s.window since now = t.window since now := by
  rw [window, window, h.events]

theorem windowOf_eq (user : String) (since now : Instant) :
    s.windowOf user since now = t.windowOf user since now := by
  rw [windowOf, windowOf, h.window_eq]

include hrows

theorem types_eq : s.types = t.types :=
  EventTypes.overDefaults_congr h.eventTypes hrows.eventTypes

theorem ofList_items_eq (p : Item → Bool) :
    Dictionary.ofList ((s.items.filter p).map fun i => (i.id, i)) =
      .ofList ((t.items.filter p).map fun i => (i.id, i)) := by
  refine Dictionary.ofList_congr ((h.items.filter p).map _) ?_
  rw [List.map_map]
  exact hrows.items.sublist (List.filter_sublist.map _)

theorem records_eq : s.records = t.records := by
  have hall := h.ofList_items_eq hrows fun _ => true
  rwa [List.filter_true, List.filter_true] at hall

theorem itemsByIds_eq (ids : List String) : s.itemsByIds ids = t.itemsByIds ids :=
  h.ofList_items_eq hrows _

theorem itemsWithAnyTag_eq (tags : List String) (limit : Nat) :
    s.itemsWithAnyTag tags limit = t.itemsWithAnyTag tags limit := by
  rw [itemsWithAnyTag, itemsWithAnyTag]
  refine congrArg (List.take limit) (sortWith_eq_of_perm _ (h.items.filter _) ?_)
  intro a ha b hb heq
  exact List.inj_on_of_nodup_map hrows.items (List.mem_filter.1 ha).1 (List.mem_filter.1 hb).1
    (Item.id_eq_of_newestOrder heq)

theorem rulesFor_eq (space surface : String) (now : Instant) :
    s.rulesFor space surface now = t.rulesFor space surface now :=
  Rule.sort_congr (h.rules.filter _) (hrows.rules.sublist (List.filter_sublist.map _))

theorem tagProfile_eq (user : String) (since now : Instant) (types : EventTypes) :
    s.tagProfile user since now types = t.tagProfile user since now types := by
  rw [tagProfile, tagProfile, h.windowOf_eq, h.records_eq hrows]

end Rearranges

end Snapshot

theorem Store.agreesOn_memory_of_rearranges {σ : Type} {tenants tenants' : Tenants} {scope : Scope}
    (h : (tenants.snapshot scope).Rearranges (tenants'.snapshot scope))
    (hrows : (tenants.snapshot scope).HasDistinctRows) (ctx : Context) (since : Instant) :
    (memory tenants : Store σ).AgreesOn (memory tenants') ctx scope since where
  eventTypes := by simp only [memory, answer, h.types_eq hrows]
  topPopular q _ := by
    simp only [memory, answer, Snapshot.topPopular, Snapshot.popularity, h.window_eq]
  coVisitors seed start limit _ := by
    simp only [memory, answer, Snapshot.coVisitors, h.window_eq]
  recentItems user start limit types _ := by
    simp only [memory, answer, Snapshot.recentItems, h.windowOf_eq]
  tagProfile user start types _ := by simp only [memory, answer, h.tagProfile_eq hrows]
  itemsByIds ids := by simp only [memory, answer, h.itemsByIds_eq hrows]
  itemsWithAnyTag tags limit := by simp only [memory, answer, h.itemsWithAnyTag_eq hrows]
  rulesFor surface := by simp only [memory, answer, h.rulesFor_eq hrows]
  recentEventItems user kinds start _ := by
    simp only [memory, answer, Snapshot.recentEventItems, h.windowOf_eq]

end Recommendation
