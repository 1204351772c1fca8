import Recommendation.Proofs.Engine.Failures
import Recommendation.Proofs.Time.Instant

/-!
Which items a user has met recently. Two windows end at the present, one for the kinds of
events that the tenant counts as conversions and one for the others, and each excluded kind
is looked up in its own. A kind that is excluded twice is looked up like one that is excluded
once, and a window without kinds is not read at all.
-/

namespace Recommendation

open Time (Instant)

/-! ### Kinds of events -/

/-- The tenant counts events of the kind as conversions: the last of its own rows for the kind says
so, or it has none and the kind is that of items added to a cart or that of purchases. -/
def Snapshot.CountsAsConversion (s : Snapshot) (kind : Int) : Prop :=
  (∃ row, (s.eventTypes.reverse.find? fun row => row.1 == kind) = some row ∧
      row.2.isConversion = true) ∨
    (∀ row ∈ s.eventTypes, row.1 ≠ kind) ∧ (kind = 2 ∨ kind = 3)

namespace EventTypes

theorem isConversion_iff {types : EventTypes} {kind : Int} : types.isConversion kind = true ↔
    ∃ type, types.get? kind = some type ∧ type.isConversion = true := by
  rw [isConversion]
  cases types.get? kind <;> simp

theorem isConversion_defaults_iff {kind : Int} :
    defaults.isConversion kind = true ↔ kind = 2 ∨ kind = 3 := by
  have hempty : empty.get? kind = none := rfl
  rw [isConversion_iff, defaults]
  simp only [List.foldl_cons, List.foldl_nil, get?_insert, hempty]
  split_ifs <;> simp_all

end EventTypes

theorem Snapshot.isConversion_types_iff {s : Snapshot} {kind : Int} :
    s.types.isConversion kind = true ↔ s.CountsAsConversion kind := by
  have hno : (∀ row ∈ s.eventTypes, row.1 ≠ kind) ↔
      (s.eventTypes.reverse.find? fun row => row.1 == kind) = none := by
    simp [List.find?_eq_none]
  rw [EventTypes.isConversion_iff, types, EventTypes.get?_overDefaults, CountsAsConversion, hno,
    ← EventTypes.isConversion_defaults_iff, EventTypes.isConversion_iff]
  cases s.eventTypes.reverse.find? fun row => row.1 == kind <;> simp

/-! ### Windows -/

/-- The user has an event on the item, of a kind that is excluded and within the window of the
kind. -/
def Snapshot.MetRecently (s : Snapshot) (settings : Settings) (user : String) (now : Instant)
    (item : String) : Prop :=
  ∃ e ∈ s.events, e.userId = user ∧ e.itemId = item ∧ e.kind ∈ settings.excludedKinds ∧
    e.time ≤ now ∧
    (s.CountsAsConversion e.kind → now.minusDays settings.purchasedWindow ≤ e.time) ∧
    (¬s.CountsAsConversion e.kind → now.minusDays settings.popularityWindow ≤ e.time)

namespace Snapshot

variable {s : Snapshot} {user item : String} {kinds : List Int} {since now : Instant}

theorem mem_recentEventItems_iff : item ∈ s.recentEventItems user kinds since now ↔
    ∃ e ∈ s.events, e.userId = user ∧ e.itemId = item ∧ e.kind ∈ kinds ∧
      since ≤ e.time ∧ e.time ≤ now := by
  simp only [recentEventItems, windowOf, window, mem_sortedTexts, List.mem_map, List.mem_filter,
    Event.isVisible, Bool.and_eq_true, decide_eq_true_eq, beq_iff_eq, List.contains_iff_mem]
  constructor
  · rintro ⟨e, ⟨⟨⟨he, htime⟩, huser⟩, hkind⟩, hitem⟩
    exact ⟨e, he, huser, hitem, hkind, htime⟩
  · rintro ⟨e, he, huser, hitem, hkind, htime⟩
    exact ⟨e, ⟨⟨⟨he, htime⟩, huser⟩, hkind⟩, hitem⟩

theorem recentEventItems_no_kinds : s.recentEventItems user [] since now = [] := by
  refine List.eq_nil_iff_forall_not_mem.2 fun item hitem => ?_
  obtain ⟨e, -, -, -, hkind, -⟩ := mem_recentEventItems_iff.1 hitem
  cases hkind

theorem metRecently_iff {settings : Settings} : s.MetRecently settings user now item ↔
    item ∈ s.recentEventItems user (settings.excludedKinds.filter s.types.isConversion)
        (now.minusDays settings.purchasedWindow) now ∨
      item ∈ s.recentEventItems user (settings.excludedKinds.filter (!s.types.isConversion ·))
        (now.minusDays settings.popularityWindow) now := by
  simp only [mem_recentEventItems_iff, List.mem_filter, Bool.not_eq_true', ← Bool.not_eq_true,
    isConversion_types_iff]
  constructor
  · rintro ⟨e, he, huser, hitem, hkind, hnow, hbought, hmet⟩
    by_cases hconversion : s.CountsAsConversion e.kind
    · exact .inl ⟨e, he, huser, hitem, ⟨hkind, hconversion⟩, hbought hconversion, hnow⟩
    · exact .inr ⟨e, he, huser, hitem, ⟨hkind, hconversion⟩, hmet hconversion, hnow⟩
  · rintro (⟨e, he, huser, hitem, ⟨hkind, hconversion⟩, hsince, hnow⟩ |
      ⟨e, he, huser, hitem, ⟨hkind, hconversion⟩, hsince, hnow⟩)
    · exact ⟨e, he, huser, hitem, hkind, hnow, fun _ => hsince, fun hnot => absurd hconversion hnot⟩
    · exact ⟨e, he, huser, hitem, hkind, hnow, fun hyes => absurd hyes hconversion, fun _ => hsince⟩

end Snapshot

/-! ### The reads -/

variable {σ : Type}

def Store.recentOfKinds (store : Store σ) (ctx : Context) (scope : Scope) (user : String)
    (kinds : List Int) (days : Float) : Read σ (List String) :=
  if kinds.isEmpty then return []
  else store.recentEventItems ctx scope user kinds (ctx.now.minusDays days)

theorem Ranked.recentlyMet_eq (settings : Settings) (store : Store σ) (ctx : Context)
    (scope : Scope) (user : String) (types : EventTypes) :
    recentlyMet settings store ctx scope user types = do
      let bought ← store.recentOfKinds ctx scope user
        (settings.excludedKinds.filter types.isConversion) settings.purchasedWindow
      let met ← store.recentOfKinds ctx scope user
        (settings.excludedKinds.filter (!types.isConversion ·)) settings.popularityWindow
      return bought ++ met := by
  rw [recentlyMet, List.partition_eq_filter_filter]
  rfl

section Memory

variable (tenants : Tenants) (ctx : Context) (scope : Scope) (user : String) (kinds : List Int)
  (days : Float) {w : World σ}

theorem Store.run_recentOfKinds (h : kinds = [] ∨ ctx.isCanceledBy w.clock = false) :
    ((memory tenants).recentOfKinds ctx scope user kinds days).run w =
      (.ok ((tenants.snapshot scope).recentEventItems user kinds (ctx.now.minusDays days) ctx.now),
        w) := by
  cases kinds with
  | nil =>
      rw [Snapshot.recentEventItems_no_kinds]
      rfl
  | cons kind rest =>
      have hwanted := h.resolve_left (List.cons_ne_nil kind rest)
      have hrun := run_answer tenants ctx scope
        (·.recentEventItems user (kind :: rest) (ctx.now.minusDays days) ctx.now) w
      rw [hwanted] at hrun
      exact hrun

theorem Store.run_recentOfKinds_of_canceled (hkinds : kinds ≠ [])
    (h : ctx.isCanceledBy w.clock = true) :
    ((memory tenants).recentOfKinds ctx scope user kinds days).run w = (.error .canceled, w) := by
  obtain ⟨kind, rest, rfl⟩ := List.exists_cons_of_ne_nil hkinds
  have hrun := run_answer tenants ctx scope
    (·.recentEventItems user (kind :: rest) (ctx.now.minusDays days) ctx.now) w
  rw [h] at hrun
  exact hrun

end Memory

/-- A store in memory hands back what it has for the kinds that count as conversions, and behind it
what it has for the others. -/
theorem Ranked.run_recentlyMet (tenants : Tenants) (ctx : Context) (scope : Scope)
    (settings : Settings) (user : String) (types : EventTypes) (w : World σ) :
    (recentlyMet settings (Store.memory tenants) ctx scope user types).run w =
      (if settings.excludedKinds ≠ [] ∧ ctx.isCanceledBy w.clock = true then .error .canceled
        else .ok
          ((tenants.snapshot scope).recentEventItems user
              (settings.excludedKinds.filter types.isConversion)
              (ctx.now.minusDays settings.purchasedWindow) ctx.now ++
            (tenants.snapshot scope).recentEventItems user
              (settings.excludedKinds.filter (!types.isConversion ·))
              (ctx.now.minusDays settings.popularityWindow) ctx.now), w) := by
  rw [recentlyMet_eq]
  split
  · rename_i hunanswered
    obtain ⟨hkinds, hcanceled⟩ := hunanswered
    by_cases hbought : settings.excludedKinds.filter types.isConversion = []
    · have hmet : settings.excludedKinds.filter (!types.isConversion ·) ≠ [] := by
        rw [List.filter_eq_nil_iff] at hbought
        rw [List.filter_eq_self.2 fun kind hkind => by simp [hbought kind hkind]]
        exact hkinds
      rw [run_bind, Store.run_recentOfKinds _ _ _ _ _ _ (.inl hbought)]
      dsimp only
      rw [run_bind, Store.run_recentOfKinds_of_canceled _ _ _ _ _ _ hmet hcanceled]
    · rw [run_bind, Store.run_recentOfKinds_of_canceled _ _ _ _ _ _ hbought hcanceled]
  · rename_i hanswered
    have hread (kinds : List Int) (hsome : kinds ≠ [] → settings.excludedKinds ≠ []) :
        kinds = [] ∨ ctx.isCanceledBy w.clock = false := by
      by_cases hkinds : kinds = []
      · exact .inl hkinds
      · exact .inr (Bool.eq_false_iff.2 fun hcanceled => hanswered ⟨hsome hkinds, hcanceled⟩)
    have hfilter (p : Int → Bool) : settings.excludedKinds.filter p ≠ [] →
        settings.excludedKinds ≠ [] := fun hne hnil => hne (by rw [hnil, List.filter_nil])
    rw [run_bind, Store.run_recentOfKinds _ _ _ _ _ _ (hread _ (hfilter _))]
    dsimp only
    rw [run_bind, Store.run_recentOfKinds _ _ _ _ _ _ (hread _ (hfilter _))]
    rfl

/-- Asked which items a user has met recently, a store in memory answers with those on which the
user has an event of an excluded kind within the window of the kind, which is the one for purchases
exactly if the tenant counts the kind as a conversion. It does not answer only if some kind is
excluded and the request is canceled. An event is within a window of so many days if no more than
these, to the nearest millisecond, lie between it and the present, neither of which is a leap
second. -/
theorem Ranked.recently_met_by_window (tenants : Tenants) (ctx : Context) (scope : Scope)
    (settings : Settings) (user : String) :
    let s := tenants.snapshot scope
    (∀ w : World σ, ((Store.memory tenants).eventTypes ctx scope).run w =
        (if ctx.isCanceledBy w.clock then .error .canceled else .ok s.types, w)) ∧
      (∃ items, (∀ item, item ∈ items ↔ s.MetRecently settings user ctx.now item) ∧
        ∀ w : World σ,
          (recentlyMet settings (Store.memory tenants) ctx scope user s.types).run w =
            (if settings.excludedKinds ≠ [] ∧ ctx.isCanceledBy w.clock = true then .error .canceled
              else .ok items, w)) ∧
      ∀ (days : Float) (t : Instant), ctx.now.isLeap = false → t.isLeap = false →
        (ctx.now.minusDays days ≤ t ↔
          ctx.now.total - t.total ≤ Decimal.nearestInt64 (days * 86400000.0) * 1000000) := by
  intro s
  refine ⟨Store.run_answer tenants ctx scope (·.types),
    ⟨s.recentEventItems user (settings.excludedKinds.filter s.types.isConversion)
        (ctx.now.minusDays settings.purchasedWindow) ctx.now ++
      s.recentEventItems user (settings.excludedKinds.filter (!s.types.isConversion ·))
        (ctx.now.minusDays settings.popularityWindow) ctx.now, fun item => ?_, fun w => ?_⟩,
    fun days t hnow ht => ?_⟩
  · rw [List.mem_append, Snapshot.metRecently_iff]
  · exact run_recentlyMet tenants ctx scope settings user s.types w
  · exact Instant.beforeMillis_le_iff hnow ht (Time.daysMillis days)

def Snapshot.boughtBoot : Snapshot :=
  { items := [{ id := "boot" }]
    events := [{ userId := "ann", itemId := "boot", kind := 3, time := ⟨1100, 0⟩ }]
    rules := [] }

/-- The boot has been met recently a quarter of an hour later. -/
theorem Ranked.recently_met_by_window_boughtBoot :
    let ctx : Context := { org := ⟨0⟩, now := ⟨2000, 0⟩ }
    let scope : Scope := ⟨⟨0⟩, "shop"⟩
    let bought : Instant := ⟨1100, 0⟩
    ctx.now.isLeap = false ∧ bought.isLeap = false ∧ ∃ items, "boot" ∈ items ∧
      (recentlyMet {} (Store.memory [(scope, .boughtBoot)]) ctx scope "ann"
        Snapshot.boughtBoot.types).run ⟨0, ()⟩ = (.ok items, ⟨0, ()⟩) := by
  intro ctx scope bought
  obtain ⟨-, ⟨items, hitems, hrun⟩, hwindow⟩ :=
    recently_met_by_window (σ := Unit) [(scope, .boughtBoot)] ctx scope {} "ann"
  have hsnapshot : Tenants.snapshot [(scope, .boughtBoot)] scope = .boughtBoot := rfl
  rw [hsnapshot] at hitems hrun
  have hconversion : Snapshot.boughtBoot.CountsAsConversion 3 := .inr ⟨nofun, .inr rfl⟩
  have hrecent : ctx.now.minusDays 30.0 ≤ bought :=
    (hwindow 30.0 bought rfl rfl).2 (by decide +kernel)
  have hmet : Snapshot.boughtBoot.MetRecently {} "ann" ctx.now "boot" :=
    ⟨_, List.mem_singleton_self _, rfl, rfl, List.mem_singleton_self _, by decide,
      fun _ => hrecent, fun hnot => absurd hconversion hnot⟩
  exact ⟨rfl, rfl, items, (hitems "boot").2 hmet, hrun ⟨0, ()⟩⟩

end Recommendation
