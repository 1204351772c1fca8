import Recommendation.Proofs.Engine.Confinement
import Recommendation.Proofs.RuleEffects
import Recommendation.Proofs.Store.Rearrangement

/-!
The order in which a tenant's rows are listed does not show. All that a request reads
of a store in memory is the same for every order of its items, users, rules and kinds of
events, and so is everything that is made of it.
-/

namespace Recommendation

open Time (Instant)

namespace Engine

variable {σ α : Type} [Score α]

/-- Two stores that hold the same rows for a tenant in different orders answer alike:
requests end with the same list, scores, reasons and summary, or with the same failure.
So do two lists of the same rules, applied to a pool by themselves. -/
theorem answers_ignore_row_order (settings : Settings) (tenants tenants' : Tenants)
    (ctx : Context) :
    (∀ r : RecommendRequest α,
      (tenants.snapshot ⟨ctx.org, Text.trim r.space⟩).Rearranges
          (tenants'.snapshot ⟨ctx.org, Text.trim r.space⟩) →
        (tenants.snapshot ⟨ctx.org, Text.trim r.space⟩).HasDistinctRows →
          (overMemory settings tenants : Engine σ).recommend ctx r =
            (overMemory settings tenants').recommend ctx r) ∧
      (∀ r : SimilarRequest,
        (tenants.snapshot ⟨ctx.org, Text.trim r.space⟩).Rearranges
            (tenants'.snapshot ⟨ctx.org, Text.trim r.space⟩) →
          (tenants.snapshot ⟨ctx.org, Text.trim r.space⟩).HasDistinctRows →
            ((overMemory settings tenants : Engine σ).similar ctx r : Timed σ (Served α)) =
              (overMemory settings tenants').similar ctx r) ∧
      ∀ (starts : FacetStarts) (slots : Slots) (pool : List PoolEntry) (rules rules' : List Rule),
        rules.Perm rules' → (rules.map (·.id)).Nodup →
          (RuleEffects.ofRules starts slots rules pool : RuleEffects α) =
            .ofRules starts slots rules' pool := by
  refine ⟨fun r h hrows => ?_, fun r h hrows => ?_, fun starts slots pool rules rules' hperm h =>
    RuleEffects.ofRules_congr hperm h starts slots pool⟩
  · exact congrArg serve
      (recommendSteps_congr r (Store.agreesOn_memory_of_rearranges h hrows _ _)
        fun _ hmem => Settings.earliestStart_le hmem _)
  · exact congrArg serve
      (similarSteps_congr r (Store.agreesOn_memory_of_rearranges h hrows _ _)
        (Settings.earliestStart_le settings.coVisitationWindow_mem _))

def boostedShop : Snapshot :=
  { items := [{ id := "boot", tags := ["shoes"] }, { id := "clog", tags := ["shoes"] }]
    users := [{ id := "ann" }, { id := "bob" }]
    events := [{ userId := "ann", itemId := "boot", kind := 0, time := ⟨1000000, 0⟩ },
      { userId := "ann", itemId := "clog", kind := 3, time := ⟨1000000, 0⟩ }]
    eventTypes := [(0, ⟨"view", 0.5, false⟩), (3, ⟨"purchase", 1.0, true⟩)]
    rules := [{ id := ⟨1⟩, space := "shop", target := .items ["boot"], action := .boost 0.1 },
      { id := ⟨2⟩, space := "shop", target := .tag "shoes", action := .boost 0.2 }] }

/-- The same shop with every list but that of events backwards. -/
def backwardShop : Snapshot :=
  { items := boostedShop.items.reverse
    users := boostedShop.users.reverse
    events := boostedShop.events
    eventTypes := boostedShop.eventTypes.reverse
    rules := boostedShop.rules.reverse }

theorem boostedShop_rearranges_backwardShop : boostedShop.Rearranges backwardShop :=
  ⟨(List.reverse_perm _).symm, (List.reverse_perm _).symm, (List.reverse_perm _).symm,
    (List.reverse_perm _).symm, rfl⟩

theorem hasDistinctRows_boostedShop : boostedShop.HasDistinctRows :=
  ⟨by decide, by decide, by decide⟩

theorem answers_ignore_row_order_backwardShop :
    boostedShop.Rearranges backwardShop ∧ boostedShop.HasDistinctRows ∧
      (overMemory {} [(⟨.none, "shop"⟩, boostedShop)] : Engine Unit).recommend
          { org := .none, now := ⟨1500000, 0⟩ }
          ({ userId := "ann", space := "shop", k := 2 } : RecommendRequest Float) =
        (overMemory {} [(⟨.none, "shop"⟩, backwardShop)]).recommend
          { org := .none, now := ⟨1500000, 0⟩ } { userId := "ann", space := "shop", k := 2 } ∧
      ((overMemory {} [(⟨.none, "shop"⟩, boostedShop)] : Engine Unit).similar
          { org := .none, now := ⟨1500000, 0⟩ } { itemId := "boot", space := "shop", k := 2 } :
            Timed Unit (Served Float)) =
        (overMemory {} [(⟨.none, "shop"⟩, backwardShop)]).similar
          { org := .none, now := ⟨1500000, 0⟩ } { itemId := "boot", space := "shop", k := 2 } ∧
      (RuleEffects.ofRules ⟨["brand:"], ["category:"]⟩ (some 1) boostedShop.rules
          (boostedShop.items.map (⟨·, true⟩)) : RuleEffects Float) =
        .ofRules ⟨["brand:"], ["category:"]⟩ (some 1) backwardShop.rules
          (boostedShop.items.map (⟨·, true⟩)) := by
  have hspace : Text.trim "shop" = "shop" := by decide +kernel
  have hone : Tenants.snapshot [(⟨.none, "shop"⟩, boostedShop)] ⟨.none, Text.trim "shop"⟩ =
      boostedShop := by
    simp [Tenants.snapshot, hspace]
  have htwo : Tenants.snapshot [(⟨.none, "shop"⟩, backwardShop)] ⟨.none, Text.trim "shop"⟩ =
      backwardShop := by
    simp [Tenants.snapshot, hspace]
  have hrearranges := boostedShop_rearranges_backwardShop
  have hrows := hasDistinctRows_boostedShop
  have hall := answers_ignore_row_order (σ := Unit) (α := Float) {} [(⟨.none, "shop"⟩, boostedShop)]
    [(⟨.none, "shop"⟩, backwardShop)] { org := .none, now := ⟨1500000, 0⟩ }
  refine ⟨hrearranges, hrows, hall.1 _ ?_ ?_, hall.2.1 _ ?_ ?_, hall.2.2 _ _ _ _ _
    hrearranges.rules hrows.rules⟩
  · rw [hone, htwo]
    exact hrearranges
  · rw [hone]
    exact hrows
  · rw [hone, htwo]
    exact hrearranges
  · rw [hone]
    exact hrows

end Engine

end Recommendation
