import Recommendation.Store.Snapshot

/-!
A store in memory. It holds a snapshot for each organization and namespace, answers at once, and
never fails but for canceled requests.
-/

namespace Recommendation

/-- Snapshots by scope; of two for one scope the later counts. -/
abbrev Tenants := List (Scope × Snapshot)

def Tenants.snapshot (tenants : Tenants) (scope : Scope) : Snapshot :=
  match tenants.reverse.find? (·.1 == scope) with
  | some t => t.2
  | none => {}

namespace Store

variable {σ : Type}

def answer {α : Type} (tenants : Tenants) (ctx : Context) (scope : Scope) (f : Snapshot → α) :
    Read σ α := do
  Read.checkCanceled ctx
  return f (tenants.snapshot scope)

def memory (tenants : Tenants) : Store σ where
  eventTypes ctx scope := answer tenants ctx scope (·.types)
  topPopular ctx scope q := answer tenants ctx scope (·.topPopular q ctx.now)
  coVisitors ctx scope seed since limit :=
    answer tenants ctx scope (·.coVisitors seed since ctx.now limit)
  recentItems ctx scope user since limit types :=
    answer tenants ctx scope (·.recentItems user since ctx.now limit types)
  tagProfile ctx scope user since types :=
    answer tenants ctx scope (·.tagProfile user since ctx.now types)
  itemsByIds ctx scope ids := answer tenants ctx scope (·.itemsByIds ids)
  itemsWithAnyTag ctx scope tags limit := answer tenants ctx scope (·.itemsWithAnyTag tags limit)
  rulesFor ctx scope surface := answer tenants ctx scope (·.rulesFor scope.space surface ctx.now)
  recentEventItems ctx scope user kinds since :=
    answer tenants ctx scope (·.recentEventItems user kinds since ctx.now)
  holdoutSamples ctx scope since minEvents limit :=
    answer tenants ctx scope (·.holdoutSamples since ctx.now minEvents limit)

end Store

end Recommendation
