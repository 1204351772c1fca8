import Recommendation.Store

/-!
A store whose reads can be told what to do: to take their time, to fail, or to answer something else
than the data says. It serves to rehearse slow and failing stores.
-/

namespace Recommendation.Rehearsal

/-- What a read is told to do. It takes so many milliseconds, then fails if it is told to, and
otherwise answers what it is told to, if anything. -/
structure Override (α : Type) where
  delay : Nat := 0
  failure : Option StoreError := none
  rows : Option α := none

/-- What the reads of a store are told to do; of most, only when and whether to answer. -/
structure Overrides where
  eventTypes : Option (Override EventTypes) := none
  topPopular : Option (Override (List (PopularItem Float))) := none
  coVisitors : Option (Override (List (String × List CoVisitor))) := none
  recentItems : Option (Override (List RecentItem)) := none
  tagProfile : Option (Override (Dictionary Float)) := none
  itemsByIds : Option (Override (Dictionary Item)) := none
  itemsWithAnyTag : Option (Override (List Item)) := none
  rulesFor : Option (Override (List Rule)) := none
  recentEventItems : Option (Override (List String)) := none
  holdoutSamples : Option (Override (List HoldoutSample)) := none

variable {σ α β : Type}

def Override.read (o : Option (Override β)) (answer : β → α) (otherwise : Read σ α) : Read σ α :=
  match o with
  | none => otherwise
  | some o => do
    ExceptT.lift (Timed.sleep o.delay)
    match o.failure, o.rows with
    | some e, _ => throw e
    | none, some rows => return answer rows
    | none, none => otherwise

def Overrides.apply (o : Overrides) (store : Store σ) : Store σ where
  eventTypes ctx scope := Override.read o.eventTypes id (store.eventTypes ctx scope)
  topPopular ctx scope q := Override.read o.topPopular id (store.topPopular ctx scope q)
  coVisitors ctx scope seed since limit :=
    Override.read o.coVisitors
      (fun rows => ((rows.find? fun r => r.1 == seed).map (·.2)).getD [])
      (store.coVisitors ctx scope seed since limit)
  recentItems ctx scope user since limit types :=
    Override.read o.recentItems id (store.recentItems ctx scope user since limit types)
  tagProfile ctx scope user since types :=
    Override.read o.tagProfile id (store.tagProfile ctx scope user since types)
  itemsByIds ctx scope ids := Override.read o.itemsByIds id (store.itemsByIds ctx scope ids)
  itemsWithAnyTag ctx scope tags limit :=
    Override.read o.itemsWithAnyTag id (store.itemsWithAnyTag ctx scope tags limit)
  rulesFor ctx scope surface := Override.read o.rulesFor id (store.rulesFor ctx scope surface)
  recentEventItems ctx scope user kinds since :=
    Override.read o.recentEventItems id (store.recentEventItems ctx scope user kinds since)
  holdoutSamples ctx scope since minEvents limit :=
    Override.read o.holdoutSamples id (store.holdoutSamples ctx scope since minEvents limit)

end Recommendation.Rehearsal
