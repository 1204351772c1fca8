import Recommendation.Relational.Records
import Recommendation.Relational.Statement
import Recommendation.Store.Retry

/-!
A store over a relational database. Each read is one statement, sent again as the options say when
an attempt fails. Reads with nothing to look for answer without asking the database.
-/

namespace Recommendation

open Time (Instant)

namespace Relational

structure Answer where
  rows : Decoded (List Row)
  /-- None if there will be no answer. -/
  duration : Option Nat := some 0

/-- A database whose backend has states of type `σ`. A statement is told when it is sent. -/
structure Database (σ : Type) where
  execute : Statement → List Parameter → (clock : Nat) → StateM σ Answer

def Answer.attempt {α : Type} (answer : Answer) (record : Row → Decoded α) : Attempt (List α) :=
  ⟨(answer.rows.bind fun rows => rows.mapM record).mapError DatabaseError.toStore, answer.duration⟩

variable {σ α : Type}

/-- The records that a statement answers with. The scope's organization and namespace are its first
two parameters. -/
def query (db : Database σ) (options : RetryOptions) (ctx : Context) (scope : Scope)
    (statement : Statement) (parameters : List Parameter) (record : Row → Decoded α) :
    Read σ (List α) :=
  Read.withRetry ctx options statement.name fun clock => do
    let place := [.identifier scope.org, .text scope.space]
    return (← db.execute statement (place ++ parameters) clock).attempt record

def typeParameters (types : EventTypes) : List Parameter :=
  [.codes types.codes, .numbers types.weights]

end Relational

open Relational

def Store.relational {σ : Type} (db : Database σ) (options : RetryOptions) : Store σ where
  eventTypes ctx scope := do
    return .overDefaults (← query db options ctx scope .eventTypes [] Row.eventType)
  topPopular ctx scope q :=
    query db options ctx scope .topPopular
      (typeParameters q.types ++ [.instant ctx.now, .number q.halfLife, .instant q.since,
        .texts q.excluded, .limit q.limit]) Row.popularItem
  coVisitors ctx scope seed since limit :=
    query db options ctx scope .coVisitors
      [.text seed, .instant since, .instant ctx.now, .limit limit] Row.coVisitor
  recentItems ctx scope user since limit types :=
    query db options ctx scope .recentItems
      ([.text user, .instant since, .instant ctx.now] ++ typeParameters types ++ [.limit limit])
      Row.recentItem
  tagProfile ctx scope user since types := do
    let weights ← query db options ctx scope .tagProfile
      ([.text user, .instant since, .instant ctx.now] ++ typeParameters types) Row.tagWeight
    return .ofList (weights.filter fun w => 0.0 < w.2)
  itemsByIds ctx scope ids :=
    if ids.isEmpty then return .empty
    else do
      let items ← query db options ctx scope .itemsByIds [.texts ids] Row.item
      return .ofList (items.map fun i => (i.id, i))
  itemsWithAnyTag ctx scope tags limit :=
    if tags.isEmpty then return []
    else
      query db options ctx scope .itemsWithAnyTag [.texts (tags.map normalTag), .limit limit] Row.item
  rulesFor ctx scope surface := do
    let rows ← query db options ctx scope .rulesFor [.text surface, .instant ctx.now] Row.ruleRow
    liftM (RuleRow.rules rows)
  recentEventItems ctx scope user kinds since :=
    if kinds.isEmpty then return []
    else do
      let ids ← query db options ctx scope .recentEventItems
        [.text user, .codes kinds, .instant since, .instant ctx.now] Row.itemId
      return sortedTexts ids
  holdoutSamples ctx scope since minEvents limit :=
    query db options ctx scope .holdoutSamples
      [.instant since, .instant ctx.now, .limit minEvents, .limit limit] Row.holdoutSample

end Recommendation
