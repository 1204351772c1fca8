import Recommendation.Store

/-!
Windows that would begin outside the calendar. The start of a window has to be an instant that the
calendar has. To ask for another one is no failure that could be told: what has asked for it breaks
down as a whole, whatever it would have come to.
-/

namespace Recommendation

open Time (Instant)

/-- A backend, and whether a window has been asked for that begins outside the calendar. -/
structure Dated (σ : Type) where
  backend : σ
  overrun : Bool := false

variable {σ α : Type}

def Dated.note : Timed (Dated σ) Unit :=
  modify fun w => { w with backend := { w.backend with overrun := true } }

/-- A read of a window from some instant on, if it is one, with a note of a start that the calendar
does not have. -/
def Read.dated (since : Option Instant) (read : Read σ α) : Read (Dated σ) α :=
  ExceptT.mk fun w =>
    let (a, w') := read.run ⟨w.clock, w.backend.backend⟩
    (a, ⟨w'.clock, ⟨w'.backend, w.backend.overrun || !since.all (·.isRepresentable)⟩⟩)

def Store.dated (store : Store σ) : Store (Dated σ) where
  eventTypes ctx scope := (store.eventTypes ctx scope).dated none
  topPopular ctx scope q := (store.topPopular ctx scope q).dated (some q.since)
  coVisitors ctx scope seed since limit :=
    (store.coVisitors ctx scope seed since limit).dated (some since)
  recentItems ctx scope user since limit types :=
    (store.recentItems ctx scope user since limit types).dated (some since)
  tagProfile ctx scope user since types :=
    (store.tagProfile ctx scope user since types).dated (some since)
  itemsByIds ctx scope ids := (store.itemsByIds ctx scope ids).dated none
  itemsWithAnyTag ctx scope tags limit := (store.itemsWithAnyTag ctx scope tags limit).dated none
  rulesFor ctx scope surface := (store.rulesFor ctx scope surface).dated none
  recentEventItems ctx scope user kinds since :=
    (store.recentEventItems ctx scope user kinds since).dated (some since)
  holdoutSamples ctx scope since minEvents limit :=
    (store.holdoutSamples ctx scope since minEvents limit).dated (some since)

/-- What a computation comes to when it begins in the world; none if it breaks down. -/
def Timed.completed? (m : Timed (Dated σ) α) (w : World σ) : Option α :=
  let (a, w') := m ⟨w.clock, { backend := w.backend }⟩
  if w'.backend.overrun then none else some a

end Recommendation
