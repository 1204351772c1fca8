import Recommendation.Service

/-!
What a problem tells of the failure behind it. Of a failure that a store will not get
over, of a broken invariant and of an internal error the caller learns the kind and no
text. Of a store that is unavailable the caller learns the text as well, so two such
failures are told alike exactly if their texts are the same.
-/

namespace Recommendation

namespace Failure

theorem ofStore_of_unavailable {e : StoreError} (h : e.isUnavailable) :
    ofStore e = .storeUnavailable e.message := by
  cases e with
  | permanent detail => cases h
  | canceled => cases h
  | timeout millis => rfl
  | transient detail => rfl
  | unavailable operation attempts last => rfl

theorem eq_permanent_or_canceled {e : StoreError} (h : ¬e.isUnavailable) :
    (∃ detail, e = .permanent detail) ∨ e = .canceled := by
  cases e with
  | permanent detail => exact .inl ⟨detail, rfl⟩
  | canceled => exact .inr rfl
  | timeout millis => exact absurd rfl h
  | transient detail => exact absurd rfl h
  | unavailable operation attempts last => exact absurd rfl h

theorem isUnavailable_iff_code (e : StoreError) :
    e.isUnavailable ↔ (ofStore e).code = "store_unavailable" := by
  constructor
  · intro h
    rw [ofStore_of_unavailable h]
    rfl
  · intro h
    refine Decidable.byContradiction fun hnot => ?_
    rcases eq_permanent_or_canceled hnot with ⟨detail, rfl⟩ | rfl <;> simp [ofStore, code] at h

end Failure

namespace Service

open Failure (ofStore)

theorem publicMessage_eq_of_problem_eq {id : String} {f g : Failure}
    (h : problem id f = problem id g) : f.publicMessage = g.publicMessage := by
  have hbody : f.problem id = g.problem id := by
    have hbodies : (problem id f).body = (problem id g).body := congrArg Response.body h
    injection hbodies
  rw [Failure.problem, Failure.problem] at hbody
  injection hbody with hfields
  simp only [List.cons_append, List.cons.injEq, Prod.mk.injEq, Json.Value.text.injEq] at hfields
  exact hfields.2.1.2

theorem problem_storeUnavailable_iff {id detail detail' : String} :
    problem id (.storeUnavailable detail) = problem id (.storeUnavailable detail') ↔
      detail = detail' := by
  constructor
  · intro h
    have hmessage : "Store unavailable: " ++ detail = "Store unavailable: " ++ detail' :=
      publicMessage_eq_of_problem_eq h
    exact (String.append_right_inj _).1 hmessage
  · rintro rfl
    rfl

/-- Two failures of a store with one code are told alike unless the store is unavailable, for
different reasons. Two broken invariants of one kind, and two internal errors, are always told
alike. -/
theorem problems_keep_details_back (id : String) :
    (∀ e e' : StoreError, (ofStore e).code = (ofStore e').code →
      (problem id (ofStore e) = problem id (ofStore e') ↔
        (e.isUnavailable → e.message = e'.message))) ∧
      (∀ invariant detail detail', problem id (.broken invariant detail) =
        problem id (.broken invariant detail')) ∧
      ∀ detail detail', problem id (.internal detail) = problem id (.internal detail') := by
  refine ⟨fun e e' hcode => ?_, fun _ _ _ => rfl, fun _ _ => rfl⟩
  by_cases hdown : e.isUnavailable
  · have hdown' : e'.isUnavailable := by
      rw [Failure.isUnavailable_iff_code, ← hcode]
      exact (Failure.isUnavailable_iff_code e).1 hdown
    rw [Failure.ofStore_of_unavailable hdown, Failure.ofStore_of_unavailable hdown',
      problem_storeUnavailable_iff]
    exact ⟨fun h _ => h, fun h => h hdown⟩
  · have hdown' : ¬e'.isUnavailable := by
      rw [Failure.isUnavailable_iff_code, ← hcode]
      exact fun h => hdown ((Failure.isUnavailable_iff_code e).2 h)
    refine ⟨fun _ h => absurd h hdown, fun _ => ?_⟩
    rcases Failure.eq_permanent_or_canceled hdown with ⟨detail, rfl⟩ | rfl <;>
      rcases Failure.eq_permanent_or_canceled hdown' with ⟨detail', rfl⟩ | rfl
    · rfl
    · simp [ofStore, Failure.code] at hcode
    · simp [ofStore, Failure.code] at hcode
    · rfl

theorem problems_keep_details_back_syntaxError :
    (ofStore (.permanent "syntax error")).code = (ofStore (.permanent "disk full")).code ∧
      problem "req-42" (ofStore (.permanent "syntax error")) =
        problem "req-42" (ofStore (.permanent "disk full")) := by
  have hcode : (ofStore (.permanent "syntax error")).code =
      (ofStore (.permanent "disk full")).code := rfl
  exact ⟨hcode, ((problems_keep_details_back "req-42").1 _ _ hcode).2 nofun⟩

/-- Two reads that have been given up, after what the database has said last. -/
def refusedLogin : StoreError := .unavailable "top_popular" 3 "password of user shop is wrong"

def droppedSession : StoreError := .unavailable "top_popular" 3 "connection reset"

theorem givenUp_told_apart : (ofStore refusedLogin).code = (ofStore droppedSession).code ∧
    problem "req-42" (ofStore refusedLogin) ≠ problem "req-42" (ofStore droppedSession) := by
  refine ⟨rfl, fun h => ?_⟩
  have hmessage := publicMessage_eq_of_problem_eq h
  revert hmessage
  decide +kernel

end Service

end Recommendation
