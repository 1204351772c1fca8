import Recommendation.Metrics.Registry
import Recommendation.Proofs.Service.RequestIds
import Recommendation.Service
import Recommendation.Store.Memory

/-!
What a caller is told when a list cannot be had. Whatever goes wrong, in a header, in
the query, in the body or in the engine, the response is a problem that bears the
identifier of its request. One case is left out: a path whose item is no text is refused
before the service has a say, in plain words.
-/

namespace Recommendation.Service

variable {σ ρ : Type}

/-- The request asks for what the route leads to, by the method that the route wants. -/
def Request.Reaches (r : Request) (route : Route) : Prop :=
  route? r.split.1 = some (r.method, route)

def Route.IsList : Route → Prop
  | .recommend => True
  | .similar _ => True
  | .health => False
  | .metrics => False

structure Response.IsProblem (response : Response) (id : String) (f : Failure) : Prop where
  status : response.status = f.status
  contentType : response.contentType = some "application/problem+json"
  body : response.body = .data (.object ([("error", .text f.code),
    ("message", .text f.publicMessage), ("correlation_id", .text id)] ++
      f.details.toList.map fun d => ("details", d)))

def Response.IsSuccess (response : Response) : Prop :=
  200 ≤ response.status ∧ response.status < 300

/-- The request says whose items it is about, but the one in its path is no text. -/
def Request.HidesItem (r : Request) (route : Route) : Prop :=
  (∃ org, organization r = .ok org) ∧ ∃ item, route = .similar item ∧ segmentText? item = none

/-- What the extractor says about a path with an item that is no text. -/
def hiddenItem (id : String) : Response :=
  { plain 400 "Invalid URL: Invalid UTF-8 in \x60item_id\x60" with requestId := some id }

def Server.response (s : Server σ ρ) (m : ρ) (arrival : Arrival) (r : Request)
    (w : World σ) : Response :=
  ((s.handle m arrival r).run w).1.1

theorem isProblem_problem (id : String) (f : Failure) : (problem id f).IsProblem id f :=
  ⟨rfl, rfl, rfl⟩

def IsTold (id : String) (response : Response) : Prop :=
  response.IsSuccess ∨ ∃ f, response.IsProblem id f

theorem isTold_problem (id : String) (f : Failure) : IsTold id (problem id f) :=
  .inr ⟨f, isProblem_problem id f⟩

theorem isTold_ok (id : String) (value : Json.Value) (overrun : Bool) :
    IsTold id { ok value with overrun } :=
  .inl ⟨(by decide : 200 ≤ 200), (by decide : 200 < 300)⟩

theorem method_of_route? {path : List (List Char)} {method : String} {route : Route}
    (h : route? path = some (method, route)) : method = "GET" ∨ method = "POST" := by
  unfold route? at h
  split at h
  · split at h
    · cases h
      exact .inl rfl
    · cases h
      exact .inl rfl
    · cases h
  · split at h
    · cases h
      exact .inr rfl
    · cases h
  · split at h
    · cases h
      exact .inl rfl
    · cases h
  · cases h

namespace Server

variable (s : Server σ ρ) (m : ρ) (arrival : Arrival) (id : String) (r : Request) (w : World σ)

theorem isTold_respond (served : Served Float) : IsTold id (s.respond id served).1 := by
  rw [respond]
  cases served.answer with
  | ok answer => exact isTold_ok id _ _
  | error f => exact isTold_problem id f

theorem isTold_recommend : IsTold id ((s.recommend arrival id r).run w).1.1 := by
  rw [recommend]
  cases organization r with
  | error f => exact isTold_problem id f
  | ok org =>
      cases recommendRequest r with
      | error f => exact isTold_problem id f
      | ok request => exact s.isTold_respond id _

theorem isTold_similar {item : List Char} (query : List Char)
    (hitem : ∀ org, organization r = .ok org → segmentText? item ≠ none) :
    IsTold id ((s.similar arrival id r item query).run w).1.1 := by
  rw [similar]
  cases horg : organization r with
  | error f => exact isTold_problem id f
  | ok org =>
      cases htext : segmentText? item with
      | none => exact absurd htext (hitem org horg)
      | some text =>
          dsimp only
          cases similarRequest text query with
          | error f => exact isTold_problem id f
          | ok request => exact s.isTold_respond id _

theorem similar_of_hidden {item : List Char} (query : List Char) {org : Identifier}
    (horg : organization r = .ok org) (hitem : segmentText? item = none) :
    ((s.similar arrival id r item query).run w).1.1 =
      plain 400 "Invalid URL: Invalid UTF-8 in \x60item_id\x60" := by
  rw [similar, horg, hitem]
  rfl

/-- A request that reaches a route is answered there, and the response gets its identifier. -/
theorem response_of_reaches {route : Route} (hreaches : r.Reaches route) :
    s.response m arrival r w =
      { ((s.answer m arrival (r.id arrival.fresh) r r.split.2 route).run w).1.1 with
        requestId := some (r.id arrival.fresh) } := by
  have hmethod : (r.method == "OPTIONS") = false := by
    rcases method_of_route? hreaches with h | h <;> rw [h] <;> decide
  have hroute : route? r.split.1 = some (r.method, route) := hreaches
  have hdispatch (id : String) :
      s.dispatch m arrival id r = s.answer m arrival id r r.split.2 route := by
    rw [dispatch]
    simp only [hroute, beq_self_eq_true, if_true]
  rw [response, handle, hmethod, if_neg Bool.false_ne_true]
  simp only [hdispatch]
  rfl

/-- A request for a list is answered with the list or with a problem, unless the item in its path
is no text. Either way the response bears the identifier that the caller has given the request, or
the fresh one if the caller has given none. -/
theorem failures_told_as_problems {route : Route} (hreaches : r.Reaches route)
    (hlist : route.IsList) :
    (s.response m arrival r w).requestId = some (r.id arrival.fresh) ∧
      (∀ id, r.Names id → r.id arrival.fresh = id) ∧
      ((∀ id, ¬r.Names id) → r.id arrival.fresh = arrival.fresh) ∧
      (r.HidesItem route → s.response m arrival r w = hiddenItem (r.id arrival.fresh)) ∧
      (¬r.HidesItem route → ¬(s.response m arrival r w).IsSuccess →
        ∃ f, (s.response m arrival r w).IsProblem (r.id arrival.fresh) f) := by
  rw [s.response_of_reaches m arrival r w hreaches]
  refine ⟨rfl, fun _ => r.id_of_names _, r.id_of_unnamed _, ?_, ?_⟩
  · rintro ⟨⟨org, horg⟩, item, rfl, hitem⟩
    rw [answer, s.similar_of_hidden arrival _ r w _ horg hitem]
    rfl
  · intro hshown
    have htold : IsTold (r.id arrival.fresh)
        ((s.answer m arrival (r.id arrival.fresh) r r.split.2 route).run w).1.1 := by
      cases route with
      | recommend => exact s.isTold_recommend arrival _ r w
      | similar item =>
          exact s.isTold_similar arrival _ r w _ fun org horg hitem =>
            hshown ⟨⟨org, horg⟩, item, rfl, hitem⟩
      | health => exact hlist.elim
      | metrics => exact hlist.elim
    intro hfails
    rcases htold with hsuccess | ⟨f, hproblem⟩
    · exact absurd hsuccess hfails
    · exact ⟨f, hproblem.status, hproblem.contentType, hproblem.body⟩

end Server

def emptyServer : Server Unit Registry :=
  { engine := { settings := {}, store := .memory [] }, counters := Registry.library fnv1a }

def emptyArrival : Arrival := { now := ⟨2000, 0⟩, fresh := "0a1b2c3d-0000-4000-8000-000000000000" }

def strayRequest : Request :=
  { method := "GET", target := "/v1/items/boot/similar?namespace=shop"
    headers := [("X-Request-Id", " req-42\t")] }

theorem failures_told_as_problems_strayRequest :
    strayRequest.Reaches (.similar "boot".toList) ∧ (Route.similar "boot".toList).IsList ∧
      ∃ response, response = emptyServer.response {} emptyArrival strayRequest ⟨0, ()⟩ ∧
        response.requestId = some "req-42" ∧ response.status = 401 ∧
        ∃ f, response.IsProblem "req-42" f := by
  have hreaches : strayRequest.Reaches (.similar "boot".toList) := rfl
  have hnames : strayRequest.Names "req-42" := by
    have hheader : strayRequest.header? "x-request-id" = some " req-42\t" := by decide +kernel
    exact ⟨⟨by decide, by decide, by simp⟩, " req-42\t", [' '], ['\t'], hheader, rfl, by simp⟩
  have hshown : ¬strayRequest.HidesItem (.similar "boot".toList) := by
    rintro ⟨⟨org, horg⟩, -⟩
    cases horg
  obtain ⟨hid, hnamed, -, -, hproblem⟩ := emptyServer.failures_told_as_problems {} emptyArrival
    strayRequest ⟨0, ()⟩ hreaches trivial
  rw [hnamed "req-42" hnames] at hid hproblem
  have hstatus : (emptyServer.response {} emptyArrival strayRequest ⟨0, ()⟩).status = 401 := by
    decide +kernel
  refine ⟨hreaches, trivial, _, rfl, hid, hstatus, hproblem hshown ?_⟩
  rw [Response.IsSuccess, hstatus]
  decide

/-- A request for items like one whose name is a byte that begins no character. -/
def byteRequest : Request :=
  { method := "GET", target := "/v1/items/%ff/similar"
    headers := [("x-org-id", "11111111-2222-3333-4444-555555555555"), ("x-request-id", "req-42")] }

theorem byteRequest_not_told_as_problem :
    byteRequest.Reaches (.similar "%ff".toList) ∧ (Route.similar "%ff".toList).IsList ∧
      ¬(emptyServer.response {} emptyArrival byteRequest ⟨0, ()⟩).IsSuccess ∧
      ∀ id f, ¬(emptyServer.response {} emptyArrival byteRequest ⟨0, ()⟩).IsProblem id f := by
  have hstatus : (emptyServer.response {} emptyArrival byteRequest ⟨0, ()⟩).status = 400 := by
    decide +kernel
  have htype : (emptyServer.response {} emptyArrival byteRequest ⟨0, ()⟩).contentType =
      some "text/plain; charset=utf-8" := by
    decide +kernel
  refine ⟨rfl, trivial, ?_, fun id f hproblem => ?_⟩
  · rw [Response.IsSuccess, hstatus]
    decide
  · have hclash := htype.symm.trans hproblem.contentType
    revert hclash
    decide

end Recommendation.Service
