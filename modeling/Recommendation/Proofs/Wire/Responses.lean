import Recommendation.Proofs.Json.Compact
import Recommendation.Wire.Requests

/-!
Responses that are written and read again. A double that is not finite is written as null, which is
no double, so the text of a response can be read as a response if and only if all scores are finite.
The rest of it comes back as it was.
-/

namespace Recommendation

namespace Json

variable {α β : Type}

/-! ### Doubles and lists -/

theorem isSome_float_floatNode_iff (x : Float) :
    (float (floatNode x)).isSome = true ↔ x.isFinite = true := by
  cases hfinite : x.isFinite with
  | true =>
      obtain ⟨n, hnode, hsome⟩ := floatNode_of_isFinite hfinite
      rw [hnode]
      exact iff_of_true hsome rfl
  | false =>
      rw [floatNode_of_not_isFinite hfinite]
      exact iff_of_false nofun nofun

theorem list_array_eq_some_iff {decode : Decoder β} {write : α → Value} {xs : List α}
    {ys : List β} :
    list decode (Value.array (xs.map write)).node = some ys ↔
      List.Forall₂ (fun x y => decode (write x).node = some y) xs ys := by
  rw [Value.node, list]
  induction xs generalizing ys with
  | nil => cases ys <;> simp [Value.nodes]
  | cons x xs ih =>
      simp only [List.map_cons, Value.nodes, List.mapM_cons, List.forall₂_cons_left_iff,
        Option.bind_eq_bind, Option.bind_eq_some_iff, ih]
      constructor
      · rintro ⟨y, hy, rest, hrest, ⟨⟩⟩
        exact ⟨y, rest, hy, hrest, rfl⟩
      · rintro ⟨y, rest, hy, hrest, rfl⟩
        exact ⟨y, hy, rest, hrest, rfl⟩

theorem isSome_list_array_iff {decode : Decoder β} {write : α → Value} {xs : List α} :
    (list decode (Value.array (xs.map write)).node).isSome = true ↔
      ∀ x ∈ xs, (decode (write x).node).isSome = true := by
  simp only [Option.isSome_iff_exists, list_array_eq_some_iff]
  induction xs with
  | nil => exact iff_of_true ⟨[], .nil⟩ (List.forall_mem_nil _)
  | cons x xs ih =>
      rw [List.forall_mem_cons, ← ih]
      simp only [List.forall₂_cons_left_iff]
      constructor
      · rintro ⟨_, y, rest, hy, hrest, -⟩
        exact ⟨⟨y, hy⟩, rest, hrest⟩
      · rintro ⟨⟨y, hy⟩, rest, hrest⟩
        exact ⟨y :: rest, y, rest, hy, hrest, rfl⟩

theorem list_text_texts (xs : List String) : list text (Value.texts xs).node = some xs :=
  list_array_eq_some_iff.2 (List.forall₂_same.2 fun _ _ => rfl)

end Json

namespace Wire

open Json

/-! ### Fields -/

theorem fields_ofRecommended (shown : Recommended Float) :
    Fields.of? [["item_id"], ["score"], ["reasons"]] (ofRecommended shown).node =
      some ⟨false, [some (.text (some shown.itemId)), some (floatNode shown.score),
        shown.reasons.map fun xs => (Value.texts xs).node]⟩ := by
  obtain ⟨id, score, reasons⟩ := shown
  cases reasons <;> rfl

theorem fields_ofResponse (r : Response) :
    Fields.of? [["model_version"], ["items"], ["degraded"]] (ofResponse r).node =
      some ⟨false, [some (.text (some r.modelVersion)),
        some (Value.array (r.items.map ofRecommended)).node,
        if r.degraded then some (.bool true) else none]⟩ := by
  obtain ⟨version, items, degraded⟩ := r
  cases degraded <;> rfl

theorem recommended_node (shown : Recommended Float) :
    recommended (ofRecommended shown).node =
      (float (floatNode shown.score)).map fun score => ⟨shown.itemId, score, shown.reasons⟩ := by
  have hreasons : Fields.optionalDefault ⟨false, [some (.text (some shown.itemId)),
      some (floatNode shown.score), shown.reasons.map fun xs => (Value.texts xs).node]⟩ 2
      (list text) = some shown.reasons := by
    cases hgiven : shown.reasons with
    | none => rfl
    | some xs =>
        change (list text (Value.texts xs).node).map some = _
        rw [list_text_texts]
        rfl
  rw [recommended, fields_ofRecommended]
  change (float (floatNode shown.score)).bind _ = _
  rw [hreasons, Option.map_eq_bind]
  rfl

theorem response_node (r : Response) :
    response (ofResponse r).node =
      (list recommended (Value.array (r.items.map ofRecommended)).node).map fun items =>
        ⟨r.modelVersion, items, r.degraded⟩ := by
  have hdegraded : Fields.withDefault ⟨false, [some (.text (some r.modelVersion)),
      some (Value.array (r.items.map ofRecommended)).node,
      if r.degraded then some (.bool true) else none]⟩ 2 bool false = some r.degraded := by
    cases r.degraded <;> rfl
  rw [response, fields_ofResponse]
  change (list recommended (Value.array (r.items.map ofRecommended)).node).bind _ = _
  rw [hdegraded, Option.map_eq_bind]
  rfl

/-! ### Responses -/

def reread (r : Response) : Option Response :=
  (Node.ofText? (ofResponse r).compact).bind response

theorem reread_eq_some_iff {r r' : Response} :
    reread r = some r' ↔ r'.modelVersion = r.modelVersion ∧ r'.degraded = r.degraded ∧
      List.Forall₂ (fun shown shown' => recommended (ofRecommended shown).node = some shown')
        r.items r'.items := by
  rw [reread, ofText?_compact, Option.bind_some, response_node, Option.map_eq_some_iff]
  simp only [list_array_eq_some_iff]
  constructor
  · rintro ⟨items, hitems, rfl⟩
    exact ⟨rfl, rfl, hitems⟩
  · rintro ⟨hversion, hdegraded, hitems⟩
    refine ⟨r'.items, hitems, ?_⟩
    rw [← hversion, ← hdegraded]

/-- Two responses say the same, but for the scores. -/
structure AgreesButScores (r r' : Response) : Prop where
  modelVersion : r'.modelVersion = r.modelVersion
  degraded : r'.degraded = r.degraded
  items : r'.items.map (fun shown => (shown.itemId, shown.reasons)) =
    r.items.map fun shown => (shown.itemId, shown.reasons)

theorem agrees_of_reread {r r' : Response} (h : reread r = some r') : AgreesButScores r r' := by
  obtain ⟨hversion, hdegraded, hitems⟩ := reread_eq_some_iff.1 h
  refine ⟨hversion, hdegraded, ?_⟩
  generalize r.items = xs at hitems
  generalize r'.items = ys at hitems
  induction hitems with
  | nil => rfl
  | cons hshown _ ih =>
      rw [recommended_node] at hshown
      obtain ⟨score, -, rfl⟩ := Option.map_eq_some_iff.1 hshown
      rw [List.map_cons, List.map_cons, ih]

/-- A response can be read again if and only if all its scores are finite. -/
theorem isSome_reread_iff (r : Response) :
    (reread r).isSome = true ↔ ∀ shown ∈ r.items, shown.score.isFinite = true := by
  rw [reread, ofText?_compact, Option.bind_some, response_node, Option.isSome_map,
    isSome_list_array_iff]
  simp only [recommended_node, Option.isSome_map, isSome_float_floatNode_iff]

end Wire

end Recommendation
