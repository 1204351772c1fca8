import Mathlib.Algebra.Ring.Nat
import Mathlib.Data.Finset.Card
import Recommendation.Evaluation

/-!
What the marks of a candidate say about the calls that were made for it. The marks are
folded from outcomes, one for each sample; here each of them is said by itself, as a
number of samples, a sum over those that have been hit, or a number of distinct items.
Counts and denominators are counted in 64 bits, so they are exact as long as the places
of all lists together are fewer than that.
-/

namespace Recommendation

/-! ### Distinct items and first places -/

theorem nodup_eraseDups (xs : List String) : xs.eraseDups.Nodup := by
  -- On the length, since the recursion goes on with what is left of the tail.
  induction hlength : xs.length using Nat.strong_induction_on generalizing xs with
  | _ n ih =>
    cases xs with
    | nil => simp
    | cons x rest =>
        rw [List.eraseDups_cons, List.nodup_cons]
        constructor
        · intro hmem
          simpa using List.mem_eraseDups.1 hmem
        · refine ih _ ?_ _ rfl
          rw [← hlength]
          exact Nat.lt_succ_of_le (List.length_filter_le _ _)

theorem length_eraseDups (xs : List String) : xs.eraseDups.length = xs.toFinset.card := by
  rw [← List.toFinset_card_of_nodup (nodup_eraseDups xs)]
  congr 1
  ext x
  simp

theorem findIdx?_beq (xs : List String) (x : String) :
    xs.findIdx? (· == x) = if xs.contains x then some (xs.idxOf x) else none := by
  have hlt : xs.findIdx (· == x) < xs.length ↔ xs.contains x = true :=
    List.idxOf_lt_length_iff.trans List.contains_iff_mem.symm
  rw [List.findIdx?_eq_guard_findIdx_lt, Option.guard]
  simp only [decide_eq_true_eq, hlt]
  rfl

namespace Evaluation

def quotient (x : Float) (n : Nat) : Float := if n = 0 then 0.0 else x / Score.ofNat n

theorem ratio_toUInt64 (x : Float) {n : Nat} (h : n < 2 ^ 64) :
    ratio x n.toUInt64 = quotient x n := by
  have hzero : n.toUInt64 = 0 ↔ n = 0 := by
    rw [Nat.toUInt64, UInt64.ofNat_eq_iff_mod_eq_toNat, Nat.mod_eq_of_lt h]
    rfl
  simp only [ratio, quotient, hzero]
  rfl

/-! ### Marks -/

section Calls

variable (calls : HoldoutSample → Except Failure (List String))

/-- The list that was made for a sample. A call that has failed has made none. -/
def listFor (s : HoldoutSample) : List String := (calls s).toOption.getD []

def failed (s : HoldoutSample) : Bool := (calls s).toOption.isNone

def isHit (s : HoldoutSample) : Bool := (listFor calls s).contains s.itemId

def place (s : HoldoutSample) : Nat := (listFor calls s).idxOf s.itemId + 1

def outcome (s : HoldoutSample) : Outcome := (s.itemId, (calls s).toOption)

/-- The marks are those of the calls: numbers of samples, and quotients that are nought if
there is nothing to divide by. Sums of reciprocals are taken in the order of the samples. -/
structure Marks (samples : List HoldoutSample) (k : Nat) (name : String) (e : Evaluation) :
    Prop where
  name : e.name = name
  total : e.total = samples.length
  failures : e.failures = samples.countP (failed calls)
  hits : e.hits = samples.countP (isHit calls)
  hitRate : e.hitRate = quotient (Score.ofNat e.hits) e.total
  meanReciprocalRank : e.meanReciprocalRank = quotient
    (Score.sum ((samples.filter (isHit calls)).map fun s => 1.0 / Score.ofNat (place calls s)))
    e.total
  averageRank : e.averageRank = quotient
    (Score.ofNat ((samples.filter (isHit calls)).map (place calls)).sum) e.hits
  coverage : e.coverage = quotient
    (Score.ofNat (samples.flatMap (listFor calls)).toFinset.card) (e.total * k)
  averageLength : e.averageLength = quotient
    (Score.ofNat (samples.map fun s => (listFor calls s).length).sum) e.total

variable {calls}

theorem rank?_outcome (s : HoldoutSample) :
    rank? (outcome calls s) = if isHit calls s then some (place calls s) else none := by
  rw [rank?, outcome, isHit, place, listFor]
  cases calls s with
  | error f => rfl
  | ok list =>
      change (list.findIdx? (· == s.itemId)).map (· + 1) = _
      rw [findIdx?_beq, apply_ite (Option.map (· + 1))]
      rfl

theorem filterMap_rank? (samples : List HoldoutSample) :
    (samples.map (outcome calls)).filterMap rank? =
      (samples.filter (isHit calls)).map (place calls) := by
  induction samples with
  | nil => rfl
  | cons s rest ih =>
      rw [List.map_cons, List.filterMap_cons, ih, rank?_outcome, List.filter_cons]
      cases isHit calls s <;> rfl

theorem flatten_lists (samples : List HoldoutSample) :
    ((samples.map (outcome calls)).filterMap (·.2)).flatten = samples.flatMap (listFor calls) := by
  induction samples with
  | nil => rfl
  | cons s rest ih =>
      rw [List.map_cons, List.filterMap_cons, List.flatMap_cons, ← ih, outcome, listFor]
      cases calls s <;> rfl

theorem foldl_lengths (samples : List HoldoutSample) :
    ((samples.map (outcome calls)).filterMap (·.2)).foldl (· + ·.length) 0 =
      (samples.map fun s => (listFor calls s).length).sum := by
  rw [← List.foldl_map, ← List.sum_eq_foldl, ← List.length_flatten, flatten_lists,
    List.length_flatMap]

theorem countP_isNone (samples : List HoldoutSample) :
    (samples.map (outcome calls)).countP (·.2.isNone) = samples.countP (failed calls) :=
  List.countP_map

theorem marks_ofOutcomes {samples : List HoldoutSample} {k : Nat} (hk : 1 ≤ k)
    (hbound : samples.length * k < 2 ^ 64) (name : String) :
    Marks calls samples k name (ofOutcomes name k (samples.map (outcome calls))) := by
  have hranks : (samples.map (outcome calls)).filterMap rank? =
      (samples.filter (isHit calls)).map (place calls) := filterMap_rank? samples
  have hlength : (samples.map (outcome calls)).length = samples.length := List.length_map _
  have htotal : samples.length < 2 ^ 64 :=
    Nat.lt_of_le_of_lt (Nat.le_mul_of_pos_right _ hk) hbound
  have hhits : ((samples.map (outcome calls)).filterMap rank?).length =
      samples.countP (isHit calls) := by
    rw [hranks, List.length_map, List.countP_eq_length_filter]
  constructor
  case name => rfl
  case total => exact hlength
  case failures => exact countP_isNone samples
  case hits => exact hhits
  case hitRate =>
    rw [ofOutcomes, hlength]
    exact ratio_toUInt64 _ htotal
  case meanReciprocalRank =>
    rw [ofOutcomes, hranks, hlength, List.map_map]
    exact ratio_toUInt64 _ htotal
  case averageRank =>
    have hsome : samples.countP (isHit calls) < 2 ^ 64 :=
      Nat.lt_of_le_of_lt List.countP_le_length htotal
    rw [ofOutcomes, ← List.sum_eq_foldl, hhits, hranks]
    exact ratio_toUInt64 _ hsome
  case coverage =>
    rw [ofOutcomes, flatten_lists, length_eraseDups, hlength]
    exact ratio_toUInt64 _ hbound
  case averageLength =>
    rw [ofOutcomes, foldl_lengths, hlength]
    exact ratio_toUInt64 _ htotal

theorem not_failed_of_isHit {s : HoldoutSample} (h : isHit calls s = true) :
    failed calls s = false := by
  rw [isHit, listFor] at h
  rw [failed]
  cases hcall : calls s with
  | ok list => rfl
  | error f =>
      rw [hcall] at h
      cases h

/-- No sample counts as hit and as failed. -/
theorem Marks.hits_add_failures_le {samples : List HoldoutSample} {k : Nat} {name : String}
    {e : Evaluation} (h : Marks calls samples k name e) : e.hits + e.failures ≤ e.total := by
  rw [h.hits, h.failures, h.total, List.length_eq_countP_add_countP (isHit calls)]
  refine Nat.add_le_add_left (List.countP_mono_left fun s _ hfailed => ?_) _
  rw [decide_eq_true_eq]
  intro hhit
  cases hfailed.symm.trans (not_failed_of_isHit hhit)

end Calls

end Evaluation

end Recommendation
