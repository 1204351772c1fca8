import Recommendation.Proofs.Counters.Libraries
import Recommendation.Proofs.Counters.Shares

/-!
Counters are sums over the history, whatever library keeps them. Look-up after one observation has one
more summand for a series that the observation touches, and after a whole history it has them all;
series without a summand do not exist. Sums do not know the order of their summands.
-/

namespace Recommendation

namespace CounterLibrary

variable {ρ : Type} {lib : CounterLibrary ρ} {S : Series → Prop} {start r : ρ} {series : Series}

/-- A count with one more summand; it starts at nought. -/
def plus (v : Option UInt64) (n : Nat) : Option UInt64 :=
  some (v.getD 0 + n.toUInt64)

namespace Documented

variable (h : lib.Documented S start)

include h

theorem count?_eq_some_iff (hr : lib.Reached S start r) {v : UInt64} :
    lib.count? r series = some v ↔ (series, v) ∈ lib.gather r :=
  find?_key_eq_some_iff (h.once r hr)

/-! ### A step -/

theorem count?_increase (hr : lib.Reached S start r) (hseries : S series) (n : Nat)
    (other : Series) : lib.count? (lib.increase r series n.toUInt64) other =
      if series = other then plus (lib.count? r other) n else lib.count? r other := by
  split
  · rename_i hsame
    subst hsame
    cases hcount : lib.count? r series with
    | none => rw [h.made r series _ hr hseries hcount, plus, Option.getD_none, UInt64.zero_add]
    | some v => rw [h.added r series _ v hr hseries hcount, plus, Option.getD_some]
  · exact h.untouched r series _ other hr hseries ‹_›

/-- Adding one thing after another leaves each series with what has been added to it. -/
theorem count?_foldl_increase (increments : List (Series × Nat)) (hr : lib.Reached S start r)
    (hseries : ∀ i ∈ increments, S i.1) (series : Series) :
    lib.Reached S start
        (increments.foldl (fun r i => lib.increase r i.1 i.2.toUInt64) r) ∧
      lib.count? (increments.foldl (fun r i => lib.increase r i.1 i.2.toUInt64) r) series =
        ((increments.filter fun i => i.1 == series).map (·.2)).foldl plus
          (lib.count? r series) := by
  induction increments generalizing r with
  | nil => exact ⟨hr, rfl⟩
  | cons i rest ih =>
      obtain ⟨hi, hrest⟩ := List.forall_mem_cons.1 hseries
      obtain ⟨hreached, hcount⟩ := ih (hr.increase hi i.2.toUInt64) hrest
      refine ⟨hreached, ?_⟩
      rw [List.foldl_cons, hcount, h.count?_increase hr hi, List.filter_cons]
      by_cases hkey : i.1 = series
      · simp [hkey]
      · simp [hkey]

theorem count?_observe (o : Observation) (hr : lib.Reached S start r)
    (ho : ∀ series n, o.share series = some n → S series) (series : Series) :
    lib.Reached S start (lib.observe r o) ∧ lib.count? (lib.observe r o) series =
      (o.share series).toList.foldl plus (lib.count? r series) := by
  rw [observe, ← o.filter_increments]
  exact h.count?_foldl_increase _ hr
    (fun i hi => ho i.1 i.2 (Observation.share_of_mem_increments hi)) series

/-! ### A history -/

theorem count?_foldl_observe (history : List Observation) (hr : lib.Reached S start r)
    (hhistory : ∀ series, Observation.Touched history series → S series) (series : Series) :
    lib.Reached S start (history.foldl lib.observe r) ∧
      lib.count? (history.foldl lib.observe r) series =
        (history.filterMap (Observation.share series)).foldl plus (lib.count? r series) := by
  -- The registry that a history starts from varies, since its first observation changes it.
  induction history generalizing r with
  | nil => exact ⟨hr, rfl⟩
  | cons o rest ih =>
      obtain ⟨hreached, hcount⟩ := h.count?_observe o hr
        (fun series n hshare => hhistory series ⟨o, List.mem_cons_self, n, hshare⟩) series
      obtain ⟨hend, hrest⟩ := ih hreached fun series ⟨o, ho, hshare⟩ =>
        hhistory series ⟨o, List.mem_cons_of_mem _ ho, hshare⟩
      refine ⟨hend, ?_⟩
      rw [List.foldl_cons, hrest, hcount, List.filterMap_cons]
      cases o.share series with
      | none => rfl
      | some n => rfl

end Documented

theorem foldl_plus_some (shares : List Nat) (v : UInt64) :
    shares.foldl plus (some v) = some (v + shares.sum.toUInt64) := by
  induction shares generalizing v with
  | nil => simp
  | cons n rest ih =>
      have hsum : (n + rest.sum).toUInt64 = n.toUInt64 + rest.sum.toUInt64 := UInt64.ofNat_add _ _
      rw [List.foldl_cons, plus, ih, List.sum_cons, hsum, Option.getD_some, UInt64.add_assoc]

theorem foldl_plus_none (shares : List Nat) :
    shares.foldl plus none = if shares = [] then none else some shares.sum.toUInt64 := by
  cases shares with
  | nil => rfl
  | cons n rest =>
      -- A series that begins to exist is as good as one that has counted nought.
      have hstart : plus none n = plus (some 0) n := rfl
      have hzero (v : UInt64) : 0 + v = v := UInt64.zero_add v
      rw [List.foldl_cons, hstart, ← List.foldl_cons, foldl_plus_some, hzero,
        if_neg (List.cons_ne_nil n rest)]

namespace Documented

variable {history : List Observation} (h : lib.Documented S start)

include h

theorem reached_history (hhistory : ∀ series, Observation.Touched history series → S series) :
    lib.Reached S start (history.foldl lib.observe start) :=
  (h.count?_foldl_observe history .start hhistory ⟨.responseItems, "", "", none⟩).1

/-- After a history the series are those that it touches, and each counts the sum of its shares, up
to multiples of what counts can hold. -/
theorem count?_history (hhistory : ∀ series, Observation.Touched history series → S series)
    (series : Series) : lib.count? (history.foldl lib.observe start) series =
      if history.filterMap (Observation.share series) = [] then none
      else some (Observation.total history series).toUInt64 := by
  have hnone : lib.count? start series = none := by
    rw [count?, h.fresh]
    rfl
  rw [(h.count?_foldl_observe history .start hhistory series).2, hnone, foldl_plus_none]
  rfl

/-- Counts that fit are exact. -/
theorem mem_history_iff (hhistory : ∀ series, Observation.Touched history series → S series)
    {v : UInt64} (hfits : Observation.total history series < 2 ^ 64) :
    (series, v) ∈ lib.gather (history.foldl lib.observe start) ↔
      Observation.Touched history series ∧ v.toNat = Observation.total history series := by
  have hexact : (Observation.total history series).toUInt64 = v ↔
      v.toNat = Observation.total history series := by
    constructor
    · rintro rfl
      exact UInt64.toNat_ofNat_of_lt' hfits
    · intro hv
      rw [← hv]
      exact UInt64.ofNat_toNat
  rw [← h.count?_eq_some_iff (h.reached_history hhistory), h.count?_history hhistory,
    Option.ite_none_left_eq_some, Option.some_inj, hexact, Observation.filterMap_share_eq_nil_iff,
    not_not]

end Documented

/-- Counters add up, in any library that does with single counters what is documented. A series
exists if and only if some observation with the labels of the series, as labels are written in
counters, touches it, adding nought included; its count is the sum of the numbers that these
observations have for its family and its action. No series exists twice, and there are the same
series with the same counts for every history that has the same summaries for the same labels, in
whatever order and however the labels are written. -/
theorem counters_add_up {history : List Observation}
    (hlib : lib.Documented (Observation.Touched history) start)
    (hfits : ∀ series, Observation.total history series < 2 ^ 64) :
    (∀ series v, (series, v) ∈ lib.gather (history.foldl lib.observe start) ↔
      Observation.Touched history series ∧ v.toNat = Observation.total history series) ∧
    ((lib.gather (history.foldl lib.observe start)).map (·.1)).Nodup ∧
    ∀ history' : List Observation,
      (history'.map Observation.labelled).Perm (history.map Observation.labelled) →
        (lib.gather (history'.foldl lib.observe start)).Perm
          (lib.gather (history.foldl lib.observe start)) := by
  have hall (series : Series) (v : UInt64) := hlib.mem_history_iff (v := v) (fun _ => id)
    (hfits series)
  have hnodup := hlib.once _ (hlib.reached_history fun _ => id)
  refine ⟨hall, hnodup, fun history' hsame => ?_⟩
  have htouched := Observation.touched_congr hsame
  have hreached : lib.Reached (Observation.Touched history) start
      (history'.foldl lib.observe start) := hlib.reached_history fun series => (htouched series).1
  refine (List.perm_ext_iff_of_nodup (.of_map _ (hlib.once _ hreached)) (.of_map _ hnodup)).2 ?_
  rintro ⟨series, v⟩
  have htotal : Observation.total history' series = Observation.total history series :=
    (Observation.perm_filterMap_share hsame series).sum_nat
  rw [hall, hlib.mem_history_iff (fun series => (htouched series).1) (htotal ▸ hfits series),
    htouched, htotal]

/-- Two visits of one shop, whose labels are written in two ways. -/
def twoVisits : List Observation :=
  [⟨" Shop", "", { constraintIncludeTags := ["red"], rulePinCount := 2, finalCount := 3 }⟩,
    ⟨"shop", "Default ", { rulePinCount := 1, rulePinExposure := 1, finalCount := 4 }⟩]

def firstRegistry : Registry := { names := (Family.all.map Family.name).reverse }

theorem tellsApart_twoVisits :
    Registry.TellsApart fnv1a (Observation.Touched twoVisits) := by
  have hkinds : ∀ a ∈ countedKinds, ∀ b ∈ countedKinds,
      Registry.key fnv1a ⟨a.1, "shop", "default", a.2⟩ =
        Registry.key fnv1a ⟨b.1, "shop", "default", b.2⟩ → a = b := by
    decide +kernel
  have hlabels : ∀ o ∈ twoVisits, normalLabel o.space = "shop" ∧
      normalLabel o.surface = "default" := by
    decide +kernel
  have htouched (s : Series) (h : Observation.Touched twoVisits s) :
      s.kind ∈ countedKinds ∧ s.space = "shop" ∧ s.surface = "default" := by
    obtain ⟨o, ho, n, hshare⟩ := h
    rw [Observation.share, Option.ite_none_right_eq_some] at hshare
    obtain ⟨⟨hspace, hsurface⟩, hkind⟩ := hshare
    obtain ⟨hshop, hdefault⟩ := hlabels o ho
    exact ⟨PolicySummary.mem_countedKinds hkind, hspace.symm.trans hshop,
      hsurface.symm.trans hdefault⟩
  rintro ⟨family, space, surface, action⟩ ⟨family', space', surface', action'⟩ hs ht hkey
  obtain ⟨hkind, rfl, rfl⟩ := htouched _ hs
  obtain ⟨hkind', rfl, rfl⟩ := htouched _ ht
  obtain ⟨rfl, rfl⟩ := Prod.mk.inj (hkinds _ hkind _ hkind' hkey)
  rfl

/-- The two visits are counted together. -/
theorem counters_add_up_twoVisits :
    (Registry.library fnv1a).registerAll {} = .ok firstRegistry ∧
      (Registry.library fnv1a).Documented (Observation.Touched twoVisits) firstRegistry ∧
      (∀ series, Observation.total twoVisits series < 2 ^ 64) ∧
      ∃ counted, counted = (Registry.library fnv1a).gather
          (twoVisits.foldl (Registry.library fnv1a).observe firstRegistry) ∧
        (⟨.responseItems, "shop", "default", none⟩, 7) ∈ counted ∧
        (⟨.ruleZeroEffect, "shop", "default", some .pin⟩, 1) ∈ counted ∧
        (⟨.includeFilterDropped, "shop", "default", none⟩, 0) ∈ counted ∧
        ((Registry.library fnv1a).gather
          (twoVisits.reverse.foldl (Registry.library fnv1a).observe firstRegistry)).Perm counted := by
  have hkinds : ∀ o ∈ twoVisits, ∀ kind ∈ countedKinds, (o.summary.share kind).getD 0 ≤ 4 := by
    decide
  have hshares : ∀ o ∈ twoVisits, ∀ kind n, o.summary.share kind = some n → n ≤ 4 := by
    intro o ho kind n hshare
    simpa [hshare] using hkinds o ho kind (PolicySummary.mem_countedKinds hshare)
  have hfits (series : Series) : Observation.total twoVisits series < 2 ^ 64 :=
    (Observation.total_le hshares series).trans_lt (by decide)
  have hlib : (Registry.library fnv1a).Documented (Observation.Touched twoVisits) firstRegistry :=
    Registry.documented tellsApart_twoVisits rfl
  obtain ⟨hcounts, -, horder⟩ := counters_add_up hlib hfits
  refine ⟨rfl, hlib, hfits, _, rfl, ?_, ?_, ?_,
    horder _ ((List.reverse_perm _).map _)⟩
  · exact (hcounts _ _).2 ⟨⟨_, List.mem_cons_self, 3, by decide +kernel⟩, by decide +kernel⟩
  · exact (hcounts _ _).2 ⟨⟨_, List.mem_cons_self, 1, by decide +kernel⟩, by decide +kernel⟩
  · exact (hcounts _ _).2 ⟨⟨_, List.mem_cons_self, 0, by decide +kernel⟩, by decide +kernel⟩

end CounterLibrary

end Recommendation
