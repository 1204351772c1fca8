import Mathlib.Data.List.Nodup
import Recommendation.Metrics.Registry
import Recommendation.Proofs.Dictionary
import Recommendation.Proofs.Sorting

/-!
Libraries of counters. Nothing is assumed of a library but what is documented of single calls, and
that only for series of a kind. A registry that keeps counters under a hash does it for all series
that its hash tells apart.
-/

namespace Recommendation

def look (entries : List (Series × UInt64)) (series : Series) : Option UInt64 :=
  (entries.find? fun e => e.1 == series).map (·.2)

namespace CounterLibrary

variable {ρ : Type}

/-- The count of a series that exists. -/
def count? (lib : CounterLibrary ρ) (r : ρ) (series : Series) : Option UInt64 :=
  look (lib.gather r) series

/-- Registries that come from one by adding to series of a kind. -/
inductive Reached (lib : CounterLibrary ρ) (S : Series → Prop) (start : ρ) : ρ → Prop
  | start : Reached lib S start start
  | increase {r series} (h : Reached lib S start r) (hseries : S series) (n : UInt64) :
      Reached lib S start (lib.increase r series n)

/-- What is documented of a library of counters, asked of it as long as only series of a kind are
added to. -/
structure Documented (lib : CounterLibrary ρ) (S : Series → Prop) (start : ρ) : Prop where
  /-- No counter is there before it has been asked for. -/
  fresh : lib.gather start = []
  /-- A counter that is asked for the first time is made, and starts at nought. -/
  made : ∀ r series n, lib.Reached S start r → S series → lib.count? r series = none →
    lib.count? (lib.increase r series n) series = some n
  /-- What is added to a counter is added to its count. -/
  added : ∀ r series n v, lib.Reached S start r → S series → lib.count? r series = some v →
    lib.count? (lib.increase r series n) series = some (v + n)
  /-- Other counters stay as they are. -/
  untouched : ∀ r series n other, lib.Reached S start r → S series → series ≠ other →
    lib.count? (lib.increase r series n) other = lib.count? r other
  /-- What is gathered has each counter once. -/
  once : ∀ r, lib.Reached S start r → ((lib.gather r).map (·.1)).Nodup

end CounterLibrary

/-! ### Registries with a hash -/

namespace Registry

variable {hash : String → UInt64} {S : Series → Prop} {counters : List (Series × UInt64)}
  {series : Series}

/-- Series of a kind have counters of their own. -/
def TellsApart (hash : String → UInt64) (S : Series → Prop) : Prop :=
  ∀ s t, S s → S t → key hash s = key hash t → s = t

/-- The counters are for series of a kind, and none for the same as another. -/
structure Sound (S : Series → Prop) (counters : List (Series × UInt64)) : Prop where
  kind : ∀ e ∈ counters, S e.1
  distinct : (counters.map (·.1)).Nodup

theorem look_add (hhash : TellsApart hash S) (hseries : S series) (h : ∀ e ∈ counters, S e.1)
    (n : UInt64) (other : Series) : look (add hash series n counters) other =
      if series = other then some ((look counters other).getD 0 + n) else look counters other := by
  induction counters with
  | nil =>
      by_cases hother : series = other
      · simp [add, look, hother]
      · simp [add, look, hother]
  | cons e rest ih =>
      obtain ⟨s, v⟩ := e
      obtain ⟨hs, hrest⟩ := List.forall_mem_cons.1 h
      have ih := ih hrest
      simp only [look] at ih
      have hkey : key hash s = key hash series ↔ s = series :=
        ⟨hhash s series hs hseries, congrArg _⟩
      by_cases hsame : s = series
      · subst hsame
        by_cases hother : s = other
        · simp [add, look, hother]
        · simp [add, look, hother]
      · by_cases hother : s = other
        · subst hother
          simp [add, look, hkey, hsame, Ne.symm hsame]
        · simp [add, look, hkey, hsame, hother, ih]

theorem keys_add (hhash : TellsApart hash S) (hseries : S series) (h : ∀ e ∈ counters, S e.1)
    (n : UInt64) : (add hash series n counters).map (·.1) =
      if series ∈ counters.map (·.1) then counters.map (·.1)
      else counters.map (·.1) ++ [series] := by
  induction counters with
  | nil => rfl
  | cons e rest ih =>
      obtain ⟨s, v⟩ := e
      obtain ⟨hs, hrest⟩ := List.forall_mem_cons.1 h
      have hkey : key hash s = key hash series ↔ s = series :=
        ⟨hhash s series hs hseries, congrArg _⟩
      rw [add]
      by_cases hsame : s = series
      · simp [hsame]
      · rw [if_neg (mt hkey.1 hsame), List.map_cons, ih hrest, List.map_cons]
        by_cases hmem : series ∈ rest.map (·.1)
        · rw [if_pos hmem, if_pos (List.mem_cons_of_mem s hmem)]
        · rw [if_neg hmem, if_neg (List.not_mem_cons_of_ne_of_not_mem (Ne.symm hsame) hmem),
            List.cons_append]

theorem Sound.add (h : Sound S counters) (hhash : TellsApart hash S) (hseries : S series)
    (n : UInt64) : Sound S (add hash series n counters) := by
  have hkeys := keys_add hhash hseries h.kind n
  constructor
  · intro e he
    have hmem : e.1 ∈ (Registry.add hash series n counters).map (·.1) := List.mem_map_of_mem he
    rw [hkeys] at hmem
    have hold : e.1 ∈ counters.map (·.1) ∨ e.1 = series := by
      split at hmem
      · exact .inl hmem
      · simpa using List.mem_append.1 hmem
    rcases hold with hold | hnew
    · obtain ⟨e', he', heq⟩ := List.mem_map.1 hold
      exact heq ▸ h.kind e' he'
    · exact hnew ▸ hseries
  · rw [hkeys]
    split
    · exact h.distinct
    · rename_i hnew
      exact List.concat_eq_append ▸ List.Nodup.concat hnew h.distinct

theorem Sound.count?_eq {r : Registry} (h : Sound S r.counters) (series : Series) :
    (library hash).count? r series = look r.counters series :=
  (find?_key_congr (sortWith_perm _ _).symm h.distinct series).symm

theorem sound_of_reached (hhash : TellsApart hash S) {start r : Registry}
    (hstart : start.counters = []) (h : (library hash).Reached S start r) :
    Sound S r.counters := by
  induction h with
  | start =>
      rw [hstart]
      exact ⟨List.forall_mem_nil _, .nil⟩
  | increase _ hseries n ih => exact ih.add hhash hseries n

/-- A registry does what is documented for all series that its hash tells apart. -/
theorem documented (hhash : TellsApart hash S) {start : Registry} (hstart : start.counters = []) :
    (library hash).Documented S start := by
  have hcount (r : Registry) (series : Series) (n : UInt64) (other : Series)
      (hr : (library hash).Reached S start r) (hseries : S series) :
      (library hash).count? ((library hash).increase r series n) other =
        if series = other then some (((library hash).count? r other).getD 0 + n)
        else (library hash).count? r other := by
    have hsound := sound_of_reached hhash hstart hr
    rw [(sound_of_reached hhash hstart (hr.increase hseries n)).count?_eq, hsound.count?_eq]
    exact look_add hhash hseries hsound.kind n other
  refine ⟨?_, fun r series n hr hseries hnone => ?_, fun r series n v hr hseries hsome => ?_,
    fun r series n other hr hseries hother => ?_, fun r hr => ?_⟩
  · show sortWith _ start.counters = []
    rw [hstart]
    rfl
  · rw [hcount r series n series hr hseries, if_pos rfl, hnone, Option.getD_none,
      UInt64.zero_add]
  · rw [hcount r series n series hr hseries, if_pos rfl, hsome, Option.getD_some]
  · rw [hcount r series n other hr hseries, if_neg hother]
  · have hperm : r.gather.Perm r.counters := sortWith_perm _ _
    exact (hperm.map _).nodup_iff.2 (sound_of_reached hhash hstart hr).distinct

end Registry

end Recommendation
