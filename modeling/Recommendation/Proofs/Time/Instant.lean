import Mathlib.Data.Set.Basic
import Mathlib.Order.Bounds.Defs
import Recommendation.Time.Instant

/-!
The order of instants, which is that of their seconds and then of their nanoseconds.
-/

namespace Recommendation.Time.Instant

theorem le_trans {a b c : Instant} (hab : a ≤ b) (hbc : b ≤ c) : a ≤ c := by
  rw [le_iff] at *
  omega

theorem lt_of_le_of_lt {a b c : Instant} (hab : a ≤ b) (hbc : b < c) : a < c := by
  rw [le_iff] at hab
  rw [lt_iff] at *
  omega

theorem le_refl (a : Instant) : a ≤ a := by
  rw [le_iff]
  exact .inr ⟨rfl, Nat.le_refl _⟩

theorem le_antisymm {a b : Instant} (hab : a ≤ b) (hba : b ≤ a) : a = b := by
  rw [le_iff] at *
  obtain ⟨seconds, nanos⟩ := a
  obtain ⟨seconds', nanos'⟩ := b
  dsimp only at *
  congr 1 <;> omega

theorem le_later_left (a b : Instant) : a ≤ a.later b := by
  rw [later]
  split
  · rename_i hlt
    rw [lt_iff] at hlt
    rw [le_iff]
    omega
  · exact le_refl a

theorem le_later_right (a b : Instant) : b ≤ a.later b := by
  rw [later]
  split
  · exact le_refl b
  · rename_i hnot
    exact hnot

theorem later_eq_or (a b : Instant) : a.later b = a ∨ a.later b = b := by
  rw [later]
  split
  · exact .inr rfl
  · exact .inl rfl

def earlier (a b : Instant) : Instant := if a < b then a else b

theorem earlier_le_left (a b : Instant) : earlier a b ≤ a := by
  rw [earlier, le_iff]
  split
  · omega
  · rename_i hnot
    rw [lt_iff] at hnot
    omega

theorem earlier_le_right (a b : Instant) : earlier a b ≤ b := by
  rw [earlier, le_iff]
  split
  · rename_i hlt
    rw [lt_iff] at hlt
    omega
  · omega

theorem seconds_ofTotal (nanos : Int) : (ofTotal nanos).seconds = nanos / 1000000000 :=
  Int.fdiv_eq_ediv_of_nonneg nanos (by decide)

theorem nanos_ofTotal (nanos : Int) : ((ofTotal nanos).nanos : Int) = nanos % 1000000000 := by
  have hmod : nanos.fmod secondNanos = nanos % 1000000000 :=
    Int.fmod_eq_emod_of_nonneg nanos (by decide)
  rw [ofTotal, hmod]
  exact Int.toNat_of_nonneg (Int.emod_nonneg _ (by decide))

/-- Outside leap seconds an instant is not before the start of a span that ends at the present just
if no more nanoseconds than those of the span lie between it and the present. -/
theorem beforeMillis_le_iff {now t : Instant} (hnow : now.isLeap = false) (ht : t.isLeap = false)
    (millis : Int) : now.beforeMillis millis ≤ t ↔ now.total - t.total ≤ millis * 1000000 := by
  have hstart : now.beforeMillis millis = ofTotal (now.total + -millis * 1000000) := by
    rw [beforeMillis, after, hnow, if_neg Bool.false_ne_true]
  have hseconds := seconds_ofTotal (now.total + -millis * 1000000)
  have hnanos := nanos_ofTotal (now.total + -millis * 1000000)
  have htotal : t.total = t.seconds * 1000000000 + t.nanos := rfl
  rw [isLeap, decide_eq_false_iff_not, secondNanos] at ht
  rw [hstart, le_iff]
  omega

/-- A microsecond before an instant is before it, within a leap second too. -/
theorem microsecond_before_lt (t : Instant) : t.after (-1000) < t := by
  have hwhole : (-1000 : Int).tdiv secondNanos = 0 := rfl
  have hrest : (-1000 : Int).tmod secondNanos = -1000 := rfl
  rw [lt_iff, after]
  simp only [hwhole, hrest]
  split
  · rename_i hleap
    rw [isLeap, decide_eq_true_eq, secondNanos] at hleap
    rw [if_neg (by omega), if_neg (by omega)]
    refine .inr ⟨rfl, ?_⟩
    dsimp only
    omega
  · rename_i hleap
    rw [isLeap, decide_eq_true_eq, secondNanos] at hleap
    have hseconds := seconds_ofTotal (t.total + -1000)
    have hnanos := nanos_ofTotal (t.total + -1000)
    have htotal : t.total = t.seconds * 1000000000 + t.nanos := rfl
    omega

end Recommendation.Time.Instant

namespace Recommendation.Time

structure IsLatest (times : Set Instant) (latest : Option Instant) : Prop where
  greatest : ∀ t, latest = some t → IsGreatest times t
  empty : latest = none → times = ∅

theorem isLatest_of_option (o : Option Instant) : IsLatest {t | o = some t} o where
  greatest t ht := by
    refine ⟨ht, fun t' ht' => ?_⟩
    cases Option.some.inj (ht.symm.trans ht')
    exact Instant.le_refl t
  empty hnone := by
    subst hnone
    exact Set.eq_empty_of_forall_notMem fun t ht => nomatch ht

theorem IsLatest.laterOf {s u : Set Instant} {a b : Option Instant} (ha : IsLatest s a)
    (hb : IsLatest u b) : IsLatest (s ∪ u) (Time.laterOf a b) := by
  cases a with
  | none =>
      rw [ha.empty rfl, Set.empty_union]
      exact hb
  | some x =>
      obtain ⟨hx, hs⟩ := ha.greatest x rfl
      cases b with
      | none =>
          rw [hb.empty rfl, Set.union_empty]
          exact ha
      | some y =>
          obtain ⟨hy, hu⟩ := hb.greatest y rfl
          refine ⟨?_, nofun⟩
          rintro _ ⟨rfl⟩
          refine ⟨?_, ?_⟩
          · rcases x.later_eq_or y with hlater | hlater
            · exact .inl (hlater.symm ▸ hx)
            · exact .inr (hlater.symm ▸ hy)
          · rintro t (ht | ht)
            · exact Instant.le_trans (hs ht) (x.le_later_left y)
            · exact Instant.le_trans (hu ht) (x.le_later_right y)

end Recommendation.Time
