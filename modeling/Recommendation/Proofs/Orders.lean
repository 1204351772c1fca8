import Recommendation.Diversity
import Recommendation.Proofs.Sorting
import Recommendation.Store.Snapshot

/-!
The orders that lists are put in are total, and a part of each that is an identifier
tells elements apart that agree in everything else.
-/

namespace Recommendation

open Time (Instant)

instance : Std.TransOrd Instant :=
  inferInstanceAs (Std.TransCmp (compareLex (compareOn Instant.seconds) (compareOn Instant.nanos)))

instance : Std.LawfulEqOrd Instant where
  eq_of_compare {a b} h := by
    obtain ⟨hseconds, hnanos⟩ := Ordering.then_eq_eq.1 h
    obtain ⟨seconds, nanos⟩ := a
    obtain ⟨seconds', nanos'⟩ := b
    exact congrArg₂ Instant.mk (Std.LawfulEqOrd.eq_of_compare hseconds)
      (Std.LawfulEqOrd.eq_of_compare hnanos)

theorem Time.Instant.compare_eq_lt_iff {a b : Instant} : compare a b = .lt ↔ a < b := by
  have hcompare : compare a b = (compare a.seconds b.seconds).then (compare a.nanos b.nanos) := rfl
  rw [hcompare, Ordering.then_eq_lt, Std.compare_eq_lt, Std.compare_eq_lt, Std.compare_eq_iff_eq,
    Instant.lt_iff]

theorem Time.Instant.isLE_compare_iff {a b : Instant} : (compare a b).isLE = true ↔ a ≤ b := by
  rw [← Ordering.ne_gt_iff_isLE, Std.OrientedCmp.gt_iff_lt, Instant.compare_eq_lt_iff]
  exact Iff.rfl

theorem compare_text_eq_lt_iff {x y : String} : compare x y = .lt ↔ x < y :=
  compareOfLessAndEq_eq_lt

theorem isLE_compare_text_iff {x y : String} : (compare x y).isLE = true ↔ x ≤ y :=
  isLE_compareOfLessAndEq String.le_antisymm String.not_le String.le_total

/-- Later ones first, and of those at one time the smaller text. -/
theorem latestFirst_eq_lt_iff {t t' : Instant} {x y : String} :
    (compare t' t).then (compare x y) = .lt ↔ t' < t ∨ t' = t ∧ x < y := by
  rw [Ordering.then_eq_lt, Instant.compare_eq_lt_iff, Std.compare_eq_iff_eq, compare_text_eq_lt_iff]

theorem isLE_latestFirst_iff {t t' : Instant} {x y : String} :
    ((compare t' t).then (compare x y)).isLE = true ↔ t' < t ∨ t' = t ∧ x ≤ y := by
  rw [Ordering.isLE_then_iff_or, Instant.compare_eq_lt_iff, Std.compare_eq_iff_eq,
    isLE_compare_text_iff]

instance : Std.TransOrd Identifier :=
  inferInstanceAs (Std.TransCmp (compareOn fun id : Identifier => id.bits.toNat))

instance : Std.LawfulEqOrd Identifier where
  eq_of_compare {a b} h := by
    have hbits : a.bits.toNat = b.bits.toNat := Std.LawfulEqOrd.eq_of_compare h
    obtain ⟨bits⟩ := a
    obtain ⟨bits'⟩ := b
    exact congrArg Identifier.mk (BitVec.eq_of_toNat_eq hbits)

theorem transCmp_on {α β : Type} (order : β → β → Ordering) [Std.TransCmp order] (f : α → β) :
    Std.TransCmp fun a b => order (f a) (f b) where
  eq_swap := Std.OrientedCmp.eq_swap
  isLE_trans := Std.TransCmp.isLE_trans

instance : Std.TransCmp (Score.order : Float → Float → Ordering) :=
  inferInstanceAs (Std.TransCmp (compareOn floatRank))

/-- No two doubles have one place. -/
theorem floatRank_injective : Function.Injective floatRank := by
  intro x y h
  have hx := x.toBits.toNat_lt
  have hy := y.toBits.toNat_lt
  have hbits : x.toBits.toNat = y.toBits.toNat := by
    simp only [floatRank] at h
    split at h <;> split at h <;> omega
  obtain ⟨⟨bits, _⟩⟩ := x
  obtain ⟨⟨bits', _⟩⟩ := y
  obtain rfl : bits = bits' := UInt64.toNat_inj.1 hbits
  rfl

instance : Std.LawfulEqCmp floatOrder where
  compare_self := Std.compare_eq_iff_eq.2 rfl
  eq_of_compare h := floatRank_injective (Std.compare_eq_iff_eq.1 h)

theorem transCmp_latestFirst {α : Type} (time : α → Instant) (text : α → String) :
    Std.TransCmp fun a b : α => (compare (time b) (time a)).then (compare (text a) (text b)) :=
  have : Std.TransCmp fun a b : α => compare (time b) (time a) :=
    @Std.TransCmp.opposite _ (compareOn time) _
  inferInstanceAs (Std.TransCmp
    (compareLex (fun a b : α => compare (time b) (time a)) (compareOn text)))

/-! ### Rules -/

instance : Std.TransCmp Rule.order :=
  have : Std.TransCmp fun a b : Rule => compare b.priority a.priority :=
    @Std.TransCmp.opposite _ (compareOn Rule.priority) _
  inferInstanceAs (Std.TransCmp
    (compareLex (fun a b : Rule => compare b.priority a.priority) (compareOn Rule.id)))

theorem Rule.id_eq_of_order {a b : Rule} (h : Rule.order a b = .eq) : a.id = b.id :=
  Std.LawfulEqOrd.eq_of_compare (Ordering.then_eq_eq.1 h).2

theorem Rule.sort_congr {rules rules' : List Rule} (hperm : rules.Perm rules')
    (h : (rules.map (·.id)).Nodup) : Rule.sort rules = Rule.sort rules' :=
  sortWith_eq_of_perm _ hperm fun _ ha _ hb heq =>
    List.inj_on_of_nodup_map h ha hb (Rule.id_eq_of_order heq)

/-! ### Items -/

instance : Std.TransCmp Item.newestOrder := transCmp_latestFirst Item.createdAt Item.id

theorem Item.id_eq_of_newestOrder {a b : Item} (h : Item.newestOrder a b = .eq) : a.id = b.id :=
  Std.LawfulEqOrd.eq_of_compare (Ordering.then_eq_eq.1 h).2

/-! ### Rows that reads hand back -/

instance : Std.TransCmp HoldoutSample.order := transCmp_latestFirst HoldoutSample.time _

theorem HoldoutSample.userId_eq_of_order {a b : HoldoutSample} (h : HoldoutSample.order a b = .eq) :
    a.userId = b.userId :=
  Std.LawfulEqOrd.eq_of_compare (Ordering.then_eq_eq.1 h).2

instance : Std.TransCmp CoVisitor.order :=
  have : Std.TransCmp fun a b : CoVisitor => floatOrder b.count a.count :=
    @Std.TransCmp.opposite _ _
      (transCmp_on (Score.order : Float → Float → Ordering) CoVisitor.count)
  inferInstanceAs (Std.TransCmp
    (compareLex (fun a b : CoVisitor => floatOrder b.count a.count) (compareOn CoVisitor.itemId)))

theorem CoVisitor.order_eq_lt_iff {a b : CoVisitor} : CoVisitor.order a b = .lt ↔
    floatOrder b.count a.count = .lt ∨ b.count = a.count ∧ a.itemId < b.itemId := by
  rw [order, Ordering.then_eq_lt, Std.LawfulEqCmp.compare_eq_iff_eq, compare_text_eq_lt_iff]

theorem CoVisitor.itemId_eq_of_order {a b : CoVisitor} (h : CoVisitor.order a b = .eq) :
    a.itemId = b.itemId :=
  Std.LawfulEqOrd.eq_of_compare (Ordering.then_eq_eq.1 h).2

instance {α : Type} [Score α] [Std.TransCmp (Score.order : α → α → Ordering)] :
    Std.TransCmp (PopularItem.order : PopularItem α → PopularItem α → Ordering) :=
  have : Std.TransCmp fun a b : PopularItem α => Score.order b.score a.score :=
    @Std.TransCmp.opposite _ _ (transCmp_on (Score.order : α → α → Ordering) PopularItem.score)
  have : Std.TransCmp fun a b : PopularItem α => compare b.lastTime a.lastTime :=
    @Std.TransCmp.opposite _ (compareOn PopularItem.lastTime) _
  inferInstanceAs (Std.TransCmp (compareLex (compareLex
    (fun a b : PopularItem α => Score.order b.score a.score)
    (fun a b : PopularItem α => compare b.lastTime a.lastTime))
    (compareOn PopularItem.itemId)))

theorem PopularItem.order_eq_lt_iff {a b : PopularItem Float} : PopularItem.order a b = .lt ↔
    floatOrder b.score a.score = .lt ∨ b.score = a.score ∧
      (b.lastTime < a.lastTime ∨ b.lastTime = a.lastTime ∧ a.itemId < b.itemId) := by
  have horder : PopularItem.order a b = (floatOrder b.score a.score).then
      ((compare b.lastTime a.lastTime).then (compare a.itemId b.itemId)) :=
    Ordering.then_assoc ..
  rw [horder, Ordering.then_eq_lt, Std.LawfulEqCmp.compare_eq_iff_eq, latestFirst_eq_lt_iff]

theorem PopularItem.itemId_eq_of_order {α : Type} [Score α] {a b : PopularItem α} (h : PopularItem.order a b = .eq) :
    a.itemId = b.itemId :=
  Std.LawfulEqOrd.eq_of_compare (Ordering.then_eq_eq.1 h).2

/-! ### Candidates -/

instance : Std.TransCmp Candidate.recencyOrder where
  eq_swap {a b} := by
    cases a with
    | none => cases b <;> rfl
    | some a =>
        cases b with
        | none => rfl
        | some b =>
            have hswap : compare b a = (compare a b).swap := Std.OrientedCmp.eq_swap
            exact hswap
  isLE_trans {a b c} hab hbc := by
    cases c with
    | none => cases a <;> rfl
    | some c =>
        cases b with
        | none => cases hbc
        | some b =>
            cases a with
            | none => cases hab
            | some a =>
                have hba : (compare b a).isLE := hab
                have hcb : (compare c b).isLE := hbc
                have hca : (compare c a).isLE := Std.TransCmp.isLE_trans hcb hba
                exact hca

section Candidates

variable {α : Type} [Score α] [Std.TransCmp (Score.order (α := α))]

instance : Std.TransCmp (Candidate.rankOrder (α := α)) :=
  have : Std.TransCmp fun a b : Candidate α => Score.order b.score a.score :=
    @Std.TransCmp.opposite _ _ (transCmp_on Score.order Candidate.score)
  have : Std.TransCmp fun a b : Candidate α => Candidate.recencyOrder a.lastTime b.lastTime :=
    transCmp_on Candidate.recencyOrder Candidate.lastTime
  inferInstanceAs (Std.TransCmp (compareLex (compareLex
    (fun a b : Candidate α => Score.order b.score a.score)
    (fun a b : Candidate α => Candidate.recencyOrder a.lastTime b.lastTime))
    (compareOn Candidate.id)))

omit [Std.TransCmp (Score.order (α := α))] in
theorem Candidate.id_eq_of_rankOrder {a b : Candidate α} (h : Candidate.rankOrder a b = .eq) :
    a.id = b.id :=
  Std.LawfulEqOrd.eq_of_compare (Ordering.then_eq_eq.1 h).2

instance : Std.TransCmp (pinOrder (α := α)) :=
  have : Std.TransCmp fun a b : Candidate α =>
      compare ((b.pin.map (·.priority)).getD 0) ((a.pin.map (·.priority)).getD 0) :=
    @Std.TransCmp.opposite _ (compareOn fun c : Candidate α => (c.pin.map Pin.priority).getD 0) _
  inferInstanceAs (Std.TransCmp (compareLex (compareLex
    (compareOn fun c : Candidate α => (c.pin.map (·.position)).getD 0)
    (fun a b : Candidate α =>
      compare ((b.pin.map (·.priority)).getD 0) ((a.pin.map (·.priority)).getD 0)))
    Candidate.rankOrder))

end Candidates

end Recommendation
