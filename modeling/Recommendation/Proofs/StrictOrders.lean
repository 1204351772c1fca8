import Recommendation.Proofs.Orders
import Recommendation.Signal.CandidateSet

/-!
The orders that candidates, proposals and popular items are put in. Each compares scores by all of
their bits, then times or places where it has any, and identifiers at last, so it puts things with
different identifiers in one strict order. Whether a score is infinite, a nought below nought or no
number at all does not matter, nor whether a time is there.
-/

namespace Recommendation

open Time (Instant)

/-! ### Scores by their bits -/

/-- The place of a double among all doubles, by its bits. Below nought the bits count backwards, and
what is no number has a place beyond infinity, on the side of its sign and by its payload. -/
def bitsRank (bits : UInt64) : Int :=
  if bits.toNat < 0x8000000000000000 then (bits.toNat : Int)
  else 0x7fffffffffffffff - (bits.toNat : Int)

def OrdersByBits {α : Type} [Score α] (bits : α → UInt64) : Prop :=
  ∀ x y : α, Score.order x y = compare (bitsRank (bits x)) (bitsRank (bits y))

theorem ordersByBits_float : OrdersByBits Float.toBits := fun _ _ => rfl

theorem OrdersByBits.transCmp {α : Type} [Score α] {bits : α → UInt64} (h : OrdersByBits bits) :
    Std.TransCmp (Score.order : α → α → Ordering) := by
  have hplaces : Std.TransCmp fun x y : α => compare (bitsRank (bits x)) (bitsRank (bits y)) :=
    inferInstanceAs (Std.TransCmp (compareOn fun x : α => bitsRank (bits x)))
  have horder : (Score.order : α → α → Ordering) =
      fun x y => compare (bitsRank (bits x)) (bitsRank (bits y)) :=
    funext fun x => funext fun y => h x y
  rwa [horder]

/-- A double with all of its bits. Of those that are no number there are many, and they differ in
sign and payload. -/
structure RawDouble where
  bits : UInt64

namespace RawDouble

def number (x : RawDouble) : Float := .ofBits x.bits

def ofNumber (x : Float) : RawDouble := ⟨x.toBits⟩

/-- What is no number has the same bits whenever an operation makes it. -/
instance : Score RawDouble where
  add x y := ofNumber (x.number + y.number)
  sub x y := ofNumber (x.number - y.number)
  mul x y := ofNumber (x.number * y.number)
  div x y := ofNumber (x.number / y.number)
  ofFloat := ofNumber
  ofNat n := ofNumber (Score.ofNat n)
  below x y := Score.below x.number y.number
  order x y := compare (bitsRank x.bits) (bitsRank y.bits)
  isFinite x := x.number.isFinite

theorem ordersByBits : OrdersByBits bits := fun _ _ => rfl

end RawDouble

/-! ### Strict orders -/

/-- A comparison puts the elements of a list in a strict order, in which of any two different ones
one comes first. So there is one way to put them in order, whichever way they are sorted. -/
structure OrdersStrictly {β : Type} (order : β → β → Ordering) (xs : List β) : Prop where
  eq_iff : ∀ a ∈ xs, ∀ b ∈ xs, order a b = .eq ↔ a = b
  antisymm : ∀ a ∈ xs, ∀ b ∈ xs, order a b = .gt ↔ order b a = .lt
  trans : ∀ a ∈ xs, ∀ b ∈ xs, ∀ c ∈ xs, order a b = .lt → order b c = .lt → order a c = .lt
  total : ∀ a ∈ xs, ∀ b ∈ xs, a ≠ b → order a b = .lt ∨ order b a = .lt
  ascending : (sortWith order xs).Pairwise fun a b => order a b = .lt
  sortWith_eq : ∀ ys, ys.Perm xs → sortWith order ys = sortWith order xs
  eq_sortWith : ∀ ys, ys.Perm xs → (ys.Pairwise fun a b => (order a b).isLE = true) →
    ys = sortWith order xs

/-- A total order that tells different keys apart is strict on elements with different keys. -/
theorem ordersStrictly_of_nodup {β : Type} (order : β → β → Ordering) [Std.TransCmp order]
    {key : β → String} {xs : List β} (h : (xs.map key).Nodup)
    (hkey : ∀ a b, order a b = .eq → key a = key b) : OrdersStrictly order xs := by
  have heq : ∀ a ∈ xs, ∀ b ∈ xs, order a b = .eq → a = b := fun a ha b hb hab =>
    List.inj_on_of_nodup_map h ha hb (hkey a b hab)
  refine ⟨fun a ha b hb => ⟨heq a ha b hb, ?_⟩, fun a _ b _ => Std.OrientedCmp.gt_iff_lt,
    fun a _ b _ c _ => Std.TransCmp.lt_trans, fun a ha b hb hne => ?_,
    pairwise_lt_sortWith_of_nodup order hkey h, fun ys hys => ?_, fun ys hys hsorted => ?_⟩
  · rintro rfl
    exact Std.ReflCmp.compare_self
  · cases hab : order a b with
    | lt => exact .inl rfl
    | eq => exact absurd (heq a ha b hb hab) hne
    | gt => exact .inr (Std.OrientedCmp.gt_iff_lt.1 hab)
  · exact (sortWith_eq_of_perm order hys.symm heq).symm
  · have hperm := hys.trans (sortWith_perm order xs).symm
    refine hperm.eq_of_pairwise (fun a b ha hb hab hba => ?_) hsorted (pairwise_sortWith order xs)
    have hb' := (sortWith_perm order xs).subset hb
    exact heq a (hys.subset ha) b hb' (Std.OrientedCmp.isLE_antisymm hab hba)

section Orders

variable {α β : Type} [Score α]

theorem Candidate.id_eq_of_pinOrder {a b : Candidate α} (h : pinOrder a b = .eq) : a.id = b.id :=
  id_eq_of_rankOrder (Ordering.then_eq_eq.1 h).2

theorem fst_eq_of_scoreOrder {a b : String × α × β} (h : scoreOrder a b = .eq) : a.1 = b.1 :=
  Std.LawfulEqOrd.eq_of_compare (Ordering.then_eq_eq.1 h).2

instance [Std.TransCmp (Score.order : α → α → Ordering)] :
    Std.TransCmp (scoreOrder : String × α × β → String × α × β → Ordering) :=
  have : Std.TransCmp fun a b : String × α × β => Score.order b.2.1 a.2.1 :=
    @Std.TransCmp.opposite _ _ (transCmp_on Score.order fun a : String × α × β => a.2.1)
  inferInstanceAs (Std.TransCmp (compareLex
    (fun a b : String × α × β => Score.order b.2.1 a.2.1) (compareOn Prod.fst)))

/-- Candidates, proposals and popular items with different identifiers stand in one strict order
each, whichever doubles their scores are. So they are sorted into one list, in whichever order they
come. The doubles that an engine counts with are compared by their bits, too. -/
theorem rankings_order_strictly {bits : α → UInt64} (h : OrdersByBits bits) :
    OrdersByBits Float.toBits ∧
    (∀ cs : List (Candidate α), (cs.map (·.id)).Nodup →
      OrdersStrictly Candidate.rankOrder cs ∧ OrdersStrictly pinOrder cs) ∧
    (∀ (β : Type) (scored : List (String × α × β)), (scored.map (·.1)).Nodup →
      OrdersStrictly scoreOrder scored) ∧
    ∀ items : List (PopularItem α), (items.map (·.itemId)).Nodup →
      OrdersStrictly PopularItem.order items := by
  have := h.transCmp
  refine ⟨ordersByBits_float, fun cs hcs => ⟨?_, ?_⟩, fun β scored hscored => ?_, fun items hitems => ?_⟩
  · exact ordersStrictly_of_nodup _ hcs fun _ _ => Candidate.id_eq_of_rankOrder
  · exact ordersStrictly_of_nodup _ hcs fun _ _ => Candidate.id_eq_of_pinOrder
  · exact ordersStrictly_of_nodup _ hscored fun _ _ => fst_eq_of_scoreOrder
  · exact ordersStrictly_of_nodup _ hitems fun _ _ => PopularItem.itemId_eq_of_order

end Orders

/-- Candidates whose scores are hard to compare: noughts of both signs, what is no number with
either sign and several payloads, and infinity. One of them has a time. -/
def oddCandidates : List (Candidate RawDouble) :=
  [.scored "nought" ⟨0⟩, .scored "below" ⟨0x8000000000000000⟩,
    .scored "infinite" ⟨0x7ff0000000000000⟩, .scored "unknown" ⟨0x7ff8000000000000⟩,
    { Candidate.scored "marked" ⟨0x7ff8000000000001⟩ with pin := some ⟨2, -1⟩ },
    { Candidate.scored "recent" ⟨0⟩ with lastTime := some ⟨0, 0⟩ },
    .scored "negative" ⟨0xfff8000000000001⟩]

def oddProposals : List (String × RawDouble × Unit) :=
  oddCandidates.map fun c => (c.id, c.score, ())

def oddItems : List (PopularItem RawDouble) :=
  oddCandidates.map fun c => ⟨c.id, c.score, ⟨0, 0⟩⟩

theorem rankings_order_strictly_oddCandidates :
    OrdersByBits RawDouble.bits ∧ (oddCandidates.map (·.id)).Nodup ∧
      (oddProposals.map (·.1)).Nodup ∧ (oddItems.map (·.itemId)).Nodup ∧
      OrdersStrictly Candidate.rankOrder oddCandidates ∧ OrdersStrictly pinOrder oddCandidates ∧
      OrdersStrictly scoreOrder oddProposals ∧ OrdersStrictly PopularItem.order oddItems ∧
      (Candidate.rank oddCandidates).map (·.id) =
        ["marked", "unknown", "infinite", "recent", "nought", "below", "negative"] := by
  have hids : (oddCandidates.map (·.id)).Nodup := by decide
  have hproposed : (oddProposals.map (·.1)).Nodup := by decide
  have hitems : (oddItems.map (·.itemId)).Nodup := by decide
  obtain ⟨-, hcandidates, hproposals, hpopular⟩ := rankings_order_strictly RawDouble.ordersByBits
  obtain ⟨hrank, hpins⟩ := hcandidates oddCandidates hids
  exact ⟨RawDouble.ordersByBits, hids, hproposed, hitems, hrank, hpins,
    hproposals Unit oddProposals hproposed, hpopular oddItems hitems, by decide⟩

end Recommendation
