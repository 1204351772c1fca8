import Recommendation.Proofs.Decimal.Distinct
import Recommendation.Proofs.Json.Compact

/-!
Different values have different texts. What is written can be read again, so it is enough that the
nodes differ: the numeral of a double makes the number of its shortest decimal, which is the
double's alone, and it has a point or an exponent, which the numeral of a whole number has not.
-/

namespace Recommendation

open Time (digitsValue)

namespace Json.Numeral

/-! ### Numerals of doubles -/

def power (n : Numeral) : ℤ :=
  match n.exponent with
  | none => 0
  | some (below, digits) => if below then -(digitsValue digits : ℤ) else digitsValue digits

def value (n : Numeral) : ℚ :=
  digitsValue (n.whole ++ n.fraction) * 10 ^ (n.power - n.fraction.length)

/-- The numeral cannot be that of a whole number. -/
def IsPointed (n : Numeral) : Prop := n.fraction ≠ [] ∨ n.exponent ≠ none

end Json.Numeral

namespace Decimal

open Json (Numeral)

namespace Shortest

variable {d : Shortest} {negative : Bool}

theorem negative_numeral (d : Shortest) (negative : Bool) :
    (d.numeral negative).negative = negative := by
  rw [numeral]
  split_ifs <;> rfl

theorem isPointed_numeral (d : Shortest) (negative : Bool) : (d.numeral negative).IsPointed := by
  rw [numeral]
  split_ifs with hplain hwhole hpoint
  · exact .inl (List.cons_ne_nil _ _)
  · exact .inl (drop_toDigits_ne_nil (by omega))
  · exact .inl (List.append_ne_nil_of_right_ne_nil _ Nat.toDigits_ne_nil)
  · exact .inr (Option.some_ne_none _)

/-- In each of its forms the numeral of a decimal makes the number that the decimal is. -/
theorem value_numeral (d : Shortest) (negative : Bool) :
    (d.numeral negative).value = d.value := by
  have hdigits := Json.digitsValue_toDigits d.coefficient
  rw [numeral, Shortest.value]
  split_ifs with hplain hwhole hpoint
  · have hlast : digitsValue ['0'] = 0 := rfl
    have hpower : (10 : ℚ) ^ d.exponent.toNat = 10 ^ d.exponent := by
      rw [← zpow_natCast, Int.toNat_of_nonneg hwhole]
    rw [Numeral.value, Numeral.power]
    dsimp only
    rw [Json.digitsValue_append, Json.digitsValue_append, hdigits, Json.digitsValue_zeros, hlast,
      List.length_replicate, List.length_singleton]
    push_cast
    rw [hpower, add_zero, add_zero, zpow_neg_one]
    exact mul_inv_cancel_right₀ (by norm_num) _
  · have hplaces : (0 : ℤ) - ((Nat.toDigits 10 d.coefficient).drop
        (((Nat.toDigits 10 d.coefficient).length : ℤ) + d.exponent).toNat).length = d.exponent := by
      rw [List.length_drop]
      omega
    rw [Numeral.value, Numeral.power]
    dsimp only
    rw [List.take_append_drop, hdigits, hplaces]
  · have hplaces : (0 : ℤ) - (List.replicate
        (-(((Nat.toDigits 10 d.coefficient).length : ℤ) + d.exponent)).toNat '0' ++
          Nat.toDigits 10 d.coefficient).length = d.exponent := by
      rw [List.length_append, List.length_replicate]
      omega
    have hfirst : digitsValue ['0'] = 0 := rfl
    rw [Numeral.value, Numeral.power]
    dsimp only
    rw [hplaces, Json.digitsValue_append, Json.digitsValue_append, hdigits, Json.digitsValue_zeros,
      hfirst, Nat.zero_mul, Nat.zero_mul, Nat.zero_add, Nat.zero_add]
  · have hlength : 0 < (Nat.toDigits 10 d.coefficient).length := Nat.length_toDigits_pos
    rw [Numeral.value, Numeral.power]
    dsimp only
    rw [List.take_append_drop, hdigits, Json.digitsValue_toDigits, List.length_drop]
    congr 2
    simp only [decide_eq_true_eq]
    split_ifs <;> omega

end Shortest

/-- Finite doubles are written as different numerals. -/
theorem eq_of_numeral_eq {x y : Float} {b c : Binary} (hx : read x = .finite b)
    (hy : read y = .finite c) (h : b.numeral = c.numeral) : x = y := by
  have hsign : b.negative = c.negative := by
    rw [← b.shortest.negative_numeral b.negative, ← c.shortest.negative_numeral c.negative]
    exact congrArg Numeral.negative h
  have hvalue : b.shortest.value = c.shortest.value := by
    rw [← b.shortest.value_numeral b.negative, ← c.shortest.value_numeral c.negative]
    exact congrArg Numeral.value h
  have hbinary := Binary.eq_of_value_shortest_eq (canonical_of_read hx) (canonical_of_read hy)
    hsign hvalue
  exact eq_of_read_eq hx (hbinary ▸ hy)

end Decimal

namespace Json

/-! ### Nodes -/

theorem floatNode_eq_number {x : Float} (h : x.isFinite = true) :
    ∃ n, floatNode x = .number n ∧ n.IsPointed := by
  obtain ⟨b, hread, -⟩ := Doubles.exists_read_eq h
  refine ⟨b.numeral, ?_, b.shortest.isPointed_numeral b.negative⟩
  rw [floatNode, hread]

theorem floatNode_injOn {x y : Float} (hx : x.isFinite = true) (hy : y.isFinite = true)
    (h : floatNode x = floatNode y) : x = y := by
  obtain ⟨b, hb, -⟩ := Doubles.exists_read_eq hx
  obtain ⟨c, hc, -⟩ := Doubles.exists_read_eq hy
  rw [floatNode, floatNode, hb, hc] at h
  exact Decimal.eq_of_numeral_eq hb hc (Node.number.inj h)

theorem intNumeral_injective : Function.Injective intNumeral := by
  intro m n h
  simp only [intNumeral, Numeral.mk.injEq, decide_eq_decide] at h
  have hdigits : m.natAbs = n.natAbs := by
    rw [← digitsValue_toDigits m.natAbs, h.2.1, digitsValue_toDigits]
  omega

theorem not_isPointed_intNumeral (n : ℤ) : ¬(intNumeral n).IsPointed :=
  fun h => h.elim (fun h => h rfl) fun h => h rfl

inductive Value.IsFinite : Value → Prop
  | null : IsFinite .null
  | bool (b : Bool) : IsFinite (.bool b)
  | int (n : ℤ) : IsFinite (.int n)
  | float {x : Float} (h : x.isFinite = true) : IsFinite (.float x)
  | text (s : String) : IsFinite (.text s)
  | array {items : List Value} (h : ∀ x ∈ items, x.IsFinite) : IsFinite (.array items)
  | object {fields : List (String × Value)} (h : ∀ f ∈ fields, f.2.IsFinite) :
      IsFinite (.object fields)

theorem nodes_eq_map (items : List Value) : Value.nodes items = items.map Value.node := by
  induction items with
  | nil => rfl
  | cons x xs ih => rw [Value.nodes, ih, List.map_cons]

theorem fieldNodes_eq_map (fields : List (String × Value)) :
    Value.fieldNodes fields = fields.map fun f => (some f.1, f.2.node) := by
  induction fields with
  | nil => rfl
  | cons f fs ih =>
      obtain ⟨key, x⟩ := f
      rw [Value.fieldNodes, ih, List.map_cons]
      rfl

theorem eq_of_map_eq_map {α β : Type} {f : α → β} {xs ys : List α}
    (h : ∀ x ∈ xs, ∀ y ∈ ys, f x = f y → x = y) (hmap : xs.map f = ys.map f) : xs = ys := by
  induction xs generalizing ys with
  | nil => exact (List.map_eq_nil_iff.1 hmap.symm).symm
  | cons x xs ih =>
      cases ys with
      | nil => cases hmap
      | cons y ys =>
          obtain ⟨hhead, htail⟩ := List.cons.inj hmap
          rw [h x List.mem_cons_self y List.mem_cons_self hhead,
            ih (fun x' hx' y' hy' => h x' (List.mem_cons_of_mem _ hx') y'
              (List.mem_cons_of_mem _ hy')) htail]

namespace Value

theorem eq_float_of_node_eq {x : Float} (hx : x.isFinite = true) {w : Value} (hw : w.IsFinite)
    (h : floatNode x = w.node) : w = .float x := by
  obtain ⟨n, hnode, hpointed⟩ := floatNode_eq_number hx
  cases hw with
  | float hy => rw [floatNode_injOn hx hy h]
  | int m =>
      rw [hnode] at h
      cases h
      exact absurd hpointed (not_isPointed_intNumeral m)
  | _ =>
      rw [hnode] at h
      cases h

/-- Values without doubles that are not finite are written as different nodes. -/
theorem eq_of_node_eq {v w : Value} (hv : v.IsFinite) (hw : w.IsFinite)
    (h : v.node = w.node) : v = w := by
  induction hv generalizing w with
  | null =>
      cases hw with
      | null => rfl
      | float hy => exact eq_float_of_node_eq hy .null h.symm
      | _ => cases h
  | bool b =>
      cases hw with
      | bool c => exact congrArg Value.bool (Node.bool.inj h)
      | float hy => exact eq_float_of_node_eq hy (.bool b) h.symm
      | _ => cases h
  | int n =>
      cases hw with
      | int m => exact congrArg Value.int (intNumeral_injective (Node.number.inj h))
      | float hy => exact eq_float_of_node_eq hy (.int n) h.symm
      | _ => cases h
  | float hx => exact (eq_float_of_node_eq hx hw h).symm
  | text s =>
      cases hw with
      | text t => exact congrArg Value.text (Option.some.inj (Node.text.inj h))
      | float hy => exact eq_float_of_node_eq hy (.text s) h.symm
      | _ => cases h
  | @array items hitems ih =>
      cases hw with
      | @array others hothers =>
          have hnodes := Node.array.inj h
          rw [nodes_eq_map, nodes_eq_map] at hnodes
          exact congrArg Value.array (eq_of_map_eq_map
            (fun x hx y hy => ih x hx (hothers y hy)) hnodes)
      | float hy => exact eq_float_of_node_eq hy (.array hitems) h.symm
      | _ => cases h
  | @object fields hfields ih =>
      cases hw with
      | @object others hothers =>
          have hnodes := Node.object.inj h
          rw [fieldNodes_eq_map, fieldNodes_eq_map] at hnodes
          refine congrArg Value.object (eq_of_map_eq_map (fun f hf g hg heq => ?_) hnodes)
          obtain ⟨hkey, hnode⟩ := Prod.mk.inj heq
          exact Prod.ext (Option.some.inj hkey) (ih f hf (hothers g hg) hnode)
      | float hy => exact eq_float_of_node_eq hy (.object hfields) h.symm
      | _ => cases h

/-! ### Texts -/

theorem eq_of_compact_eq {v w : Value} (hv : v.IsFinite) (hw : w.IsFinite)
    (h : v.compact = w.compact) : v = w := by
  have hread := ofText?_compact v
  rw [h, ofText?_compact, Option.some_inj] at hread
  exact (eq_of_node_eq hw hv hread).symm

/-- The text of an object ends with the object: two objects are one, and so are the texts behind
them, if they are one text together. -/
theorem eq_of_compact_append_eq {fields others : List (String × Value)} {s t : String}
    (hv : (object fields).IsFinite) (hw : (object others).IsFinite)
    (h : (object fields).compact ++ s = (object others).compact ++ t) :
    fields = others ∧ s = t := by
  have htexts : (object fields).compact.toList ++ s.toList =
      (object others).compact.toList ++ t.toList := by
    rw [← String.toList_append, h, String.toList_append]
  generalize hfuel : 2 * (object fields).compact.toList.length +
    2 * (object others).compact.toList.length = fuel
  have hread := readNode_compact_object fields fuel s.toList (by omega)
  have hread' := readNode_compact_object others fuel t.toList (by omega)
  rw [htexts, hread', Option.some_inj, Prod.mk.injEq] at hread
  obtain ⟨hnode, hrest⟩ := hread
  exact ⟨(object.inj (eq_of_node_eq hw hv hnode)).symm, (String.toList_injective hrest).symm⟩

end Value

end Json

end Recommendation
