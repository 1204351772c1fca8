import Recommendation.Json.Numeral
import Recommendation.Json.Node
import Recommendation.Proofs.Doubles.PowersOfTen

/-!
Numerals as they are written and read. A reader takes all of a numeral and no more of a text, so
what it finds is what has been written. The numeral of a decimal with seventeen digits is the digits
of the decimal times its power of ten, in whichever of its forms it is written.
-/

namespace Recommendation.Json

open Decimal (Shortest)
open Time (digitsValue)

/-! ### Digits -/

def AreDigits (cs : List Char) : Prop := ∀ c ∈ cs, c.isDigit = true

def EndsDigits (rest : List Char) : Prop := ∀ c ∈ rest.head?, c.isDigit = false

theorem areDigits_append {cs cs' : List Char} (h : AreDigits cs) (h' : AreDigits cs') :
    AreDigits (cs ++ cs') :=
  List.forall_mem_append.2 ⟨h, h'⟩

theorem areDigits_toDigits (n : ℕ) : AreDigits (Nat.toDigits 10 n) :=
  fun _ => Nat.isDigit_of_mem_toDigits (by decide) (by decide)

theorem areDigits_zeros (n : ℕ) : AreDigits (List.replicate n '0') := by
  intro c hc
  rw [List.eq_of_mem_replicate hc]
  rfl

theorem takeWhile_of_endsDigits {rest : List Char} (h : EndsDigits rest) :
    rest.takeWhile Char.isDigit = [] := by
  cases rest with
  | nil => rfl
  | cons c rest => rw [List.takeWhile_cons, h c rfl, if_neg Bool.false_ne_true]

theorem readDigits_append {cs rest : List Char} (hne : cs ≠ []) (hcs : AreDigits cs)
    (hrest : EndsDigits rest) : readDigits (cs ++ rest) = some (cs, rest) := by
  have hfront : (cs ++ rest).takeWhile Char.isDigit = cs := by
    rw [List.takeWhile_append_of_pos hcs, takeWhile_of_endsDigits hrest, List.append_nil]
  rw [readDigits, hfront, List.drop_left, if_neg (by simpa using hne)]

theorem foldl_digits (n : ℕ) (cs : List Char) :
    cs.foldl (fun n c => 10 * n + (c.toNat - 48)) n = n * 10 ^ cs.length + digitsValue cs := by
  rw [digitsValue]
  induction cs using List.reverseRecOn with
  | nil => simp
  | append_singleton cs c ih =>
      rw [List.foldl_append, List.foldl_append, ih, List.length_append, List.length_singleton,
        pow_succ]
      simp only [List.foldl_cons, List.foldl_nil]
      ring

theorem digitsValue_append (cs cs' : List Char) :
    digitsValue (cs ++ cs') = digitsValue cs * 10 ^ cs'.length + digitsValue cs' := by
  rw [digitsValue, List.foldl_append, foldl_digits]
  rfl

theorem digitsValue_toDigits (n : ℕ) : digitsValue (Nat.toDigits 10 n) = n :=
  Nat.ofDigitChars_ten_toDigits

theorem digitsValue_zeros (n : ℕ) : digitsValue (List.replicate n '0') = 0 := by
  induction n with
  | zero => rfl
  | succ n ih => rw [List.replicate_succ', digitsValue_append, ih]; rfl

theorem fitWord_eq {n : ℕ} {cs : List Char} (h : n * 10 ^ cs.length + digitsValue cs ≤ maxWord) :
    fitWord n cs = (n * 10 ^ cs.length + digitsValue cs, []) := by
  rw [← foldl_digits] at *
  induction cs generalizing n with
  | nil => rfl
  | cons c cs ih =>
      rw [List.foldl_cons] at *
      have hnext : 10 * n + (c.toNat - 48) ≤ maxWord := by
        rw [foldl_digits] at h
        have hpos : 0 < 10 ^ cs.length := Nat.pow_pos (by decide)
        have := Nat.le_mul_of_pos_right (10 * n + (c.toNat - 48)) hpos
        omega
      rw [fitWord, if_pos hnext, ih h]

theorem head_toDigits {n : ℕ} (hn : 0 < n) : (Nat.toDigits 10 n).head? ≠ some '0' := by
  induction n using Nat.strong_induction_on with
  | _ n ih =>
      rw [Nat.toDigits_eq_if (by decide)]
      split
      · rename_i hsmall
        interval_cases n <;> decide
      · rename_i hlarge
        rw [List.head?_append_of_ne_nil _ Nat.toDigits_ne_nil]
        exact ih (n / 10) (by omega) (by omega)

/-! ### Reading numerals -/

/-- What may stand behind a value: nothing, a comma, or the end of what the value stands in. -/
def Closed (rest : List Char) : Prop := ∀ c ∈ rest.head?, c = ',' ∨ c = ']' ∨ c = '\x7d'

namespace Numeral

structure WellFormed (n : Numeral) : Prop where
  whole : n.whole ≠ [] ∧ AreDigits n.whole
  leading : ¬(1 < n.whole.length ∧ n.whole.head? = some '0')
  fraction : AreDigits n.fraction
  exponent : ∀ e, n.exponent = some e → e.2 ≠ [] ∧ AreDigits e.2

def fractionText (n : Numeral) : List Char :=
  if n.fraction = [] then [] else '.' :: n.fraction

def exponentText (n : Numeral) : List Char :=
  match n.exponent with
  | none => []
  | some (below, digits) => 'e' :: (if below then '-' else '+') :: digits

def text (n : Numeral) : List Char := n.whole ++ (n.fractionText ++ n.exponentText)

end Numeral

section Reading

variable {n : Numeral} {rest : List Char}

theorem endsDigits_of_closed (h : Closed rest) : EndsDigits rest := by
  intro c hc
  rcases h c hc with rfl | rfl | rfl <;> rfl

theorem endsDigits_exponentText (h : Closed rest) : EndsDigits (n.exponentText ++ rest) := by
  rw [Numeral.exponentText]
  cases n.exponent with
  | none => exact endsDigits_of_closed h
  | some e =>
      intro c hc
      cases hc
      rfl

theorem endsDigits_fractionText (h : Closed rest) :
    EndsDigits (n.fractionText ++ (n.exponentText ++ rest)) := by
  rw [Numeral.fractionText]
  split
  · exact endsDigits_exponentText h
  · intro c hc
    cases hc
    rfl

def readFraction : Front (List Char)
  | '.' :: rest => readDigits rest
  | cs => some ([], cs)

def readExponent : Front (Option (Bool × List Char))
  | [] => some (none, [])
  | c :: rest =>
    if c == 'e' || c == 'E' then
      let (below, rest) :=
        match rest with
        | '+' :: more => (false, more)
        | '-' :: more => (true, more)
        | _ => (false, rest)
      (readDigits rest).map fun d => (some (below, d.1), d.2)
    else some (none, c :: rest)

theorem readNumeral_eq (negative : Bool) (cs : List Char) : readNumeral negative cs =
    (readDigits cs).bind fun w =>
      if 1 < w.1.length && w.1.head? == some '0' then none
      else (readFraction w.2).bind fun f =>
        (readExponent f.2).map fun e => (⟨negative, w.1, f.1, e.1⟩, e.2) := by
  rw [readNumeral, Option.bind_eq_bind]
  refine Option.bind_congr fun w _ => ?_
  obtain ⟨whole, cs⟩ := w
  dsimp only
  split
  · rfl
  · split
    on_goal 1 =>
      refine Option.bind_congr fun f _ => ?_
      obtain ⟨fraction, cs⟩ := f
    on_goal 2 =>
      rename_i hpoint
      rw [readFraction.eq_2 cs hpoint, Option.bind_some]
      change _ = (readExponent cs).map _
    -- What is left is read as an exponent, with a fraction in front of it or without one.
    all_goals
      cases cs with
      | nil => rfl
      | cons c rest =>
          rw [readExponent.eq_def]
          dsimp only
          split
          · rw [Option.map_map, Option.map_eq_bind]
            rfl
          · rfl

namespace Numeral

theorem readFraction_text (hn : n.WellFormed) (hrest : Closed rest) :
    readFraction (n.fractionText ++ (n.exponentText ++ rest)) =
      some (n.fraction, n.exponentText ++ rest) := by
  by_cases hnone : n.fraction = []
  · rw [fractionText, if_pos hnone, hnone, exponentText, List.nil_append]
    cases n.exponent with
    | none =>
        cases rest with
        | nil => rfl
        | cons c rest => rcases hrest c rfl with rfl | rfl | rfl <;> rfl
    | some e => rfl
  · rw [fractionText, if_neg hnone]
    exact readDigits_append hnone hn.fraction (endsDigits_exponentText hrest)

theorem readExponent_text (hn : n.WellFormed) (hrest : Closed rest) :
    readExponent (n.exponentText ++ rest) = some (n.exponent, rest) := by
  rw [exponentText]
  cases hexponent : n.exponent with
  | none =>
      cases rest with
      | nil => rfl
      | cons c rest => rcases hrest c rfl with rfl | rfl | rfl <;> rfl
  | some e =>
      obtain ⟨below, digits⟩ := e
      obtain ⟨hne, hdigits⟩ := hn.exponent _ hexponent
      have hread := readDigits_append hne hdigits (endsDigits_of_closed hrest)
      cases below <;> exact congrArg (Option.map _) hread

/-- A numeral is read as it has been written. -/
theorem readNumeral_text (hn : n.WellFormed) (hrest : Closed rest) :
    readNumeral n.negative (n.text ++ rest) = some (n, rest) := by
  have hleading : ¬(1 < n.whole.length && n.whole.head? == some '0') = true := by
    simpa using hn.leading
  rw [readNumeral_eq, text, List.append_assoc, List.append_assoc,
    readDigits_append hn.whole.1 hn.whole.2 (endsDigits_fractionText hrest), Option.bind_some,
    if_neg hleading, readFraction_text hn hrest, Option.bind_some, readExponent_text hn hrest]
  rfl

end Numeral

end Reading

end Recommendation.Json
