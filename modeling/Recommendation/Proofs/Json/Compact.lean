import Recommendation.Json.Value
import Recommendation.Proofs.Json.Doubles

/-!
The compact text of a value is read as the node of the value, whatever closes the text behind it.
Strings are read character by character, numerals as they have been written, and arrays and objects
item by item, with fuel for two calls for each character.
-/

namespace Recommendation.Json

/-! ### Strings -/

/-- The written form of a character is an escape that is read as the character, or the character
itself, which needs none. -/
theorem escapedChar_cases (c : Char) :
    (∃ escape, escapedChar c = '\\' :: escape ∧
        ∀ rest, readEscape (escape ++ rest) = some (some c, rest)) ∨
      escapedChar c = [c] ∧ c ≠ '"' ∧ c ≠ '\\' ∧ ¬c.toNat < 0x20 := by
  by_cases hcontrol : c.toNat < 0x20
  · left
    have hc : c = Char.ofNat c.toNat := (Char.ofNat_toNat c).symm
    generalize c.toNat = n at hc hcontrol
    subst hc
    interval_cases n <;> exact ⟨_, rfl, fun rest => rfl⟩
  · by_cases hquote : c = '"'
    · subst hquote
      exact .inl ⟨_, rfl, fun rest => rfl⟩
    · by_cases hslash : c = '\\'
      · subst hslash
        exact .inl ⟨_, rfl, fun rest => rfl⟩
      · refine .inr ⟨?_, hquote, hslash, hcontrol⟩
        have hne {x : Char} (hx : x.toNat < 0x20) : (c == x) = false := by
          refine beq_false_of_ne ?_
          rintro rfl
          exact hcontrol hx
        rw [escapedChar, beq_false_of_ne hquote, beq_false_of_ne hslash, hne (by decide),
          hne (by decide), hne (by decide), hne (by decide), hne (by decide)]
        simp only [Bool.false_eq_true, if_false, if_neg hcontrol]

theorem readChars_escaped (cs before rest : List Char) {fuel : ℕ} (h : cs.length ≤ fuel) :
    readChars fuel before true (cs.flatMap escapedChar ++ '"' :: rest) =
      some (some (String.ofList (before.reverse ++ cs)), rest) := by
  induction cs generalizing before fuel with
  | nil =>
      rw [List.append_nil]
      cases fuel <;> rfl
  | cons c cs ih =>
      obtain ⟨fuel, rfl⟩ : ∃ k, fuel = k + 1 := ⟨fuel - 1, by simp at h; omega⟩
      have hnext := ih (c :: before) (Nat.le_of_succ_le_succ h)
      rw [List.reverse_cons, List.append_assoc] at hnext
      rw [List.flatMap_cons, List.append_assoc]
      rcases escapedChar_cases c with ⟨escape, hescape, hread⟩ | ⟨hplain, hquote, hslash, hcontrol⟩
      · rw [hescape, List.cons_append, readChars, hread]
        exact hnext
      · rw [hplain, List.singleton_append, readChars, if_neg hcontrol]
        · exact hnext
        · exact hquote
        · exact hslash

theorem readString_stringText (s : String) (rest : List Char) :
    (stringText s).toList ++ rest = '"' :: (s.toList.flatMap escapedChar ++ '"' :: rest) ∧
      readString (s.toList.flatMap escapedChar ++ '"' :: rest) = some (some s, rest) := by
  constructor
  · rw [stringText, String.toList_ofList]
    simp
  · have hlength : s.toList.length ≤ (s.toList.flatMap escapedChar ++ '"' :: rest).length := by
      have hchar (c : Char) : 1 ≤ (escapedChar c).length := by
        rcases escapedChar_cases c with ⟨escape, hescape, -⟩ | ⟨hplain, -⟩
        · rw [hescape]
          exact Nat.succ_pos _
        · rw [hplain]
          exact le_rfl
      rw [List.length_append, List.length_flatMap]
      induction s.toList with
      | nil => exact Nat.zero_le _
      | cons c cs ih =>
          have := hchar c
          simp only [List.map_cons, List.sum_cons, List.length_cons] at *
          omega
    rw [readString, readChars_escaped _ _ _ hlength, List.reverse_nil, List.nil_append,
      String.ofList_toList]

/-! ### Nodes -/

def intNumeral (n : ℤ) : Numeral := ⟨decide (n < 0), Nat.toDigits 10 n.natAbs, [], none⟩

/-- The node of a double: what is not finite is null. -/
def floatNode (x : Float) : Node :=
  match Decimal.read x with
  | .finite b => .number b.numeral
  | _ => .null

/-- A finite double is written as a number, which can be read as a double again. -/
theorem floatNode_of_isFinite {x : Float} (h : x.isFinite = true) :
    ∃ n, floatNode x = .number n ∧ n.float?.isSome = true := by
  obtain ⟨b, hread, -⟩ := Doubles.exists_read_eq h
  refine ⟨b.numeral, ?_, (Decimal.numeral_spec hread).2.1⟩
  rw [floatNode, hread]

theorem floatNode_of_not_isFinite {x : Float} (h : x.isFinite = false) : floatNode x = .null := by
  rw [floatNode]
  cases hread : Decimal.read x with
  | finite b =>
      rw [Doubles.isFinite_of_read hread] at h
      cases h
  | infinite negative => rfl
  | nan => rfl

theorem exists_floatNode_eq_number_iff (x : Float) :
    (∃ n, floatNode x = .number n) ↔ x.isFinite = true := by
  cases hfinite : x.isFinite with
  | true =>
      obtain ⟨n, hnode, -⟩ := floatNode_of_isFinite hfinite
      exact iff_of_true ⟨n, hnode⟩ rfl
  | false =>
      rw [floatNode_of_not_isFinite hfinite]
      exact iff_of_false nofun nofun

mutual

def Value.node : Value → Node
  | .null => .null
  | .bool b => .bool b
  | .int n => .number (intNumeral n)
  | .float x => floatNode x
  | .text s => .text (some s)
  | .array items => .array (Value.nodes items)
  | .object fields => .object (Value.fieldNodes fields)

def Value.nodes : List Value → List Node
  | [] => []
  | x :: xs => x.node :: Value.nodes xs

def Value.fieldNodes : List (String × Value) → List (Option String × Node)
  | [] => []
  | f :: fs => Value.fieldNode f :: Value.fieldNodes fs

def Value.fieldNode : String × Value → Option String × Node
  | (key, x) => (some key, x.node)

end

theorem wellFormed_intNumeral (n : ℤ) : (intNumeral n).WellFormed := by
  refine ⟨⟨Nat.toDigits_ne_nil, areDigits_toDigits _⟩, ?_, nofun, nofun⟩
  rintro ⟨hlength, hhead⟩
  rcases Nat.eq_zero_or_pos n.natAbs with hnone | hsome
  · rw [intNumeral, hnone] at hlength
    exact lt_irrefl 1 hlength
  · exact head_toDigits hsome hhead

/-! ### Values -/

/-- The text is that of a value: it is read as the node, and begins with no blank and with no
bracket that would close an array. -/
structure ReadsAs (text : List Char) (node : Node) : Prop where
  reads : ∀ fuel rest, 2 * text.length ≤ fuel → Closed rest →
    readNode fuel (text ++ rest) = some (node, rest)
  head : ∃ c cs, text = c :: cs ∧ isSpace c = false ∧ c ≠ ']'

theorem ReadsAs.of_head {text : List Char} {node : Node}
    (hhead : ∃ c cs, text = c :: cs ∧ isSpace c = false ∧ c ≠ ']')
    (hreads : ∀ fuel rest, 2 * text.length ≤ fuel + 1 → Closed rest →
      readNode (fuel + 1) (text ++ rest) = some (node, rest)) : ReadsAs text node := by
  refine ⟨fun fuel rest hfuel hrest => ?_, hhead⟩
  obtain ⟨c, cs, hshape, -⟩ := hhead
  cases fuel with
  | zero =>
      rw [hshape, List.length_cons] at hfuel
      omega
  | succ fuel => exact hreads fuel rest hfuel hrest

theorem readNode_digit {c : Char} (hc : c.isDigit = true) (fuel : ℕ) (cs : List Char) :
    isSpace c = false ∧ readNode (fuel + 1) (c :: cs) =
      (readNumeral false (c :: cs)).map fun n => (.number n.1, n.2) := by
  obtain ⟨hlow, hhigh⟩ := Char.isDigit_iff_toNat.1 hc
  change 48 ≤ c.toNat at hlow
  change c.toNat ≤ 57 at hhigh
  have hchar : c = Char.ofNat c.toNat := (Char.ofNat_toNat c).symm
  generalize c.toNat = n at *
  subst hchar
  interval_cases n <;> exact ⟨rfl, rfl⟩

theorem readsAs_numeral {n : Numeral} (hn : n.WellFormed) :
    ReadsAs ((if n.negative then ['-'] else []) ++ n.text) (.number n) := by
  obtain ⟨c, cs, hwhole⟩ := List.exists_cons_of_ne_nil hn.whole.1
  have htext : n.text = c :: (cs ++ (n.fractionText ++ n.exponentText)) := by
    rw [Numeral.text, hwhole, List.cons_append]
  have hdigit : c.isDigit = true := hn.whole.2 c (hwhole ▸ List.mem_cons_self)
  obtain ⟨hspace, -⟩ := readNode_digit hdigit 0 []
  have hbracket : c ≠ ']' := by
    rintro rfl
    cases hdigit
  refine .of_head ?_ fun fuel rest hfuel hrest => ?_
  · cases n.negative with
    | true => exact ⟨'-', n.text, rfl, rfl, by decide⟩
    | false => exact ⟨c, _, htext, hspace, hbracket⟩
  · have hread := Numeral.readNumeral_text hn hrest
    cases hnegative : n.negative with
    | true =>
        rw [hnegative] at hread
        change (readNumeral true (n.text ++ rest)).map _ = _
        rw [hread]
        rfl
    | false =>
        rw [hnegative] at hread
        rw [if_neg Bool.false_ne_true, List.nil_append, htext, List.cons_append,
          (readNode_digit hdigit fuel _).2, ← List.cons_append, ← htext, hread]
        rfl

theorem readsAs_null : ReadsAs "null".toList .null :=
  .of_head ⟨'n', "ull".toList, rfl, rfl, by decide⟩ fun _ _ _ _ => rfl

theorem readsAs_bool (b : Bool) : ReadsAs (if b then "true" else "false").toList (.bool b) := by
  cases b with
  | true => exact .of_head ⟨'t', "rue".toList, rfl, rfl, by decide⟩ fun _ _ _ _ => rfl
  | false => exact .of_head ⟨'f', "alse".toList, rfl, rfl, by decide⟩ fun _ _ _ _ => rfl

theorem readsAs_float (x : Float) : ReadsAs (Decimal.data x).toList (floatNode x) := by
  cases hfinite : x.isFinite with
  | true =>
      obtain ⟨b, hread, -⟩ := Doubles.exists_read_eq hfinite
      obtain ⟨hwell, -, htext⟩ := Decimal.numeral_spec hread
      rw [htext, floatNode, hread]
      exact readsAs_numeral hwell
  | false =>
      rw [Decimal.data_of_not_isFinite hfinite, floatNode_of_not_isFinite hfinite]
      exact readsAs_null

theorem readsAs_text (s : String) : ReadsAs (stringText s).toList (.text (some s)) := by
  have hshape : (stringText s).toList = '"' :: (s.toList.flatMap escapedChar ++ ['"']) := by
    rw [← List.append_nil (stringText s).toList]
    exact (readString_stringText s []).1
  refine .of_head ⟨'"', _, hshape, rfl, by decide⟩ fun fuel rest _ _ => ?_
  obtain ⟨hsplit, hread⟩ := readString_stringText s rest
  rw [hsplit]
  change (readString _).map _ = _
  rw [hread]
  rfl

/-! ### Arrays and objects -/

theorem toList_commaSeparated_cons (text : String) {texts : List String} (h : texts ≠ []) :
    (commaSeparated (text :: texts)).toList =
      text.toList ++ ',' :: (commaSeparated texts).toList := by
  rw [commaSeparated, String.intercalate_cons_of_ne_nil h]
  simp [commaSeparated]

theorem commaSeparated_singleton (text : String) : commaSeparated [text] = text :=
  String.intercalate_singleton

def ReadsAsItems (text : List Char) (nodes : List Node) : Prop :=
  ∀ fuel rest, 2 * text.length + 1 ≤ fuel →
    readItems fuel (text ++ ']' :: rest) = some (nodes, rest)

def ReadsAsFields (text : List Char) (fields : List (Option String × Node)) : Prop :=
  ∀ fuel rest, 2 * text.length + 1 ≤ fuel →
    readFields fuel (text ++ '\x7d' :: rest) = some (fields, rest)

theorem closed_cons {c : Char} (h : c = ',' ∨ c = ']' ∨ c = '\x7d') (rest : List Char) :
    Closed (c :: rest) := by
  intro c' hc'
  cases hc'
  exact h

theorem ReadsAs.items_singleton {text : List Char} {node : Node} (h : ReadsAs text node) :
    ReadsAsItems text [node] := by
  intro fuel rest hfuel
  obtain ⟨fuel, rfl⟩ : ∃ k, fuel = k + 1 := ⟨fuel - 1, by omega⟩
  have hread := h.reads fuel (']' :: rest) (by omega) (closed_cons (by decide) rest)
  rw [readItems, hread]
  rfl

theorem ReadsAs.items_cons {text text' : List Char} {node : Node} {nodes : List Node}
    (h : ReadsAs text node) (h' : ReadsAsItems text' nodes) :
    ReadsAsItems (text ++ ',' :: text') (node :: nodes) := by
  intro fuel rest hfuel
  rw [List.length_append, List.length_cons] at hfuel
  obtain ⟨fuel, rfl⟩ : ∃ k, fuel = k + 1 := ⟨fuel - 1, by omega⟩
  have hread := h.reads fuel (',' :: (text' ++ ']' :: rest)) (by omega) (closed_cons (by decide) _)
  have hrest := h' fuel rest (by omega)
  rw [List.append_assoc, List.cons_append, readItems, hread]
  change (readItems fuel (text' ++ ']' :: rest)).map _ = _
  rw [hrest]
  rfl

/-- Behind an opening bracket items are read, unless it is closed at once. -/
theorem readNode_bracket (fuel : ℕ) {cs : List Char} (hskip : skipSpace cs = cs)
    (hopen : ∀ rest, cs ≠ ']' :: rest) : readNode (fuel + 1) ('[' :: cs) =
      (readItems fuel cs).map fun xs => (.array xs.1, xs.2) := by
  have hbracket : skipSpace ('[' :: cs) = '[' :: cs := rfl
  simp only [readNode, hbracket, hskip]

theorem readsAs_array {text : List Char} {nodes : List Node} (h : ReadsAsItems text nodes)
    (hhead : ∃ c cs, text = c :: cs ∧ isSpace c = false ∧ c ≠ ']') :
    ReadsAs ('[' :: (text ++ [']'])) (.array nodes) := by
  obtain ⟨c, cs, hshape, hspace, hbracket⟩ := hhead
  refine .of_head ⟨'[', _, rfl, rfl, by decide⟩ fun fuel rest hfuel _ => ?_
  rw [List.length_cons, List.length_append, List.length_singleton] at hfuel
  have hread := h fuel rest (by omega)
  have hskip : skipSpace (text ++ ']' :: rest) = text ++ ']' :: rest := by
    rw [hshape, List.cons_append, skipSpace, List.dropWhile_cons, if_neg (by simp [hspace])]
  have hbegins : ∀ more, text ++ ']' :: rest ≠ ']' :: more := by
    rw [hshape]
    rintro more heq
    cases heq
    exact hbracket rfl
  rw [List.cons_append, List.append_assoc, List.singleton_append,
    readNode_bracket fuel hskip hbegins, hread]
  rfl

theorem readsAs_emptyArray : ReadsAs "[]".toList (.array []) :=
  .of_head ⟨'[', "]".toList, rfl, rfl, by decide⟩ fun _ _ _ _ => rfl

def fieldText (key : String) (text : List Char) : List Char :=
  (stringText key).toList ++ ':' :: text

theorem readFields_field (key : String) {text : List Char} {node : Node} (h : ReadsAs text node)
    {fuel : ℕ} (hfuel : 2 * text.length ≤ fuel) {rest : List Char} (hrest : Closed rest) :
    readFields (fuel + 1) (fieldText key text ++ rest) =
      match skipSpace rest with
      | ',' :: rest => (readFields fuel rest).map fun fs => ((some key, node) :: fs.1, fs.2)
      | '\x7d' :: rest => some ([(some key, node)], rest)
      | _ => none := by
  obtain ⟨hsplit, hread⟩ := readString_stringText key (':' :: (text ++ rest))
  have hvalue := h.reads fuel rest hfuel hrest
  rw [fieldText, List.append_assoc, List.cons_append, hsplit]
  change (readString (key.toList.flatMap escapedChar ++ '"' :: ':' :: (text ++ rest))).bind _ = _
  rw [hread]
  change (readNode fuel (text ++ rest)).bind _ = _
  rw [hvalue]
  rfl

theorem ReadsAs.fields_singleton (key : String) {text : List Char} {node : Node}
    (h : ReadsAs text node) : ReadsAsFields (fieldText key text) [(some key, node)] := by
  intro fuel rest hfuel
  rw [fieldText, List.length_append, List.length_cons] at hfuel
  obtain ⟨fuel, rfl⟩ : ∃ k, fuel = k + 1 := ⟨fuel - 1, by omega⟩
  rw [readFields_field key h (by omega) (closed_cons (by decide) rest)]
  rfl

theorem ReadsAs.fields_cons (key : String) {text text' : List Char} {node : Node}
    {fields : List (Option String × Node)} (h : ReadsAs text node)
    (h' : ReadsAsFields text' fields) :
    ReadsAsFields (fieldText key text ++ ',' :: text') ((some key, node) :: fields) := by
  intro fuel rest hfuel
  rw [fieldText, List.length_append, List.length_append, List.length_cons, List.length_cons]
    at hfuel
  obtain ⟨fuel, rfl⟩ : ∃ k, fuel = k + 1 := ⟨fuel - 1, by omega⟩
  have hrest := h' fuel rest (by omega)
  rw [List.append_assoc, List.cons_append,
    readFields_field key h (by omega) (closed_cons (by decide) _)]
  change (readFields fuel (text' ++ '\x7d' :: rest)).map _ = _
  rw [hrest]
  rfl

/-- An object of some fields, whose text begins with the quote of the first key. It ends with its
brace, whatever stands behind it. -/
theorem readNode_object {text : List Char} {fields : List (Option String × Node)}
    (h : ReadsAsFields text fields) (hhead : ∃ cs, text = '"' :: cs) {fuel : ℕ}
    (hfuel : 2 * text.length + 1 ≤ fuel) (rest : List Char) :
    readNode (fuel + 1) ('\x7b' :: (text ++ ['\x7d']) ++ rest) = some (.object fields, rest) := by
  obtain ⟨cs, hshape⟩ := hhead
  have hread := h fuel rest hfuel
  rw [List.cons_append, List.append_assoc, List.singleton_append]
  rw [hshape, List.cons_append] at hread ⊢
  change (readFields fuel ('"' :: (cs ++ '\x7d' :: rest))).map _ = _
  rw [hread]
  rfl

theorem readsAs_object {text : List Char} {fields : List (Option String × Node)}
    (h : ReadsAsFields text fields) (hhead : ∃ cs, text = '"' :: cs) :
    ReadsAs ('\x7b' :: (text ++ ['\x7d'])) (.object fields) := by
  refine .of_head ⟨'\x7b', _, rfl, rfl, by decide⟩ fun fuel rest hfuel _ => ?_
  rw [List.length_cons, List.length_append, List.length_singleton] at hfuel
  exact readNode_object h hhead (by omega) rest

theorem readsAs_emptyObject : ReadsAs "\x7b\x7d".toList (.object []) :=
  .of_head ⟨'\x7b', "\x7d".toList, rfl, rfl, by decide⟩ fun _ _ _ _ => rfl

/-! ### Values -/

theorem toList_compactField (key : String) (x : Value) :
    (Value.compactField (key, x)).toList = fieldText key x.compact.toList := by
  rw [Value.compactField, fieldText, String.toList_append, String.toList_append, List.append_assoc]
  rfl

theorem exists_fieldText_eq (key : String) (text : List Char) :
    ∃ cs, fieldText key text = '"' :: cs :=
  ⟨_, (readString_stringText key (':' :: text)).1⟩

theorem compactItems_ne_nil {items : List Value} (h : items ≠ []) :
    Value.compactItems items ≠ [] := by
  cases items with
  | nil => exact absurd rfl h
  | cons x xs => exact List.cons_ne_nil _ _

theorem compactFields_ne_nil {fields : List (String × Value)} (h : fields ≠ []) :
    Value.compactFields fields ≠ [] := by
  cases fields with
  | nil => exact absurd rfl h
  | cons f fs => exact List.cons_ne_nil _ _

mutual

/-- The compact text of a value is read as its node. -/
theorem readsAs_compact (v : Value) : ReadsAs v.compact.toList v.node := by
  cases v with
  | null => exact readsAs_null
  | bool b => exact readsAs_bool b
  | int n =>
      have htext : (Value.int n).compact.toList =
          (if (intNumeral n).negative then ['-'] else []) ++ (intNumeral n).text := by
        rw [Value.compact, Numeral.text, intNumeral]
        by_cases hneg : n < 0
        · simp [hneg, Numeral.fractionText, Numeral.exponentText]
        · simp [hneg, Numeral.fractionText, Numeral.exponentText]
      rw [htext]
      exact readsAs_numeral (wellFormed_intNumeral n)
  | float x => exact readsAs_float x
  | text s => exact readsAs_text s
  | array items =>
      by_cases hne : items = []
      · subst hne
        exact readsAs_emptyArray
      · obtain ⟨hitems, hhead⟩ := readsAsItems_compact items hne
        have hread := readsAs_array hitems hhead
        rw [Value.compact, String.toList_append, String.toList_append]
        exact hread
  | object fields =>
      by_cases hne : fields = []
      · subst hne
        exact readsAs_emptyObject
      · obtain ⟨hfields, hhead⟩ := readsAsFields_compact fields hne
        have hread := readsAs_object hfields hhead
        rw [Value.compact, String.toList_append, String.toList_append]
        exact hread

theorem readsAsItems_compact (items : List Value) (hne : items ≠ []) :
    ReadsAsItems (commaSeparated (Value.compactItems items)).toList (Value.nodes items) ∧
      ∃ c cs, (commaSeparated (Value.compactItems items)).toList = c :: cs ∧
        isSpace c = false ∧ c ≠ ']' := by
  cases items with
  | nil => exact absurd rfl hne
  | cons x xs =>
      have hx := readsAs_compact x
      by_cases hlast : xs = []
      · subst hlast
        rw [Value.compactItems, Value.compactItems, commaSeparated_singleton]
        exact ⟨hx.items_singleton, hx.head⟩
      · obtain ⟨hitems, -⟩ := readsAsItems_compact xs hlast
        obtain ⟨c, cs, hshape, hc⟩ := hx.head
        rw [Value.compactItems, toList_commaSeparated_cons _ (compactItems_ne_nil hlast)]
        exact ⟨hx.items_cons hitems, c, _, by rw [hshape]; rfl, hc⟩

theorem readsAsFields_compact (fields : List (String × Value)) (hne : fields ≠ []) :
    ReadsAsFields (commaSeparated (Value.compactFields fields)).toList (Value.fieldNodes fields) ∧
      ∃ cs, (commaSeparated (Value.compactFields fields)).toList = '"' :: cs := by
  cases fields with
  | nil => exact absurd rfl hne
  | cons f fs =>
      obtain ⟨key, x⟩ := f
      have hx := readsAs_compact x
      obtain ⟨cs, hshape⟩ := exists_fieldText_eq key x.compact.toList
      by_cases hlast : fs = []
      · subst hlast
        rw [Value.compactFields, Value.compactFields, commaSeparated_singleton, toList_compactField]
        exact ⟨hx.fields_singleton key, cs, hshape⟩
      · obtain ⟨hfields, -⟩ := readsAsFields_compact fs hlast
        rw [Value.compactFields, toList_commaSeparated_cons _ (compactFields_ne_nil hlast),
          toList_compactField]
        exact ⟨hx.fields_cons key hfields, _, by rw [hshape]; rfl⟩

end

theorem readNode_compact_object (fields : List (String × Value)) (fuel : ℕ) (rest : List Char)
    (hfuel : 2 * (Value.object fields).compact.toList.length ≤ fuel) :
    readNode fuel ((Value.object fields).compact.toList ++ rest) =
      some ((Value.object fields).node, rest) := by
  have htext : (Value.object fields).compact.toList =
      '\x7b' :: ((commaSeparated (Value.compactFields fields)).toList ++ ['\x7d']) := by
    rw [Value.compact, String.toList_append, String.toList_append]
    rfl
  rw [htext, List.length_cons, List.length_append, List.length_singleton] at hfuel
  obtain ⟨fuel, rfl⟩ : ∃ k, fuel = k + 1 := ⟨fuel - 1, by omega⟩
  by_cases hne : fields = []
  · subst hne
    rfl
  · obtain ⟨hfields, hhead⟩ := readsAsFields_compact fields hne
    rw [htext]
    exact readNode_object hfields hhead (by omega) rest

/-- The compact text of a value is read as its node and as nothing else. -/
theorem ofText?_compact (v : Value) : Node.ofText? v.compact = some v.node := by
  have hread := (readsAs_compact v).reads (2 * v.compact.toList.length + 2) [] (by omega) nofun
  rw [List.append_nil] at hread
  rw [Node.ofText?, hread]
  rfl

end Recommendation.Json
