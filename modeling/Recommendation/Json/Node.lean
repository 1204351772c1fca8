import Recommendation.Json.Numeral

/-!
Data texts as they are read. A node keeps what it was written as: numerals are not yet numbers,
repeated keys are all there, and a string whose escapes name half a character is remembered as a
string without a text. A part of a text that nobody looks at may hold any of these.
-/

namespace Recommendation.Json

inductive Node
  | null
  | bool (value : Bool)
  | number (value : Numeral)
  | text (value : Option String)
  | array (items : List Node)
  | object (fields : List (Option String × Node))

instance : Inhabited Node := ⟨.null⟩

/-- A reader of the front of a text: what it found and what is left. -/
abbrev Front (α : Type) := Time.Front α

def isSpace (c : Char) : Bool := c == ' ' || c == '\n' || c == '\t' || c == '\r'

def skipSpace (cs : List Char) : List Char := cs.dropWhile isSpace

def readHex4 : Front Nat
  | a :: b :: c :: d :: rest => do
    let digit (c : Char) : Option Nat :=
      if '0' ≤ c && c ≤ '9' then some (c.toNat - 48)
      else if 'a' ≤ c && c ≤ 'f' then some (c.toNat - 87)
      else if 'A' ≤ c && c ≤ 'F' then some (c.toNat - 55)
      else none
    let a ← digit a
    let b ← digit b
    let c ← digit c
    let d ← digit d
    some (((16 * a + b) * 16 + c) * 16 + d, rest)
  | _ => none

/-- The number is the first half of a character written in two. -/
def isHighHalf (n : Nat) : Bool := 0xD800 ≤ n && n < 0xDC00

def isLowHalf (n : Nat) : Bool := 0xDC00 ≤ n && n < 0xE000

/-- The character behind `\u`, none for half a character. -/
def readUnicode (cs : List Char) : Option (Option Char × List Char) := do
  let (n, rest) ← readHex4 cs
  if isHighHalf n then
    match rest with
    | '\\' :: 'u' :: more =>
      let (m, rest') ← readHex4 more
      if isLowHalf m then
        some (some (Char.ofNat (0x10000 + (n - 0xD800) * 0x400 + (m - 0xDC00))), rest')
      else some (none, rest)
    | _ => some (none, rest)
  else if isLowHalf n then some (none, rest)
  else some (some (Char.ofNat n), rest)

def readEscape : List Char → Option (Option Char × List Char)
  | '"' :: cs => some (some '"', cs)
  | '\\' :: cs => some (some '\\', cs)
  | '/' :: cs => some (some '/', cs)
  | 'b' :: cs => some (some '\x08', cs)
  | 'f' :: cs => some (some '\x0c', cs)
  | 'n' :: cs => some (some '\n', cs)
  | 'r' :: cs => some (some '\r', cs)
  | 't' :: cs => some (some '\t', cs)
  | 'u' :: cs => readUnicode cs
  | _ => none

/-- The characters up to the closing quote, in reverse before them those read already. -/
def readChars (fuel : Nat) (before : List Char) (whole : Bool) : Front (Option String)
  | [] => none
  | '"' :: cs => some (if whole then some (String.ofList before.reverse) else none, cs)
  | '\\' :: cs =>
    match fuel with
    | 0 => none
    | fuel + 1 => do
      let (c, rest) ← readEscape cs
      match c with
      | some c => readChars fuel (c :: before) whole rest
      | none => readChars fuel before false rest
  | c :: cs =>
    match fuel with
    | 0 => none
    | fuel + 1 => if c.toNat < 0x20 then none else readChars fuel (c :: before) whole cs

def readString (cs : List Char) : Option (Option String × List Char) :=
  readChars cs.length [] true cs

def readDigits : Front (List Char) := fun cs =>
  let digits := cs.takeWhile Char.isDigit
  if digits.isEmpty then none else some (digits, cs.drop digits.length)

def readNumeral (negative : Bool) (cs : List Char) : Option (Numeral × List Char) := do
  let (whole, cs) ← readDigits cs
  if 1 < whole.length && whole.head? == some '0' then none
  else
    let (fraction, cs) ←
      match cs with
      | '.' :: rest => readDigits rest
      | _ => some ([], cs)
    match cs with
    | c :: rest =>
      if c == 'e' || c == 'E' then do
        let (below, rest) :=
          match rest with
          | '+' :: more => (false, more)
          | '-' :: more => (true, more)
          | _ => (false, rest)
        let (digits, rest) ← readDigits rest
        some (⟨negative, whole, fraction, some (below, digits)⟩, rest)
      else some (⟨negative, whole, fraction, none⟩, cs)
    | [] => some (⟨negative, whole, fraction, none⟩, [])

def readWord (word : String) (node : Node) : Front Node := fun cs =>
  if word.toList.isPrefixOf cs then some (node, cs.drop word.length) else none

mutual

/-- A value behind blanks. The fuel bounds how deep calls go and is never the reason to fail. -/
def readNode : Nat → Front Node
  | 0, _ => none
  | fuel + 1, cs =>
    match skipSpace cs with
    | 'n' :: rest => readWord "null" .null ('n' :: rest)
    | 't' :: rest => readWord "true" (.bool true) ('t' :: rest)
    | 'f' :: rest => readWord "false" (.bool false) ('f' :: rest)
    | '"' :: rest => (readString rest).map fun (s, r) => (.text s, r)
    | '[' :: rest =>
      match skipSpace rest with
      | ']' :: rest => some (.array [], rest)
      | rest => (readItems fuel rest).map fun (xs, r) => (.array xs, r)
    | '\x7b' :: rest =>
      match skipSpace rest with
      | '\x7d' :: rest => some (.object [], rest)
      | rest => (readFields fuel rest).map fun (fs, r) => (.object fs, r)
    | '-' :: rest => (readNumeral true rest).map fun (n, r) => (.number n, r)
    | rest => (readNumeral false rest).map fun (n, r) => (.number n, r)

def readItems : Nat → Front (List Node)
  | 0, _ => none
  | fuel + 1, cs => do
    let (x, cs) ← readNode fuel cs
    match skipSpace cs with
    | ',' :: rest => (readItems fuel rest).map fun (xs, r) => (x :: xs, r)
    | ']' :: rest => some ([x], rest)
    | _ => none

def readFields : Nat → Front (List (Option String × Node))
  | 0, _ => none
  | fuel + 1, cs =>
    match skipSpace cs with
    | '"' :: rest => do
      let (key, cs) ← readString rest
      match skipSpace cs with
      | ':' :: rest =>
        let (x, cs) ← readNode fuel rest
        match skipSpace cs with
        | ',' :: rest => (readFields fuel rest).map fun (fs, r) => ((key, x) :: fs, r)
        | '\x7d' :: rest => some ([(key, x)], rest)
        | _ => none
      | _ => none
    | _ => none

end

/-- The value at the front of a text, whatever follows it. -/
def Node.ofFront? (s : String) : Option Node :=
  let cs := s.toList
  (readNode (2 * cs.length + 2) cs).map (·.1)

def Node.ofText? (s : String) : Option Node :=
  let cs := s.toList
  match readNode (2 * cs.length + 2) cs with
  | some (node, rest) => if (skipSpace rest).isEmpty then some node else none
  | none => none

end Recommendation.Json
