import Recommendation.Text.AsciiFold

/-!
Media types as the service reads them: two names with a slash between them, and parameters behind
semicolons, each a name and a value that may be in quotes. The parameters do not matter, but they
must be well formed.
-/

namespace Recommendation.Service

def isTokenChar (c : Char) : Bool :=
  c.isAlphanum || "!#$%&*+-.^_|~".toList.contains c || c.toNat == 0x27 || c.toNat == 0x60

def isQuotedChar (c : Char) : Bool := 0x1F < c.toNat && c.toNat != 0x7F

inductive ParameterState
  /-- Before a name, or at the end. -/
  | start
  | name
  /-- Behind the equals sign. -/
  | valueStart
  | value
  /-- Behind the opening quote. -/
  | quotedStart
  | quoted
  /-- Behind the closing quote. -/
  | closed
  | malformed
deriving DecidableEq

namespace ParameterState

/-- Reads one character. A value in quotes has one character at least, be it a quote. -/
def next : ParameterState → Char → ParameterState
  | start, c => if c == ' ' then start else if isTokenChar c then name else malformed
  | name, c => if isTokenChar c then name else if c == '=' then valueStart else malformed
  | valueStart, c =>
    if c == '"' then quotedStart else if isTokenChar c then value else malformed
  | value, c => if isTokenChar c then value else if c == ';' then start else malformed
  | quotedStart, c => if isQuotedChar c then quoted else malformed
  | quoted, c => if c == '"' then closed else if isQuotedChar c then quoted else malformed
  | closed, c => if c == ' ' then closed else if c == ';' then start else malformed
  | malformed, _ => malformed

/-- The parameters may end here. A value without quotes may be empty if nothing follows it. -/
def isComplete (s : ParameterState) : Bool :=
  s == start || s == valueStart || s == value || s == closed

end ParameterState

def areParameters : List Char → Bool
  | [] => true
  | c :: cs => c == ';' && (cs.foldl ParameterState.next .start).isComplete

/-- The second name says that the data are JSON, as a whole or in one of its parts around the last
plus sign. -/
def isJsonName (name : List Char) : Bool :=
  let json := "json".toList
  let behind := (name.reverse.takeWhile (· != '+')).reverse
  let front := name.take (name.length - behind.length - 1)
  name == json || (!front.isEmpty && (front == json || behind == json))

def isJsonType (type : String) : Bool :=
  let cs := type.toList.map Text.foldChar
  let main := cs.takeWhile isTokenChar
  match cs.drop main.length with
  | '/' :: rest =>
    let sub := rest.takeWhile isTokenChar
    main == "application".toList && isJsonName sub && areParameters (rest.drop sub.length)
  | _ => false

example : isJsonType "application/json; charset=utf-8" ∧ isJsonType "Application/Problem+JSON" ∧
    ¬isJsonType "application/json ;a=b" ∧ ¬isJsonType "application/+json" := by decide +kernel

end Recommendation.Service
