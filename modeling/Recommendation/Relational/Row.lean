import Recommendation.Identifier
import Recommendation.Json.Value
import Recommendation.Relational.DatabaseError
import Recommendation.Time.Instant

/-!
Rows as a database sends them: named columns with types, and a cell in each, which may be empty. A
cell is read as a value of one type. Whether a cell is there is asked first, then whether the column
has the type, then the value.
-/

namespace Recommendation.Relational

open Time (Instant)

inductive ColumnType
  | int2
  | int4
  | int8
  | float8
  | bool
  | text
  | texts
  | time
  | identifier
  | data
deriving DecidableEq, Repr

inductive Cell
  | int (value : Int)
  | float (value : Float)
  | bool (value : Bool)
  | text (value : String)
  | texts (values : List String)
  | time (value : Instant)
  | identifier (value : Identifier)
  | data (value : Json.Value)

abbrev Column := String × ColumnType

/-- A row with its columns. An empty cell is none. -/
structure Row where
  columns : List Column
  cells : List (Option Cell)

structure CellReader (α : Type) where
  type : ColumnType
  read : Cell → Option α

namespace CellReader

def int (type : ColumnType) : CellReader Int := ⟨type, fun | .int n => some n | _ => none⟩

def float : CellReader Float := ⟨.float8, fun | .float x => some x | _ => none⟩

def bool : CellReader Bool := ⟨.bool, fun | .bool b => some b | _ => none⟩

def text : CellReader String := ⟨.text, fun | .text s => some s | _ => none⟩

def texts : CellReader (List String) := ⟨.texts, fun | .texts xs => some xs | _ => none⟩

def time : CellReader Instant := ⟨.time, fun | .time t => some t | _ => none⟩

def identifier : CellReader Identifier := ⟨.identifier, fun | .identifier i => some i | _ => none⟩

def data : CellReader Json.Value := ⟨.data, fun | .data v => some v | _ => none⟩

def value? {α : Type} (r : CellReader α) (type : ColumnType) (cell : Cell) : Option α :=
  if r.type = type then r.read cell else none

end CellReader

abbrev Decoded (α : Type) := Except DatabaseError α

namespace Row

variable {α : Type}

/-- The number of the column with the name; of several the last. -/
def index? (row : Row) (name : String) : Option Nat :=
  (row.columns.zipIdx.filter fun c => c.1.1 == name).getLast?.map (·.2)

/-- An optional value in a column, which errors call by the given label. -/
def cell? (row : Row) (index : Nat) (label : String) (r : CellReader α) : Decoded (Option α) :=
  match row.columns[index]?, row.cells[index]?.join with
  | none, _ => throw (.columnOutOfBounds index row.columns.length)
  | some _, none => return none
  | some (_, type), some cell =>
    match r.value? type cell with
    | some a => return some a
    | none => throw (.undecodable label)

def cell (row : Row) (index : Nat) (label : String) (r : CellReader α) : Decoded α := do
  match ← row.cell? index label r with
  | some a => return a
  | none => throw (.undecodable label)

def index (row : Row) (name : String) : Decoded Nat :=
  match row.index? name with
  | some i => return i
  | none => throw (.columnNotFound name)

def get (row : Row) (name : String) (r : CellReader α) : Decoded α := do
  row.cell (← row.index name) ("\"" ++ name ++ "\"") r

def get? (row : Row) (name : String) (r : CellReader α) : Decoded (Option α) := do
  row.cell? (← row.index name) ("\"" ++ name ++ "\"") r

def nth (row : Row) (index : Nat) (r : CellReader α) : Decoded α :=
  row.cell index index.repr r

end Row

end Recommendation.Relational
