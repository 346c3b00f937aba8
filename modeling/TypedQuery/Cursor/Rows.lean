import TypedQuery.Data.Error
import TypedQuery.Data.Value

/-!
Cursors: columns, rows and a position that starts before the first row. A `Source` is what a query
returns; reading one of its cells may fail, and its rows need not be as wide as its columns. A
`Snapshot` holds plain values, can be rewound and can grow.
-/

namespace TypedQuery

/-- `position` counts from the first row; past the last row it is the number of rows that there
were when the end was met. -/
structure Rows (Cell : Type) where
  columns : List String
  rows : List (List Cell)
  position : Option Nat
  deriving DecidableEq, Inhabited

abbrev Source := Rows (Except DataError Value)

abbrev Snapshot := Rows Value

namespace Rows

variable {Cell : Type}

/-- A cursor before the first of the given rows. -/
def ofRows (columns : List String) (rows : List (List Cell)) : Rows Cell := ⟨columns, rows, none⟩

/-- The index of the row that the next move goes to. -/
def upcoming (c : Rows Cell) : Nat :=
  match c.position with
  | none => 0
  | some position => position + 1

/-- How many more moves meet a row. -/
def remaining (c : Rows Cell) : Nat := c.rows.length - c.upcoming

/-- Move to the next row, if there is one. -/
def next (c : Rows Cell) : Bool × Rows Cell :=
  if c.upcoming < c.rows.length then (true, { c with position := some c.upcoming })
  else (false, { c with position := some c.rows.length })

/-- Go back before the first row. -/
def reset (c : Rows Cell) : Rows Cell := { c with position := none }

def row? (c : Rows Cell) : Option (List Cell) := c.position.bind (c.rows[·]?)

/-- The cell of the current row at an index. -/
def cell (c : Rows Cell) (index : Nat) : Except DataError Cell :=
  match c.row? with
  | none => .error .cursorPosition
  | some row =>
    match row[index]? with
    | none => .error (.columnIndex index c.columns.length)
    | some x => .ok x

/-- The first column of that name. -/
def columnIndex? (c : Rows Cell) (name : String) : Option Nat := c.columns.findIdx? (· == name)

def columnIndex (c : Rows Cell) (name : String) : Except DataError Nat :=
  match c.columnIndex? name with
  | some index => .ok index
  | none => .error (.unknownColumn name)

end Rows

namespace Source

def value (c : Source) (index : Nat) : Except DataError Value := do (← c.cell index)

end Source

namespace Snapshot

def value (c : Snapshot) (index : Nat) : Except DataError Value := c.cell index

/-- A snapshot seen as the answer of a query. -/
def toSource (c : Snapshot) : Source := { c with rows := c.rows.map (·.map .ok) }

/-- Equality of columns, rows and position, with reals compared as numbers. -/
def same (a b : Snapshot) : Bool :=
  decide (a.columns = b.columns) && decide (a.position = b.position) &&
    decide (a.rows.length = b.rows.length) &&
    (a.rows.zip b.rows).all fun (r, s) =>
      decide (r.length = s.length) && (r.zip s).all fun (v, w) => v.same w

/-- Changes of a snapshot that may fail. A failing change keeps what it had done before. -/
abbrev Edit := ExceptT DataError (StateM Snapshot)

/-- Add a row, which must be as wide as the columns. -/
def push (row : List Value) : Edit Unit := do
  let c ← get
  if row.length = c.columns.length then set { c with rows := c.rows ++ [row] }
  else throw (.rowWidth c.columns.length row.length)

def pushAll (rows : List (List Value)) : Edit Unit := rows.forM push

/-- Add the rows of another snapshot, whatever its columns are called. -/
def append (other : Snapshot) : Edit Unit := pushAll other.rows

def build (columns : List String) (rows : List (List Value)) : Except DataError Snapshot :=
  match (pushAll rows).run (Rows.ofRows columns []) with
  | (.ok (), c) => .ok c
  | (.error e, _) => .error e

end Snapshot

namespace Source

/-- The values of the current row, as many as there are columns. -/
def values (c : Source) : Except DataError (List Value) :=
  (List.range c.columns.length).mapM c.value

/-- Read `count` more rows after those in `read`, and then meet the end. -/
def copyRest : Nat → List (List Value) → Source → Except DataError Snapshot × Source
  | 0, read, c => (.ok (Rows.ofRows c.columns read), c.next.2)
  | count + 1, read, c =>
    let c : Source := c.next.2
    match c.values with
    | .ok row => copyRest count (read ++ [row]) c
    | .error e => (.error e, c)

/-- Drain the remaining rows into a snapshot. The source stays where the copying stopped. -/
def copy (c : Source) : Except DataError Snapshot × Source := copyRest c.remaining [] c

end Source

/-- What generated code moves over: the answer of a query, or a snapshot of one. -/
inductive Cursor where
  | source (c : Source)
  | snapshot (c : Snapshot)
  deriving Inhabited

namespace Cursor

def columns : Cursor → List String
  | source c => c.columns
  | snapshot c => c.columns

def remaining : Cursor → Nat
  | source c => c.remaining
  | snapshot c => c.remaining

def next : Cursor → Bool × Cursor
  | source c => (c.next.1, .source c.next.2)
  | snapshot c => (c.next.1, .snapshot c.next.2)

def value (index : Nat) : Cursor → Except DataError Value
  | source c => c.value index
  | snapshot c => c.value index

def columnIndex? (name : String) : Cursor → Option Nat
  | source c => c.columnIndex? name
  | snapshot c => c.columnIndex? name

def columnIndex (name : String) : Cursor → Except DataError Nat
  | source c => c.columnIndex name
  | snapshot c => c.columnIndex name

def isNull (index : Nat) (c : Cursor) : Except DataError Bool := do
  return (← c.value index).isNull

/-- Drain the remaining rows into a snapshot. -/
def copy : Cursor → Except DataError Snapshot × Cursor
  | source c => (c.copy.1, .source c.copy.2)
  | snapshot c => (c.toSource.copy.1, .snapshot { c with position := c.toSource.copy.2.position })

end Cursor

end TypedQuery
