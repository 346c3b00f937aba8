import TypedQuery.Cursor.Rows
import TypedQuery.Proofs.Steps

/-! The rows that are left to a cursor, without its position. A row counts only by the values that
can be read from it, so that an answer and a snapshot of it can be told alike. -/

namespace TypedQuery

/-- The values of one row by their index. -/
abbrev Line := Nat → Except DataError Value

namespace Rows

variable {Cell : Type}

/-- The cell of a row at an index. -/
def cellIn (columns : List String) (row : List Cell) (index : Nat) : Except DataError Cell :=
  match row[index]? with
  | none => .error (.columnIndex index columns.length)
  | some x => .ok x

/-- The rows that are left. -/
def left (c : Rows Cell) : List (List Cell) := c.rows.drop c.upcoming

/-- As many rows are left as are counted. -/
theorem left_length (c : Rows Cell) : c.left.length = c.remaining := by
  rw [left, remaining, List.length_drop]

/-- The same rows at another position. -/
def seek (c : Rows Cell) (position : Option Nat) : Rows Cell := { c with position }

/-- Without rows a move meets the end, and goes there. -/
theorem next_of_left_nil {c : Rows Cell} (h : c.left = []) :
    c.next = (false, c.seek (some c.rows.length)) := by
  have hLength : c.rows.length ≤ c.upcoming := List.drop_eq_nil_iff.mp h
  rw [next, if_neg (by omega)]
  rfl

/-- A move goes to the first row that is left, and leaves the others. -/
theorem next_of_left_cons {c : Rows Cell} {row : List Cell} {rest : List (List Cell)}
    (h : c.left = row :: rest) : c.next = (true, c.seek (some c.upcoming)) ∧
      (c.seek (some c.upcoming)).left = rest ∧
      ∀ index, (c.seek (some c.upcoming)).cell index = cellIn c.columns row index := by
  have hLength : c.upcoming < c.rows.length := by
    apply Nat.lt_of_not_le
    intro hEnd
    rw [left, List.drop_of_length_le hEnd] at h
    cases h
  have hRow : c.rows[c.upcoming]? = some row := by
    rw [left] at h
    rw [← List.head?_drop, h, List.head?_cons]
  refine ⟨by rw [next, if_pos hLength]; rfl, ?_, fun index => ?_⟩
  · rw [left, ← @List.tail_cons _ row rest, ← h, left, List.tail_drop]
    rfl
  · have hCurrent : (c.seek (some c.upcoming)).row? = some row := hRow
    rw [cell, hCurrent]
    rfl

end Rows

namespace Cursor

/-- The lines that are left to a cursor. -/
def lines : Cursor → List Line
  | source c => c.left.map fun row index => do (← Rows.cellIn c.columns row index)
  | snapshot c => c.left.map fun row index => Rows.cellIn c.columns row index

/-- The same rows at another position. -/
def seek (c : Cursor) (position : Option Nat) : Cursor :=
  match c with
  | source c => source (c.seek position)
  | snapshot c => snapshot (c.seek position)

theorem lines_length (c : Cursor) : c.lines.length = c.remaining := by
  cases c with
  | source c => rw [lines, List.length_map, Rows.left_length, remaining]
  | snapshot c => rw [lines, List.length_map, Rows.left_length, remaining]

@[simp]
theorem seek_seek (c : Cursor) (position other : Option Nat) :
    (c.seek position).seek other = c.seek other := by
  cases c <;> rfl

/-- Where a column stands depends on the names of the columns only. -/
theorem columnIndex_congr {c other : Cursor} (h : c.columns = other.columns) (name : String) :
    c.columnIndex name = other.columnIndex name := by
  have hRows {A B : Type} {a : Rows A} {b : Rows B} (h : a.columns = b.columns) :
      a.columnIndex name = b.columnIndex name := by
    rw [Rows.columnIndex, Rows.columnIndex, Rows.columnIndex?, Rows.columnIndex?, h]
  cases c <;> cases other <;> exact hRows h

/-- A column is found at the first place of its name. -/
theorem findIdx?_of_columnIndex {c : Cursor} {name : String} {index : Nat}
    (h : c.columnIndex name = .ok index) : c.columns.findIdx? (· == name) = some index := by
  have hRows {Cell : Type} {rows : Rows Cell} (h : rows.columnIndex name = .ok index) :
      rows.columnIndex? name = some index := by
    rw [Rows.columnIndex] at h
    cases hFound : rows.columnIndex? name with
    | none =>
        rw [hFound] at h
        cases h
    | some found =>
        rw [hFound] at h
        rw [Except.ok.inj h]
  cases c with
  | source rows => exact hRows h
  | snapshot rows => exact hRows h

theorem lt_of_columnIndex {c : Cursor} {name : String} {index : Nat}
    (h : c.columnIndex name = .ok index) : index < c.columns.length := by
  obtain ⟨hIndex, -⟩ := List.findIdx?_eq_some_iff_getElem.mp (findIdx?_of_columnIndex h)
  exact hIndex

/-- Without lines there is no next row. -/
theorem next_of_lines_nil {c : Cursor} (h : c.lines = []) :
    ∃ position, c.next = (false, c.seek position) := by
  cases c with
  | source c =>
      have hLeft : c.left = [] := List.map_eq_nil_iff.mp h
      exact ⟨some c.rows.length, by rw [next, Rows.next_of_left_nil hLeft]; rfl⟩
  | snapshot c =>
      have hLeft : c.left = [] := List.map_eq_nil_iff.mp h
      exact ⟨some c.rows.length, by rw [next, Rows.next_of_left_nil hLeft]; rfl⟩

/-- The next row is the first line, and the others are left. -/
theorem next_of_lines_cons {c : Cursor} {line : Line} {rest : List Line}
    (h : c.lines = line :: rest) : ∃ position, c.next = (true, c.seek position) ∧
      (c.seek position).lines = rest ∧ ∀ index, (c.seek position).value index = line index := by
  cases c with
  | source c =>
      obtain ⟨row, others, hLeft, hLine, hRest⟩ := List.map_eq_cons_iff.mp h
      obtain ⟨hNext, hLater, hCell⟩ := Rows.next_of_left_cons hLeft
      refine ⟨some c.upcoming, by rw [next, hNext]; rfl, ?_, fun index => ?_⟩
      · rw [seek, lines, hLater]
        exact hRest
      · rw [← hLine]
        change Source.value (c.seek (some c.upcoming)) index = _
        rw [Source.value, hCell]
  | snapshot c =>
      obtain ⟨row, others, hLeft, hLine, hRest⟩ := List.map_eq_cons_iff.mp h
      obtain ⟨hNext, hLater, hCell⟩ := Rows.next_of_left_cons hLeft
      refine ⟨some c.upcoming, by rw [next, hNext]; rfl, ?_, fun index => ?_⟩
      · rw [seek, lines, hLater]
        exact hRest
      · rw [← hLine]
        exact hCell index

end Cursor

/-- Up to an index two lines have the same values. -/
def Line.SameBelow (n : Nat) (line other : Line) : Prop := ∀ index < n, line index = other index

/-- A row that was read column by column has the values that the columns had. -/
theorem Line.sameBelow_of_read {n : Nat} {line : Line} {values : List Value}
    (h : (List.range n).mapM line = .ok values) (columns : List String) :
    line.SameBelow n (Rows.cellIn columns values) := by
  intro index hIndex
  obtain ⟨hLength, hRead⟩ := List.forall₂_iff_get.mp (mapM_eq_ok_iff.mp h)
  rw [List.length_range] at hLength
  have hValue := hRead index (by simpa using hIndex) (by omega)
  rw [Rows.cellIn, List.getElem?_eq_getElem (by omega)]
  simpa using hValue

namespace Source

/-- The line of a row. -/
def line (c : Source) (row : List (Except DataError Value)) : Line :=
  fun index => do (← Rows.cellIn c.columns row index)

theorem lines_eq (c : Source) : (Cursor.source c).lines = c.left.map c.line := rfl

/-- The rest of a copy is read row by row. -/
theorem copyRest_ok {count : Nat} {read : List (List Value)} {c : Source} {s : Snapshot}
    (hCount : c.remaining = count) (h : (copyRest count read c).1 = .ok s) :
    ∃ rows, s = Rows.ofRows c.columns (read ++ rows) ∧
      List.Forall₂ (fun row values => (List.range c.columns.length).mapM (c.line row) = .ok values)
        c.left rows := by
  induction count generalizing read c with
  | zero =>
      rw [← Rows.left_length, List.length_eq_zero_iff] at hCount
      rw [copyRest] at h
      cases h
      exact ⟨[], by rw [List.append_nil], by rw [hCount]; exact List.Forall₂.nil⟩
  | succ count ih =>
      rw [← Rows.left_length] at hCount
      obtain ⟨row, rest, hLeft⟩ := List.exists_cons_of_length_eq_add_one hCount
      obtain ⟨hNext, hLater, hCell⟩ := Rows.next_of_left_cons hLeft
      have hValues : Source.values (c.seek (some c.upcoming)) =
          (List.range c.columns.length).mapM (c.line row) := by
        refine congrArg (List.mapM · _) (funext fun index => ?_)
        rw [Source.value, hCell]
        rfl
      rw [copyRest, hNext, hValues] at h
      dsimp only at h
      cases hRow : (List.range c.columns.length).mapM (c.line row) with
      | error e =>
          rw [hRow] at h
          cases h
      | ok values =>
          rw [hRow] at h
          have hRemaining : (c.seek (some c.upcoming)).remaining = count := by
            rw [← Rows.left_length, hLater]
            rw [hLeft, List.length_cons] at hCount
            omega
          obtain ⟨rows, rfl, hRows⟩ := ih hRemaining h
          refine ⟨values :: rows, by simp [Rows.seek], ?_⟩
          rw [hLeft]
          rw [hLater] at hRows
          exact List.Forall₂.cons hRow hRows

/-- A copy has the lines of its source, as far as there are columns. -/
theorem copy_ok {c : Source} {s : Snapshot} (h : c.copy.1 = .ok s) :
    s.columns = c.columns ∧ s.position = none ∧
      List.Forall₂ (Line.SameBelow c.columns.length) (Cursor.source c).lines
        (Cursor.snapshot s).lines := by
  obtain ⟨rows, rfl, hRows⟩ := copyRest_ok rfl h
  refine ⟨rfl, rfl, ?_⟩
  change List.Forall₂ _ (c.left.map c.line) (([] ++ rows).map fun row index =>
    Rows.cellIn c.columns row index)
  rw [List.forall₂_map_left_iff, List.forall₂_map_right_iff]
  exact hRows.imp fun row values hRead => Line.sameBelow_of_read hRead c.columns

end Source

end TypedQuery
