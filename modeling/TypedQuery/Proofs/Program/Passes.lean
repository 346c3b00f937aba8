import TypedQuery.Proofs.Program.CursorUse
import TypedQuery.Proofs.Result.Elements

/-! A result is emitted in two steps: preparation for each kind of row that it converts, and then
one pass over the rows. -/

namespace TypedQuery

open Stmt CursorUse

/-- Code that moves once over a cursor, which may drain it into the result, and does nothing else
with any cursor. -/
def Stmt.PassesOver (cursor : Var) (code : List Stmt) : Prop :=
  usesAll code = [walks cursor] ∨ ∃ out, usesAll code = [copies out cursor false]

theorem Stmt.PassesOver.append {cursor : Var} {code rest : List Stmt} (h : PassesOver cursor code)
    (hRest : usesAll rest = []) : PassesOver cursor (code ++ rest) := by
  simpa [PassesOver, hRest] using h

namespace Row

/-- The secondary queries of a row, in the order in which they are sent. -/
def queries : Row → List RelationQuery
  | scalar .. => []
  | entity e => e.queries

theorem usesAll_prepare_scalar (type : TypeExpr) (column : Option String) (cursor : Var) (n : Nat) :
    usesAll (((scalar type column).prepare cursor).run n).1.2 = [] := by
  cases column with
  | none => exact usesAll_cons _ _
  | some column => exact usesAll_cons _ _

theorem prepare_keepsTo (row : Row) (cursor : Var) (n : Nat) :
    KeepsTo cursor ((row.prepare cursor).run n).1.2 := by
  cases row with
  | scalar type column =>
      exact KeepsTo.of_usesAll_eq_nil (usesAll_prepare_scalar type column cursor n)
  | entity e => exact e.prepare_keepsTo cursor n

theorem queries_prepare (row : Row) (cursor : Var) (n : Nat) :
    (usesAll ((row.prepare cursor).run n).1.2).filterMap query? = row.queries := by
  cases row with
  | scalar type column =>
      rw [usesAll_prepare_scalar]
      rfl
  | entity e => exact e.queries_prepare cursor n

/-- Without relation fields preparation looks up columns, and no more. -/
theorem usesAll_prepare_of_plain (row : Row) (cursor : Var) (n : Nat)
    (hPlain : row.relations = []) : usesAll ((row.prepare cursor).run n).1.2 = [] := by
  cases row with
  | scalar type column => exact usesAll_prepare_scalar type column cursor n
  | entity e => exact EntityRow.usesAll_prepare_of_plain cursor n hPlain

/-- A conversion reads the current row. -/
@[simp]
theorem usesAll_convert? (row : Row) (b : Bindings) (out cursor : Var) :
    usesAll (row.convert? b out cursor).toList = [] := by
  apply usesAll_eq_nil
  intro s hs
  cases row with
  | scalar type column =>
      obtain ⟨index, -, rfl⟩ := by simpa [convert?] using hs
      rfl
  | entity e =>
      obtain rfl : s = e.convert b out cursor := by simpa [convert?] using hs
      rfl

end Row

/-- Tests for NULL read the current row. -/
@[simp]
theorem Stmt.usesAll_skipNulls (map key cursor : Var) (checks : List NullCheck) :
    usesAll (checks.map (skipNulls map key cursor ·)) = [] := by
  apply usesAll_eq_nil
  intro s hs
  obtain ⟨check, -, rfl⟩ := List.mem_map.mp hs
  rfl

namespace Shape

/-- The code prepares a cursor for the rows of a part. -/
def Readies (cursor : Var) (row : Row) (ready : List Stmt) : Prop :=
  ∃ n, ready = ((row.prepare cursor).run n).1.2

/-- The code prepares a cursor for parts one after the other, and then passes once over it. -/
def Converts (cursor : Var) (rows : List Row) (code : List Stmt) : Prop :=
  ∃ readies pass, code = readies.flatten ++ pass ∧ List.Forall₂ (Readies cursor) rows readies ∧
    PassesOver cursor pass

section Emission

variable {cursor : Var}

theorem Converts.none {pass : List Stmt} (h : PassesOver cursor pass) :
    Converts cursor [] pass :=
  ⟨[], pass, rfl, List.Forall₂.nil, h⟩

theorem Converts.one {row : Row} {n : Nat} {pass : List Stmt} (h : PassesOver cursor pass) :
    Converts cursor [row] (((row.prepare cursor).run n).1.2 ++ pass) := by
  refine ⟨[((row.prepare cursor).run n).1.2], pass, ?_, ?_, h⟩
  · rw [List.flatten_singleton]
  · exact List.forall₂_cons.mpr ⟨⟨n, rfl⟩, List.Forall₂.nil⟩

theorem Converts.two {row other : Row} {n m : Nat} {pass : List Stmt}
    (h : PassesOver cursor pass) :
    Converts cursor [row, other]
      (((row.prepare cursor).run n).1.2 ++ ((other.prepare cursor).run m).1.2 ++ pass) := by
  refine ⟨[((row.prepare cursor).run n).1.2, ((other.prepare cursor).run m).1.2], pass, ?_, ?_, h⟩
  · rw [List.flatten_cons, List.flatten_singleton]
  · exact List.forall₂_cons.mpr ⟨⟨n, rfl⟩, List.forall₂_cons.mpr ⟨⟨m, rfl⟩, List.Forall₂.nil⟩⟩

theorem Converts.append {rows : List Row} {code rest : List Stmt}
    (h : Converts cursor rows code) (hRest : usesAll rest = []) :
    Converts cursor rows (code ++ rest) := by
  obtain ⟨readies, pass, rfl, hReadies, hPass⟩ := h
  exact ⟨readies, pass ++ rest, List.append_assoc _ _ _, hReadies, hPass.append hRest⟩

theorem emitFirst_converts (row : Row) (result : FirstRow) (out cursor : Var) (n : Nat) :
    Converts cursor [row] ((emitFirst row result out cursor).run n).1 := by
  rw [emitFirst_run]
  refine Converts.one (Or.inl ?_)
  simp [uses]

theorem emitList_converts (row : Row) (out cursor : Var) (n : Nat) :
    Converts cursor [row] ((emitList row out cursor).run n).1 := by
  rw [emitList_run]
  refine Converts.one (Or.inl ?_)
  simp [uses, ownUses]

theorem emitMap_converts (kind : MapKind) (keyRow valueRow : Row) (isMulti : Bool)
    (out cursor : Var) (n : Nat) :
    Converts cursor [keyRow, valueRow]
      ((emitMap kind keyRow valueRow isMulti out cursor).run n).1 := by
  rw [emitMap_run]
  refine Converts.two (Or.inl ?_)
  cases isMulti with
  | false => simp [uses, ownUses]
  | true => simp [uses, ownUses]

/-- Every shape is emitted as preparation for its parts and one pass. -/
theorem emit_converts (shape : Shape) (out cursor : Var) (n : Nat) :
    Converts cursor shape.parts ((shape.emit out cursor).run n).1 := by
  cases shape with
  | single row => exact emitFirst_converts row _ out cursor n
  | optional row flattened => exact emitFirst_converts row _ out cursor n
  | list row => exact emitList_converts row out cursor n
  | stream row =>
      rw [emit_stream_run]
      exact (emitList_converts row _ cursor _).append (by simp [uses, ownUses])
  | map kind key value => exact emitMap_converts kind key value false out cursor n
  | multimap kind key value => exact emitMap_converts kind key value true out cursor n
  | rows =>
      rw [emit_rows_run]
      exact Converts.none (Or.inr ⟨out, by simp [uses, ownUses]⟩)
  | rowCount =>
      rw [emit_rowCount_run]
      exact Converts.none (Or.inl (by simp [uses, ownUses]))

end Emission

section Converts

variable {cursor : Var} {rows : List Row} {code : List Stmt}

/-- Preparation keeps to its cursor and the related rows, and the pass is the last use of both. -/
theorem Converts.keepsTo (h : Converts cursor rows code) :
    ∃ ready pass, code = ready ++ pass ∧ KeepsTo cursor ready ∧ PassesOver cursor pass := by
  obtain ⟨readies, pass, rfl, hReadies, hPass⟩ := h
  refine ⟨readies.flatten, pass, rfl, ?_, hPass⟩
  clear hPass
  induction hReadies with
  | nil => exact KeepsTo.of_usesAll_eq_nil usesAll_nil
  | cons hReady _ ih =>
      obtain ⟨n, rfl⟩ := hReady
      exact (Row.prepare_keepsTo _ cursor n).append ih

/-- The code fetches with the queries of its parts. -/
theorem Converts.queries (h : Converts cursor rows code) :
    (usesAll code).filterMap query? = rows.flatMap Row.queries := by
  obtain ⟨readies, pass, rfl, hReadies, hPass⟩ := h
  have hNone : (usesAll pass).filterMap query? = [] := by
    rcases hPass with hPass | ⟨out, hPass⟩
    · simp [hPass, query?]
    · simp [hPass, query?]
  rw [usesAll_append, List.filterMap_append, hNone, List.append_nil]
  clear hPass hNone
  induction hReadies with
  | nil => rfl
  | cons hReady _ ih =>
      obtain ⟨n, rfl⟩ := hReady
      rw [List.flatten_cons, usesAll_append, List.filterMap_append, ih, Row.queries_prepare,
        List.flatMap_cons]

/-- Rows without relation fields need the pass only. -/
theorem Converts.passesOver (h : Converts cursor rows code)
    (hPlain : ∀ row ∈ rows, row.relations = []) : PassesOver cursor code := by
  obtain ⟨readies, pass, rfl, hReadies, hPass⟩ := h
  have hNone : usesAll readies.flatten = [] := by
    clear hPass
    induction hReadies with
    | nil => simp
    | cons hReady _ ih =>
        rw [List.forall_mem_cons] at hPlain
        obtain ⟨n, rfl⟩ := hReady
        rw [List.flatten_cons, usesAll_append, ih hPlain.2,
          Row.usesAll_prepare_of_plain _ cursor n hPlain.1]
        rfl
  simpa [PassesOver, hNone] using hPass

end Converts

end Shape

end TypedQuery
