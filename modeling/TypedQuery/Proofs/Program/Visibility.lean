import TypedQuery.Proofs.Program.Emission
import TypedQuery.Proofs.Program.Variables
import TypedQuery.Proofs.Run.Rows

/-! Emitted code is scoped. Preparation binds what it hands over for the conversion of rows, and
both read no variables but their cursor and those. -/

namespace TypedQuery

open Stmt

/-- The variables that preparation hands over. -/
def Bindings.vars (b : Bindings) : List Var :=
  b.columns ++ b.relations.flatMap fun r => [r.keyIndex, r.groups]

namespace EntityRow

/-- Conversion reads the cursor and the bindings of the row. -/
theorem reads_convert (e : EntityRow) (b : Bindings) (out cursor : Var) :
    (e.convert b out cursor).reads ⊆ cursor :: b.vars := by
  intro v hv
  simp only [convert, reads, List.flatMap_map, List.mem_append, List.mem_flatMap] at hv
  rcases hv with ⟨⟨f, index⟩, hMem, hv⟩ | ⟨⟨⟨r, entity⟩, groups⟩, hMem, hv⟩
  · rcases List.mem_cons.mp hv with rfl | hv
    · exact List.mem_cons_self
    · obtain rfl := List.mem_singleton.mp hv
      exact List.mem_cons_of_mem _ (List.mem_append_left _ (List.of_mem_zip hMem).2)
  · rcases List.mem_cons.mp hv with rfl | hv
    · exact List.mem_cons_self
    · have hGroups : v ∈ b.relations.flatMap fun r => [r.keyIndex, r.groups] :=
        List.mem_flatMap.mpr ⟨groups, (List.of_mem_zip hMem).2, hv⟩
      exact List.mem_cons_of_mem _ (List.mem_append_right _ hGroups)

variable {bound : List Var} {cursor : Var}

theorem scoped_prepareColumns (h : cursor ∈ bound) (fields : List ColumnField) (n : Nat) :
    Scoped bound ((prepareColumns cursor fields).run n).1.2 ∧
      binds ((prepareColumns cursor fields).run n).1.2 =
        ((prepareColumns cursor fields).run n).1.1 := by
  induction fields generalizing bound n with
  | nil => exact ⟨Scoped.nil, rfl⟩
  | cons f rest ih =>
      rw [prepareColumns_cons]
      obtain ⟨hRest, hBinds⟩ := ih (List.mem_append_left [.temporary "index" n] h) (n + 1)
      simp [scoped_cons_iff, bound?, reads, Stmt.body, result?, h, hRest, hBinds, Scoped.nil]

section Relation

variable {entity : EntityRow} {bindings : Bindings} {ready : List Stmt} {n : Nat}

theorem scoped_groupingCode (hRelated : .temporary "related" (n + 3) ∈ bound)
    (hIndex : .temporary "key_index" (n + 4) ∈ bound)
    (hGroups : .temporary "groups" (n + 2) ∈ bound) (hBindings : bindings.vars ⊆ bound) :
    Scoped bound (entity.groupingCode bindings n) := by
  have hConvert : (entity.convert bindings (.temporary "item" (n + 6))
      (.temporary "related" (n + 3))).reads ⊆ bound ++ [.temporary "key" (n + 5)] :=
    List.Subset.trans (reads_convert entity bindings _ _) (List.cons_subset.mpr
      ⟨List.mem_append_left _ hRelated, List.subset_append_of_subset_left _ hBindings⟩)
  refine .cons (by simp [reads, hRelated, hIndex]) .nil (List.nil_subset _) ?_
  refine .cons hConvert .nil (List.nil_subset _) ?_
  refine .cons ?_ .nil (List.nil_subset _) .nil
  simp [reads, bound?, convert, hGroups]

theorem scoped_relatedCode (hRelated : .temporary "related" (n + 3) ∈ bound)
    (hGroups : .temporary "groups" (n + 2) ∈ bound)
    (hReady : ∀ inner, .temporary "related" (n + 3) ∈ inner → Scoped inner ready)
    (hBindings : bindings.vars ⊆ binds ready) :
    Scoped bound (entity.relatedCode bindings ready n) := by
  refine .cons (by simp [reads, hRelated]) .nil (List.nil_subset _) ?_
  refine (hReady _ (List.mem_append_left _ hRelated)).append ?_
  refine .cons (by simp [reads, hRelated]) ?_ (List.nil_subset _) .nil
  exact scoped_groupingCode (by simp [hRelated]) (by simp [bound?]) (by simp [hGroups])
    (List.subset_append_of_subset_right _ hBindings)

/-- The code of a relation field reads its cursor, and what it binds itself. -/
theorem scoped_relationCode (h : cursor ∈ bound) (r : RelationField) (entity : EntityRow)
    (hReady : ∀ inner, .temporary "related" (n + 3) ∈ inner → Scoped inner ready)
    (hBindings : bindings.vars ⊆ binds ready) :
    Scoped bound (relationCode cursor r entity bindings ready n) := by
  have hNested {inner : List Var} (hRelated : .temporary "related" (n + 3) ∈ inner)
      (hGroups : .temporary "groups" (n + 2) ∈ inner) :
      Scoped inner (entity.relatedCode bindings ready n) :=
    scoped_relatedCode hRelated hGroups hReady hBindings
  simp [relationCode, scoped_cons_iff, bound?, reads, Stmt.body, result?, h, Scoped.nil, hNested]

end Relation

mutual

/-- Preparation reads its cursor and what it binds, and it binds what it hands over. -/
theorem scoped_prepare {bound : List Var} {cursor : Var} (h : cursor ∈ bound) :
    (e : EntityRow) → (n : Nat) → Scoped bound ((e.prepare cursor).run n).1.2 ∧
      ((e.prepare cursor).run n).1.1.vars ⊆ binds ((e.prepare cursor).run n).1.2
  | .mk path fields relations, n => by
      rw [prepare_run]
      obtain ⟨hLookups, hColumns⟩ := scoped_prepareColumns h fields n
      obtain ⟨hFetches, hGroups⟩ := scoped_prepareRelations
        (List.mem_append_left (binds ((prepareColumns cursor fields).run n).1.2) h) relations
        ((prepareColumns cursor fields).run n).2
      refine ⟨hLookups.append hFetches, ?_⟩
      rw [binds_append, Bindings.vars, hColumns]
      exact append_subset_append (List.Subset.refl _) hGroups

theorem scoped_prepareRelations {bound : List Var} {cursor : Var} (h : cursor ∈ bound) :
    (relations : List (RelationField × EntityRow)) → (n : Nat) →
    Scoped bound ((prepareRelations cursor relations).run n).1.2 ∧
      (((prepareRelations cursor relations).run n).1.1.flatMap fun r => [r.keyIndex, r.groups]) ⊆
        binds ((prepareRelations cursor relations).run n).1.2
  | [], n => by
      rw [prepareRelations_nil]
      exact ⟨.nil, List.nil_subset _⟩
  | (r, entity) :: rest, n => by
      rw [prepareRelations_cons]
      have hInner {inner : List Var} (hRelated : .temporary "related" (n + 3) ∈ inner) :=
        scoped_prepare hRelated entity (n + 7)
      have hCode := scoped_relationCode h r entity (fun _ hRelated => (hInner hRelated).1)
        (hInner (List.mem_singleton.mpr rfl)).2
      obtain ⟨hRest, hOthers⟩ := scoped_prepareRelations (List.mem_append_left (binds _) h) rest _
      refine ⟨hCode.append hRest, ?_⟩
      rw [binds_append, List.flatMap_cons]
      exact append_subset_append (by simp [relationCode, bound?]) hOthers

end

end EntityRow

namespace Row

theorem scoped_prepare {bound : List Var} {cursor : Var} (h : cursor ∈ bound) (row : Row)
    (n : Nat) : Scoped bound ((row.prepare cursor).run n).1.2 ∧
      ((row.prepare cursor).run n).1.1.vars ⊆ binds ((row.prepare cursor).run n).1.2 := by
  cases row with
  | scalar type column =>
      rw [prepare_scalar_run]
      cases column <;>
        simp [scoped_cons_iff, bound?, reads, Stmt.body, result?, h, Scoped.nil, Bindings.vars]
  | entity e => exact e.scoped_prepare h n

/-- A row that fits its bindings is converted by one statement. -/
theorem convert?_spec {row : Row} {b : Bindings} (h : row.Fits b) (out cursor : Var) :
    ∃ s, row.convert? b out cursor = some s ∧ s.bound? = some out ∧ s.body = [] ∧
      s.result? = none ∧ s.reads ⊆ cursor :: b.vars := by
  cases row with
  | scalar type column =>
      obtain ⟨v, hColumns⟩ := List.length_eq_one_iff.mp h
      refine ⟨.read out cursor v type, by simp [convert?, hColumns], rfl, rfl, rfl, ?_⟩
      simp [reads, Bindings.vars, hColumns]
  | entity e => exact ⟨e.convert b out cursor, rfl, rfl, rfl, rfl, e.reads_convert b out cursor⟩

theorem scoped_convert? {bound : List Var} {row : Row} {b : Bindings} {cursor : Var}
    (hFits : row.Fits b) (hCursor : cursor ∈ bound) (hBindings : b.vars ⊆ bound) (out : Var) :
    Scoped bound (row.convert? b out cursor).toList ∧
      binds (row.convert? b out cursor).toList = [out] := by
  obtain ⟨s, hCode, hBound, hBody, hResult, hReads⟩ := convert?_spec hFits out cursor
  have hKnown : s.reads ⊆ bound :=
    List.Subset.trans hReads (List.cons_subset.mpr ⟨hCursor, hBindings⟩)
  simp [hCode, scoped_cons_iff, hBound, hBody, hKnown, hResult, Scoped.nil]

/-- The test that a row has no value looks at columns that were prepared. -/
theorem columns_nullCheck? {row : Row} {b : Bindings} {check : NullCheck}
    (h : row.nullCheck? b = some check) : check.columns ⊆ b.vars := by
  apply List.subset_append_of_subset_left
  cases row with
  | scalar type column =>
      obtain ⟨-, index, hIndex, rfl⟩ : isNullable type = false ∧
          ∃ index, b.columns.head? = some index ∧ NullCheck.mk [index] false = check := by
        simpa [nullCheck?] using h
      exact List.cons_subset.mpr ⟨List.mem_of_head? hIndex, List.nil_subset _⟩
  | entity e =>
      simp only [nullCheck?, EntityRow.nullCheck?] at h
      split at h
      · cases h
      · obtain rfl := Option.some.inj h
        exact List.Subset.refl _

end Row

namespace Shape

variable {bound : List Var} {cursor : Var}

theorem scoped_emitFirst (h : cursor ∈ bound) (row : Row) (result : FirstRow) (out : Var)
    (n : Nat) :
    Scoped bound ((emitFirst row result out cursor).run n).1 ∧
      out ∈ binds ((emitFirst row result out cursor).run n).1 := by
  rw [emitFirst_run]
  obtain ⟨hReady, hBindings⟩ := row.scoped_prepare h n
  obtain ⟨hConvert, hItem⟩ := Row.scoped_convert? (row.prepare_fits cursor n)
    (List.mem_append_left _ h) (List.subset_append_of_subset_right bound hBindings)
    (.temporary "item" ((row.prepare cursor).run n).2)
  refine ⟨hReady.append ?_, by simp [bound?]⟩
  simp [scoped_cons_iff, reads, Stmt.body, result?, h, hConvert, hItem, Scoped.nil]

theorem scoped_emitList (h : cursor ∈ bound) (row : Row) (out : Var) (n : Nat) :
    Scoped bound ((emitList row out cursor).run n).1 ∧
      out ∈ binds ((emitList row out cursor).run n).1 := by
  rw [emitList_run]
  obtain ⟨hReady, hBindings⟩ := row.scoped_prepare h n
  have hKnown := List.subset_append_of_subset_left [out]
    (List.subset_append_of_subset_right bound hBindings)
  obtain ⟨hConvert, hItem⟩ := Row.scoped_convert? (row.prepare_fits cursor n)
    (List.mem_append_left _ (List.mem_append_left _ h)) hKnown
    (.temporary "item" ((row.prepare cursor).run n).2)
  refine ⟨hReady.append ?_, by simp [bound?]⟩
  refine .cons (List.nil_subset _) .nil (List.nil_subset _) ?_
  refine .cons (by simp [reads, h]) (hConvert.append ?_) (List.nil_subset _) .nil
  simp [scoped_cons_iff, reads, bound?, Stmt.body, result?, hItem, Scoped.nil]

/-- The key of a row is converted first, so that the test for a value can name it. -/
theorem scoped_entry {keyRow valueRow : Row} {keyBindings bindings : Bindings} {out : Var}
    (hKeyFits : keyRow.Fits keyBindings) (hFits : valueRow.Fits bindings) (hCursor : cursor ∈ bound)
    (hOut : out ∈ bound) (hKeyBindings : keyBindings.vars ⊆ bound)
    (hBindings : bindings.vars ⊆ bound) (isMulti : Bool) (key value : Var) :
    Scoped bound ((keyRow.convert? keyBindings key cursor).toList ++
      (if isMulti then (valueRow.nullCheck? bindings).toList.map (Stmt.skipNulls out key cursor ·)
        else []) ++ (valueRow.convert? bindings value cursor).toList ++
      [if isMulti then Stmt.pushEntry out key value else .insertFirst out key value]) := by
  obtain ⟨hKey, hKeyBound⟩ := Row.scoped_convert? hKeyFits hCursor hKeyBindings key
  have hSkip : Scoped (bound ++ [key])
      ((valueRow.nullCheck? bindings).toList.map (Stmt.skipNulls out key cursor ·)) ∧
        binds ((valueRow.nullCheck? bindings).toList.map
          (Stmt.skipNulls out key cursor ·)) = [] := by
    cases hCheck : valueRow.nullCheck? bindings with
    | none => exact ⟨.nil, rfl⟩
    | some check =>
        refine ⟨.cons ?_ .nil (List.nil_subset _) .nil, rfl⟩
        intro v hv
        rcases List.mem_append.mp hv with hv | hv
        · obtain ⟨index, hIndex, hv⟩ := List.mem_flatMap.mp hv
          rcases List.mem_cons.mp hv with rfl | hv
          · exact List.mem_append_left _ hCursor
          · obtain rfl := List.mem_singleton.mp hv
            exact List.mem_append_left _ (hBindings (Row.columns_nullCheck? hCheck hIndex))
        · rcases List.mem_cons.mp hv with rfl | hv
          · exact List.mem_append_left _ hOut
          · exact List.mem_append_right _ hv
  obtain ⟨hValue, hValueBound⟩ := Row.scoped_convert? hFits (List.mem_append_left [key] hCursor)
    (List.subset_append_of_subset_left [key] hBindings) value
  cases isMulti with
  | false =>
      simp only [Bool.false_eq_true, ↓reduceIte, List.append_nil]
      refine (hKey.append (by rwa [hKeyBound])).append ?_
      simp [scoped_cons_iff, reads, Stmt.body, result?, hKeyBound, hValueBound, hOut, Scoped.nil]
  | true =>
      simp only [↓reduceIte]
      refine ((hKey.append (by rw [hKeyBound]; exact hSkip.1)).append ?_).append ?_
      · rw [binds_append, hKeyBound, hSkip.2]
        exact hValue
      · simp [scoped_cons_iff, reads, Stmt.body, result?, hKeyBound, hValueBound, hOut, Scoped.nil]

theorem scoped_emitMap (h : cursor ∈ bound) (kind : MapKind) (keyRow valueRow : Row)
    (isMulti : Bool) (out : Var) (n : Nat) :
    Scoped bound ((emitMap kind keyRow valueRow isMulti out cursor).run n).1 ∧
      out ∈ binds ((emitMap kind keyRow valueRow isMulti out cursor).run n).1 := by
  rw [emitMap_run]
  obtain ⟨hKeyReady, hKeyBindings⟩ := keyRow.scoped_prepare h n
  obtain ⟨hReady, hBindings⟩ := valueRow.scoped_prepare
    (List.mem_append_left (binds ((keyRow.prepare cursor).run n).1.2) h)
    ((keyRow.prepare cursor).run n).2
  refine ⟨(hKeyReady.append hReady).append ?_, by simp [bound?]⟩
  refine .cons (List.nil_subset _) .nil (List.nil_subset _) ?_
  refine .cons (by simp [reads, h]) ?_ (List.nil_subset _) .nil
  apply scoped_entry (keyRow.prepare_fits cursor n) (valueRow.prepare_fits cursor _)
  · simp [h]
  · simp [bound?]
  · exact fun v hv => by simp [hKeyBindings hv]
  · exact fun v hv => by simp [hBindings hv]

/-- The code of a result binds `out`, and it reads nothing but its cursor and what it binds. -/
theorem scoped_emit (h : cursor ∈ bound) (shape : Shape) (out : Var) (n : Nat) :
    Scoped bound ((shape.emit out cursor).run n).1 ∧
      out ∈ binds ((shape.emit out cursor).run n).1 := by
  cases shape with
  | single row => exact scoped_emitFirst h row _ out n
  | optional row flattened => exact scoped_emitFirst h row _ out n
  | list row => exact scoped_emitList h row out n
  | stream row =>
      rw [emit_stream_run]
      obtain ⟨hItems, hBound⟩ := scoped_emitList h row (.temporary "items" n) (n + 1)
      refine ⟨hItems.append ?_, by simp [bound?]⟩
      simp [scoped_cons_iff, reads, Stmt.body, result?, hBound, Scoped.nil]
  | map kind key value => exact scoped_emitMap h kind key value false out n
  | multimap kind key value => exact scoped_emitMap h kind key value true out n
  | rows =>
      rw [emit_rows_run]
      simp [scoped_cons_iff, reads, bound?, Stmt.body, result?, h, Scoped.nil]
  | rowCount =>
      rw [emit_rowCount_run]
      simp [scoped_cons_iff, reads, bound?, Stmt.body, result?, h, Scoped.nil]

end Shape

end TypedQuery
