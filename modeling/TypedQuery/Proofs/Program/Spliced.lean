import TypedQuery.Proofs.Program.Readings
import TypedQuery.Proofs.Program.Totality

/-! The types that are put into the body of a function: those that scalars and fields are read as,
and the paths of structs. They are exactly the types that the rows of the shape are made of, and
each of them stands in the printed code. -/

namespace TypedQuery

open Stmt

namespace Stmt

/-- The types in a statement, without those in its block. -/
def types : Stmt → List Tokens
  | read _ _ _ type => [type.tokens]
  | build _ _ path fields _ => path :: fields.map (·.type.tokens)
  | newGroups _ element => [element]
  | _ => []

/-- The types in some code, in any block. -/
def typesIn (code : List Stmt) : List Tokens := (deep code).flatMap types

@[simp]
theorem typesIn_nil : typesIn [] = [] := by
  simp [typesIn]

@[simp]
theorem typesIn_cons (s : Stmt) (rest : List Stmt) :
    typesIn (s :: rest) = s.types ++ (typesIn s.body ++ typesIn rest) := by
  simp [typesIn]

@[simp]
theorem typesIn_append (code rest : List Stmt) :
    typesIn (code ++ rest) = typesIn code ++ typesIn rest := by
  simp [typesIn]

theorem typesIn_cons_of_leaf {s : Stmt} (h : s.body = []) (rest : List Stmt) :
    typesIn (s :: rest) = s.types ++ typesIn rest := by
  rw [typesIn_cons, h, typesIn_nil, List.nil_append]

end Stmt

/-- A type that is used to build a struct from rows: its path, or the type of a column field, or one
that is used to build a related struct. -/
inductive EntityRow.Builds (ts : Tokens) : EntityRow → Prop where
  | path {e : EntityRow} (h : ts = e.path) : Builds ts e
  | field {e : EntityRow} {f : ColumnField} (hField : f ∈ e.fields) (h : ts = f.type.tokens) :
      Builds ts e
  | related {e : EntityRow} {r : RelationField × EntityRow} (hRelation : r ∈ e.relations)
      (h : Builds ts r.2) : Builds ts e

def Row.Uses (ts : Tokens) : Row → Prop
  | scalar type _ => ts = type.tokens
  | entity e => e.Builds ts

namespace EntityRow

variable {ts : Tokens}

/-- A struct is built with its path and types, and with those of the structs in it. -/
theorem builds_iff {e : EntityRow} :
    e.Builds ts ↔ (ts = e.path ∨ ∃ f ∈ e.fields, ts = f.type.tokens) ∨
      ∃ r ∈ e.relations, r.2.Builds ts := by
  constructor
  · rintro (h | ⟨hField, h⟩ | ⟨hRelation, h⟩)
    · exact Or.inl (Or.inl h)
    · exact Or.inl (Or.inr ⟨_, hField, h⟩)
    · exact Or.inr ⟨_, hRelation, h⟩
  · rintro ((h | ⟨f, hField, h⟩) | ⟨r, hRelation, h⟩)
    · exact .path h
    · exact .field hField h
    · exact .related hRelation h

/-- If every column has its index, a struct is built with the types of all column fields. -/
theorem mem_types_convert {e : EntityRow} {b : Bindings}
    (hColumns : b.columns.length = e.fields.length) (out cursor : Var) :
    ts ∈ (e.convert b out cursor).types ↔ ts = e.path ∨ ∃ f ∈ e.fields, ts = f.type.tokens := by
  have hFields := congrArg (List.map (·.type.tokens)) (List.map_fst_zip hColumns.ge)
  rw [List.map_map] at hFields
  have hTypes : (e.convert b out cursor).types = e.path :: e.fields.map (·.type.tokens) := by
    rw [← hFields, convert, types, List.map_map]
    rfl
  simp only [hTypes, List.mem_cons, List.mem_map, eq_comm]

/-- Of the code for one related row only the struct expression holds types. -/
theorem typesIn_groupingCode (e : EntityRow) (b : Bindings) (n : Nat) :
    typesIn (e.groupingCode b n) =
      (e.convert b (.temporary "item" (n + 6)) (.temporary "related" (n + 3))).types := by
  rw [groupingCode, typesIn_cons_of_leaf rfl, typesIn_cons_of_leaf rfl, typesIn_cons_of_leaf rfl,
    typesIn_nil]
  exact List.append_nil _

/-- A relation field takes the path of its struct, and the types that the struct is built with. -/
theorem mem_typesIn_relationCode (cursor : Var) (r : RelationField) (e : EntityRow) (b : Bindings)
    (ready : List Stmt) (n : Nat) : ts ∈ typesIn (relationCode cursor r e b ready n) ↔
      ts = e.path ∨ ts ∈ typesIn ready ∨
        ts ∈ (e.convert b (.temporary "item" (n + 6)) (.temporary "related" (n + 3))).types := by
  simp [relationCode, relatedCode, types, body, typesIn_groupingCode]

/-- A lookup holds no type. -/
theorem typesIn_prepareColumns (cursor : Var) (fields : List ColumnField) (n : Nat) :
    typesIn ((prepareColumns cursor fields).run n).1.2 = [] := by
  induction fields generalizing n with
  | nil => rfl
  | cons f rest ih =>
      rw [prepareColumns_cons]
      simpa [types, body] using ih (n + 1)

/-- Every column field has an index. -/
theorem length_columns_prepare (cursor : Var) (e : EntityRow) (n : Nat) :
    ((e.prepare cursor).run n).1.1.columns.length = e.fields.length := by
  obtain ⟨path, fields, relations⟩ := e
  rw [prepare_run]
  exact length_prepareColumns cursor fields n

mutual

/-- Preparation holds the types that related structs are built with. -/
theorem mem_typesIn_prepare (cursor : Var) : (e : EntityRow) → (n : Nat) →
    (ts ∈ typesIn ((e.prepare cursor).run n).1.2 ↔ ∃ r ∈ e.relations, r.2.Builds ts)
  | .mk path fields relations, n => by
      rw [prepare_run, typesIn_append, typesIn_prepareColumns, List.nil_append]
      exact mem_typesIn_prepareRelations cursor relations _

/-- Each collector holds the types of its own related struct. -/
theorem mem_typesIn_prepareRelations (cursor : Var) :
    (relations : List (RelationField × EntityRow)) → (n : Nat) →
    (ts ∈ typesIn ((prepareRelations cursor relations).run n).1.2 ↔
      ∃ r ∈ relations, r.2.Builds ts)
  | [], n => by simp [prepareRelations_nil]
  | (r, entity) :: rest, n => by
      have hInner := mem_typesIn_prepare (.temporary "related" (n + 3)) entity (n + 7)
      have hOuter := mem_typesIn_prepareRelations cursor rest
        ((entity.prepare (.temporary "related" (n + 3))).run (n + 7)).2
      have hConvert : ts ∈ (entity.convert _ _ _).types ↔ _ := mem_types_convert
        (length_columns_prepare (.temporary "related" (n + 3)) entity (n + 7))
        (.temporary "item" (n + 6)) (.temporary "related" (n + 3))
      rw [prepareRelations_cons, typesIn_append, List.mem_append, mem_typesIn_relationCode, hOuter,
        hConvert, hInner, List.exists_mem_cons_iff, builds_iff]
      -- The path stands twice in the code: as the type of the groups, and where a struct is built.
      refine or_congr_left ⟨?_, ?_⟩
      · rintro (hPath | hRelated | hOwn)
        · exact Or.inl (Or.inl hPath)
        · exact Or.inr hRelated
        · exact Or.inl hOwn
      · rintro (hOwn | hRelated)
        · exact Or.inr (Or.inr hOwn)
        · exact Or.inr (Or.inl hRelated)

end

end EntityRow

variable {ts : Tokens}

/-- Preparation and conversion of a row hold the types that the row uses. -/
theorem Row.mem_typesIn (row : Row) (cursor out : Var) (n : Nat) :
    (ts ∈ typesIn ((row.prepare cursor).run n).1.2 ∨
      ts ∈ typesIn (row.convert? ((row.prepare cursor).run n).1.1 out cursor).toList) ↔
        row.Uses ts := by
  cases row with
  | scalar type column =>
      rw [prepare_scalar_run]
      cases column <;> simp [Row.convert?, Row.Uses, types, body]
  | entity e =>
      have hConvert : ts ∈ (e.convert _ _ _).types ↔ _ :=
        EntityRow.mem_types_convert (e.length_columns_prepare cursor n) out cursor
      change (ts ∈ typesIn ((e.prepare cursor).run n).1.2 ∨
        ts ∈ typesIn [e.convert ((e.prepare cursor).run n).1.1 out cursor]) ↔ e.Builds ts
      rw [typesIn_cons_of_leaf rfl, typesIn_nil, List.append_nil, hConvert,
        e.mem_typesIn_prepare cursor n, EntityRow.builds_iff]
      exact or_comm

namespace Shape

theorem mem_typesIn_emitFirst (row : Row) (result : FirstRow) (out cursor : Var) (n : Nat) :
    ts ∈ typesIn ((emitFirst row result out cursor).run n).1 ↔ row.Uses ts := by
  rw [emitFirst_run, ← row.mem_typesIn cursor (.temporary "item" ((row.prepare cursor).run n).2) n]
  simp [types, body]

theorem mem_typesIn_emitList (row : Row) (out cursor : Var) (n : Nat) :
    ts ∈ typesIn ((emitList row out cursor).run n).1 ↔ row.Uses ts := by
  rw [emitList_run, ← row.mem_typesIn cursor (.temporary "item" ((row.prepare cursor).run n).2) n]
  simp [types, body]

/-- A map holds the types of its keys and of its values. -/
theorem mem_typesIn_emitMap (kind : MapKind) (keyRow valueRow : Row) (isMulti : Bool)
    (out cursor : Var) (n : Nat) :
    ts ∈ typesIn ((emitMap kind keyRow valueRow isMulti out cursor).run n).1 ↔
      keyRow.Uses ts ∨ valueRow.Uses ts := by
  have hSkip (check : Option NullCheck) (key : Var) :
      typesIn (check.toList.map (Stmt.skipNulls out key cursor ·)) = [] := by
    cases check <;> simp [types, body]
  let keyReady := (keyRow.prepare cursor).run n
  let ready := (valueRow.prepare cursor).run keyReady.2
  rw [emitMap_run, ← keyRow.mem_typesIn cursor (.temporary "key" ready.2) n,
    ← valueRow.mem_typesIn cursor (.temporary "value" (ready.2 + 1)) keyReady.2]
  rw [or_or_or_comm, or_assoc]
  cases isMulti <;> simp [types, body, hSkip, keyReady, ready]

/-- The code of a shape holds the types that the rows of the shape use. -/
theorem mem_typesIn_emit (shape : Shape) (out cursor : Var) (n : Nat) :
    ts ∈ typesIn ((shape.emit out cursor).run n).1 ↔ ∃ row ∈ shape.parts, row.Uses ts := by
  have hOne (row : Row) : (∃ part ∈ [row], part.Uses ts) ↔ row.Uses ts := by
    rw [List.exists_mem_cons_iff]
    simp
  have hTwo (key value : Row) :
      (∃ part ∈ [key, value], part.Uses ts) ↔ key.Uses ts ∨ value.Uses ts := by
    rw [List.exists_mem_cons_iff, hOne]
  cases shape with
  | single row => exact (mem_typesIn_emitFirst row _ out cursor n).trans (hOne row).symm
  | optional row flattened => exact (mem_typesIn_emitFirst row _ out cursor n).trans (hOne row).symm
  | list row => exact (mem_typesIn_emitList row out cursor n).trans (hOne row).symm
  | stream row =>
      rw [emit_stream_run, typesIn_append, typesIn_cons_of_leaf rfl, typesIn_nil, List.append_nil]
      refine Iff.trans ?_ (hOne row).symm
      rw [← mem_typesIn_emitList row (.temporary "items" n) cursor (n + 1)]
      exact Iff.of_eq (congrArg _ (List.append_nil _))
  | map kind key value =>
      exact (mem_typesIn_emitMap kind key value false out cursor n).trans (hTwo key value).symm
  | multimap kind key value =>
      exact (mem_typesIn_emitMap kind key value true out cursor n).trans (hTwo key value).symm
  | rows =>
      rw [emit_rows_run]
      simp [types, body, parts, key?, row?]
  | rowCount =>
      rw [emit_rowCount_run]
      simp [types, body, parts, key?, row?]

end Shape

/-- The body of a query holds the types that the rows of its shape use. -/
theorem QueryDeclaration.mem_typesIn_body (q : QueryDeclaration) (shape : Shape) :
    ts ∈ typesIn (q.body shape).stmts ↔ ∃ row ∈ shape.parts, row.Uses ts := by
  cases hCopies : shape.copiesCursor with
  | false =>
      rw [q.body_of_direct hCopies, typesIn_cons_of_leaf rfl]
      exact shape.mem_typesIn_emit _ _ _
  | true =>
      rw [q.body_of_copied hCopies, typesIn_cons_of_leaf rfl, typesIn_cons_of_leaf rfl]
      exact shape.mem_typesIn_emit _ _ _

namespace Print

open Tokens

/-- Every item of a list with commas stands in its tokens. -/
theorem infix_commas {arg : Tokens} {args : List Tokens} (h : arg ∈ args) :
    arg <:+: commas args := by
  unfold commas
  induction args with
  | nil => cases h
  | cons first rest ih =>
      cases rest with
      | nil =>
          rw [List.mem_singleton.mp h, Parser.joined]
          exact (List.prefix_append _ _).isInfix
      | cons second rest =>
          rw [Parser.joined]
          · rcases List.mem_cons.mp h with rfl | h
            · exact ⟨[], _, (List.append_assoc _ _ _).symm⟩
            · exact (ih h).trans (List.suffix_append _ _).isInfix
          · exact List.cons_ne_nil second rest

theorem infix_generic {arg : Tokens} {args : List Tokens} (h : arg ∈ args) :
    arg <:+: generic args :=
  (infix_commas h).trans (List.infix_append _ _ _)

/-- A column is read as its declared type. -/
theorem infix_read (cursor index : Var) (type : TypeExpr) :
    type.tokens <:+: Print.read cursor index type := by
  refine (infix_generic (List.mem_singleton_self _)).trans ?_
  exact ⟨var cursor ++ op "." ++ word "get" ++ op "::", paren (var index) ++ op "?",
    (List.append_assoc ..).symm⟩

variable {n : Names} {s : Stmt}

/-- The types of a statement stand in it. -/
theorem within_stmt (h : ts ∈ s.types) : Within ts (stmt n s) := by
  cases s with
  | read out cursor index type =>
      obtain rfl := List.mem_singleton.mp h
      rw [stmt]
      exact .here ((infix_read cursor index type).trans (List.infix_append _ _ _))
  | build out cursor path fields relations =>
      rw [stmt]
      refine Within.mono ?_ (List.infix_append _ _ _)
      rcases List.mem_cons.mp h with rfl | h
      · exact .here (List.prefix_append _ _).isInfix
      · obtain ⟨f, hField, rfl⟩ := List.mem_map.mp h
        refine .inside (List.mem_append_right _ (List.mem_singleton_self _)) (.here ?_)
        have hRead : f.type.tokens <:+: fieldRead cursor f :=
          (infix_read cursor f.index f.type).trans (List.infix_append _ _ _)
        obtain ⟨front, back, rfl⟩ := List.append_of_mem hField
        refine (hRead.trans ?_).trans (List.prefix_append _ _).isInfix
        rw [List.flatMap_append, List.flatMap_cons, ← List.append_assoc]
        exact List.infix_append _ _ _
  | newGroups out element =>
      obtain rfl := List.mem_singleton.mp h
      rw [stmt]
      refine Within.mono ?_ (List.infix_append _ _ _)
      have hGroup : ts <:+: std ["vec", "Vec"] ++ generic [ts] :=
        (infix_generic (List.mem_singleton_self _)).trans (List.suffix_append _ _).isInfix
      have hMap : ts <:+:
          generic [Names.path n ["RelationKey"], std ["vec", "Vec"] ++ generic [ts]] :=
        hGroup.trans (infix_generic (List.mem_cons_of_mem _ (List.mem_singleton_self _)))
      refine .here (hMap.trans ?_)
      exact ⟨std ["collections", "BTreeMap"] ++ op "::", op "::" ++ word "new" ++ paren [], by
        simp only [List.append_assoc]⟩
  | _ => cases h

/-- A block stands in its statement. -/
theorem within_block (h : Within ts (stmts n s.body)) : Within ts (stmt n s) := by
  cases s with
  | whileRows cursor body =>
      rw [stmt]
      exact .inside (List.mem_append_right _ (List.mem_singleton_self _)) h
  | block body =>
      rw [stmt]
      exact .inside (List.mem_singleton_self _) h
  | unlessEmpty cursor body =>
      rw [stmt]
      exact .inside (List.mem_append_right _ (List.mem_singleton_self _)) h
  | firstRow out cursor item body result =>
      rw [stmt]
      refine Within.mono ?_ (List.infix_append _ _ _)
      refine .inside (List.mem_append_left _ (List.mem_append_left _
        (List.mem_append_right _ (List.mem_singleton_self _)))) ?_
      exact h.mono (List.prefix_append _ _).isInfix
  | _ =>
      obtain rfl := Within.eq_nil h
      exact .here List.nil_infix

/-- Every type in some code stands in the printed code. -/
theorem within_stmts {code : List Stmt} (h : ts ∈ typesIn code) : Within ts (stmts n code) := by
  induction code using codeInduction with
  | nil =>
      rw [typesIn_nil] at h
      cases h
  | cons s rest ihBody ihRest =>
      rw [typesIn_cons, List.mem_append, List.mem_append] at h
      rw [stmts]
      rcases h with h | h | h
      · exact (within_stmt h).mono (List.prefix_append _ _).isInfix
      · exact (within_block (ihBody h)).mono (List.prefix_append _ _).isInfix
      · exact (ihRest h).mono (List.suffix_append _ _).isInfix

end Print

end TypedQuery
