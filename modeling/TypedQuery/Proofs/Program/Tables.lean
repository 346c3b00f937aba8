import TypedQuery.Example.Authors
import TypedQuery.Proofs.Data.Sorted
import TypedQuery.Proofs.Program.Passes
import TypedQuery.Proofs.Program.Written

/-! The tables that a query reads besides its own. They are reported from the relation fields of the
result alone, and the code fetches from exactly these tables, because neither keys nor related rows
have relation fields. -/

namespace TypedQuery

open Stmt CursorUse Tokens

namespace EntityRow

theorem queries_eq_nil {e : EntityRow} (h : e.relations = []) : e.queries = [] := by
  obtain ⟨path, fields, relations⟩ := e
  obtain rfl : relations = [] := h
  rw [queries, relationQueries]

/-- Where related structs are plain, one query is sent for each relation field. -/
theorem relationQueries_of_plain {relations : List (RelationField × EntityRow)}
    (h : ∀ filled ∈ relations, filled.2.relations = []) :
    relationQueries relations = relations.map fun filled => filled.1.query := by
  induction relations with
  | nil => rw [relationQueries, List.map_nil]
  | cons filled rest ih =>
      obtain ⟨r, entity⟩ := filled
      rw [List.forall_mem_cons] at h
      rw [relationQueries, queries_eq_nil h.1, ih h.2]
      rfl

theorem mem_tables {e : EntityRow} {t : String} :
    t ∈ e.tables ↔ ∃ filled ∈ e.relations, t ∈ filled.1.query.tables := by
  rw [tables, Sorted.mem_ofList, List.mem_flatMap]

end EntityRow

namespace Row

theorem queries_eq_nil {row : Row} (h : row.relations = []) : row.queries = [] := by
  cases row with
  | scalar type column => rfl
  | entity e => exact EntityRow.queries_eq_nil h

end Row

namespace Schema

variable {schema : Schema} {columns : ResultColumns} {type : TypeExpr} {shape : Shape}

/-- A struct is built with queries of the tables of its relation fields. -/
theorem BuildsEntity.mem_queries {e : Entity} {built : EntityRow} (h : schema.BuildsEntity e built)
    (t : String) :
    t ∈ built.queries.flatMap RelationQuery.tables ↔ schema.ReadsTable e t := by
  rw [← h.mem_tables t]
  have hPlain := h.related_plain
  obtain ⟨path, fields, relations⟩ := built
  have hQueries :
      EntityRow.relationQueries relations = relations.map fun filled => filled.1.query :=
    EntityRow.relationQueries_of_plain hPlain
  rw [EntityRow.queries, hQueries, List.flatMap_map, List.mem_flatMap]
  rfl

/-- Keys need no queries. -/
theorem queries_parts (h : schema.shape type columns = .ok shape) :
    shape.parts.flatMap Row.queries = shape.row?.elim [] Row.queries := by
  have hKey : shape.key?.toList.flatMap Row.queries = [] := by
    cases hRow : shape.key? with
    | none => rfl
    | some key => simp [Row.queries_eq_nil (relations_eq_nil_of_key h hRow)]
  rw [Shape.parts, List.flatMap_append, hKey]
  cases shape.row? with
  | none => rfl
  | some row => simp

/-- The tables that are reported are those of the relation fields of the elements. -/
theorem mem_tables_iff (h : schema.shape type columns = .ok shape) (t : String) :
    t ∈ shape.tables ↔ ∃ e, schema.Elements type e ∧ schema.ReadsTable e t := by
  constructor
  · intro hTable
    unfold Shape.tables at hTable
    cases hRow : shape.row? with
    | none => simp [hRow] at hTable
    | some row =>
        rw [hRow, Option.elim_some] at hTable
        cases row with
        | scalar type column => cases hTable
        | entity built =>
            obtain ⟨e, hElements, hBuilt⟩ := elements_of_row h hRow
            exact ⟨e, hElements, (hBuilt.mem_tables t).mp (EntityRow.mem_tables.mp hTable)⟩
  · rintro ⟨e, hElements, hReads⟩
    obtain ⟨built, hRow, hBuilt⟩ := hElements.row h
    rw [Shape.tables, hRow]
    exact EntityRow.mem_tables.mpr ((hBuilt.mem_tables t).mpr hReads)

/-- The tables of the queries that a shape is filled with are the reported ones. -/
theorem mem_tables_parts (h : schema.shape type columns = .ok shape) (t : String) :
    t ∈ (shape.parts.flatMap Row.queries).flatMap RelationQuery.tables ↔ t ∈ shape.tables := by
  rw [queries_parts h, Shape.tables]
  cases hRow : shape.row? with
  | none => simp
  | some row =>
      cases row with
      | scalar type column => simp [Row.queries, Row.tables]
      | entity built =>
          obtain ⟨e, -, hBuilt⟩ := elements_of_row h hRow
          rw [Option.elim_some, Option.elim_some, Row.queries, Row.tables, EntityRow.mem_tables,
            hBuilt.mem_queries, hBuilt.mem_tables]

end Schema

namespace Shape

/-- Every table is reported once, in ascending order. -/
theorem tables_ascending (shape : Shape) : shape.tables.Pairwise (· < ·) := by
  have hAscending (ks : List String) : (Sorted.ofList ks).Pairwise (· < ·) := by
    refine (Sorted.ascending_ofList ks).imp fun {a b} hOrder => ?_
    exact compareOfLessAndEq_eq_lt.mp hOrder
  unfold tables
  cases shape.row? with
  | none => exact List.Pairwise.nil
  | some row =>
      cases row with
      | scalar type column => exact List.Pairwise.nil
      | entity e => exact hAscending _

end Shape

namespace QueryDeclaration

variable (q : QueryDeclaration)

/-- The function of a query fetches with the queries of the parts of its shape. -/
theorem queries_body (shape : Shape) :
    (usesAll (q.body shape).stmts).filterMap query? = shape.parts.flatMap Row.queries := by
  cases hCopies : shape.copiesCursor with
  | false =>
      rw [q.body_of_direct hCopies, usesAll_cons, List.filterMap_append,
        (shape.emit_converts _ _ _).queries]
      rfl
  | true =>
      rw [q.body_of_copied hCopies, usesAll_cons, usesAll_cons, List.filterMap_append,
        List.filterMap_append, (shape.emit_converts _ _ _).queries]
      rfl

end QueryDeclaration

namespace Print

section Fetched

variable {n : Names} {q : QueryDeclaration} {body : QueryBody} {t : String}

/-- A function writes each table that it fetches from. -/
theorem writesTable_function
    (h : t ∈ ((usesAll body.stmts).filterMap query?).flatMap RelationQuery.tables) :
    (Print.function n q body).WritesTable t := by
  obtain ⟨query, hQuery, hTable⟩ := List.mem_flatMap.mp h
  obtain ⟨u, hUse, hSome⟩ := List.mem_filterMap.mp hQuery
  cases u with
  | fetches out query =>
      cases hSome
      have hStands : (CursorUse.fetches out query).Stands n (Print.function n q body) :=
        stands_function hUse
      exact hStands.writesTable hTable
  | _ => cases hSome

/-- A function fetches from each table that it writes, unless the table is written in the tokens
that were copied into it. -/
theorem tables_of_writesTable (h : (Print.function n q body).WritesTable t) :
    (∃ ts ∈ q.copied n body, ts.WritesTable t) ∨
      t ∈ ((usesAll body.stmts).filterMap query?).flatMap RelationQuery.tables := by
  by_cases hCopied : ∃ ts ∈ q.copied n body, ts.WritesTable t
  · exact Or.inl hCopied
  · have hOwn : .names t ∈ (Print.function n q body).ownReadings (q.copied n body) := by
      refine mem_ownReadings_iff.mpr ⟨names_mem_readings_iff.mpr h, fun ts hts hNames => ?_⟩
      exact hCopied ⟨ts, hts, names_mem_readings_iff.mp hNames⟩
    rw [ownReadings_function] at hOwn
    obtain ⟨u, hUse, hSeen⟩ := List.mem_flatMap.mp (List.mem_of_mem_filter hOwn)
    refine Or.inr ?_
    cases u with
    | fetches out query =>
        obtain ⟨_, hTable, hSame⟩ := List.mem_map.mp hSeen
        cases hSame
        exact List.mem_flatMap.mpr ⟨query, List.mem_filterMap.mpr ⟨_, hUse, rfl⟩, hTable⟩
    | _ => simp [CursorUse.seen] at hSeen

end Fetched

end Print

namespace Expansion

variable {schema : Schema} {q d : QueryDeclaration} {info : QueryInfo} {body : QueryBody}

/-- The tables that the code of a query fetches from are the tables of its shape and those of the
relation fields of its elements, and the constant lists them in ascending order, each once. In the
tokens of the function they are written as the tables of relations, and no other table is, unless
the tokens of the declarations that are copied there bring it along. -/
theorem fetches_from_reported_tables (h : ofQuery schema q = .function d info body) :
    (∀ t, t ∈ ((usesAll body.stmts).filterMap query?).flatMap RelationQuery.tables ↔
      ∃ e, schema.Elements q.output e ∧ schema.ReadsTable e t) ∧
    (∃ shape, q.shape schema = .ok shape ∧ ∀ t, t ∈ shape.tables ↔
      ∃ e, schema.Elements q.output e ∧ schema.ReadsTable e t) ∧
    (∀ t, t ∈ info.relationTables ↔ ∃ e, schema.Elements q.output e ∧ schema.ReadsTable e t) ∧
    info.relationTables.Pairwise (· < ·) ∧
    ∀ options tokens, (ofQuery schema q).tokens? options = some tokens →
      ∃ constant function : Tokens, tokens = constant ++ function ∧
        constant.Informs info.relationTables info.copiesCursor ∧
        (∀ t, (∃ e, schema.Elements q.output e ∧ schema.ReadsTable e t) →
          function.WritesTable t) ∧
        ∀ t, function.WritesTable t → (∃ ts ∈ q.copied options.names body, ts.WritesTable t) ∨
          ∃ e, schema.Elements q.output e ∧ schema.ReadsTable e t := by
  obtain ⟨shape, hShape, rfl, rfl, rfl⟩ := ofQuery_eq_function_iff.mp h
  have hTables := Schema.mem_tables_iff hShape
  have hFetched (t : String) :
      t ∈ ((usesAll (d.body shape).stmts).filterMap query?).flatMap RelationQuery.tables ↔
        ∃ e, schema.Elements d.output e ∧ schema.ReadsTable e t := by
    rw [d.queries_body, Schema.mem_tables_parts hShape, hTables]
  refine ⟨hFetched, ⟨shape, hShape, hTables⟩, hTables, shape.tables_ascending,
    fun options tokens hTokens => ⟨_, _, tokens_of_function h hTokens, ?_, fun t hReads => ?_,
      fun t hWritten => ?_⟩⟩
  · exact Print.informs_constant _ _ _ _
  · exact Print.writesTable_function ((hFetched t).mpr hReads)
  · exact (Print.tables_of_writesTable hWritten).imp_right (hFetched t).mp

theorem authors_fetches_from_reported_tables :
    ∃ info body tokens,
      ofQuery Example.authorSchema Example.authors = .function Example.authors info body ∧
      (ofQuery Example.authorSchema Example.authors).tokens? .default = some tokens ∧
      (∀ t, t ∈ ((usesAll body.stmts).filterMap query?).flatMap RelationQuery.tables ↔
        t ∈ info.relationTables) ∧
      ∃ constant function : Tokens, tokens = constant ++ function ∧
        constant.Informs ["book", "favourite"] true ∧
        ∀ t ∈ ["book", "favourite"], function.WritesTable t := by
  have hFunction : ofQuery Example.authorSchema Example.authors =
      .function Example.authors _ _ := rfl
  have hTokens : (ofQuery Example.authorSchema Example.authors).tokens? .default = some _ := rfl
  obtain ⟨hFetched, -, hReported, -, hCode⟩ := fetches_from_reported_tables hFunction
  obtain ⟨constant, function, hParts, hInforms, hWritten, -⟩ := hCode _ _ hTokens
  exact ⟨_, _, _, hFunction, hTokens, fun t => (hFetched t).trans (hReported t).symm,
    constant, function, hParts, hInforms, fun t ht => hWritten t ((hReported t).mp ht)⟩

end Expansion

end TypedQuery
