import TypedQuery.Program.Function

namespace TypedQuery

namespace EntityRow

theorem prepareColumns_cons (cursor : Var) (f : ColumnField) (rest : List ColumnField) (n : Nat) :
    (prepareColumns cursor (f :: rest)).run n =
      let others := (prepareColumns cursor rest).run (n + 1)
      ((.temporary "index" n :: others.1.1,
        .columnIndex (.temporary "index" n) cursor f.column :: others.1.2), others.2) := rfl

/-- The lookups of column fields are numbered in the order of the fields. -/
theorem prepareColumns_run (cursor : Var) (fields : List ColumnField) (n : Nat) :
    (prepareColumns cursor fields).run n =
      (((List.range' n fields.length).map (Var.temporary "index"),
        (fields.zip (List.range' n fields.length)).map fun (f, i) =>
          .columnIndex (.temporary "index" i) cursor f.column), n + fields.length) := by
  induction fields generalizing n with
  | nil => rfl
  | cons f rest ih =>
      rw [prepareColumns_cons, ih]
      simp [List.range'_succ, Nat.add_comm, Nat.add_left_comm]

/-- The conversion of one related row, and its place in the group of its key. -/
def groupingCode (entity : EntityRow) (bindings : Bindings) (n : Nat) : List Stmt :=
  [.rowKey (.temporary "key" (n + 5)) (.temporary "related" (n + 3))
      (.temporary "key_index" (n + 4)),
    entity.convert bindings (.temporary "item" (n + 6)) (.temporary "related" (n + 3)),
    .addToGroup (.temporary "groups" (n + 2)) (.temporary "key" (n + 5))
      (.temporary "item" (n + 6))]

/-- What is done with related rows if there are any: prepare for them, and group them. -/
def relatedCode (entity : EntityRow) (bindings : Bindings) (ready : List Stmt) (n : Nat) :
    List Stmt :=
  .keyIndex (.temporary "key_index" (n + 4)) (.temporary "related" (n + 3)) ::
    (ready ++ [.whileRows (.temporary "related" (n + 3)) (entity.groupingCode bindings n)])

/-- The code of one relation field, whose temporaries are numbered from `n` on. The preparation for
the related rows stands inside it. -/
def relationCode (cursor : Var) (r : RelationField) (entity : EntityRow) (bindings : Bindings)
    (ready : List Stmt) (n : Nat) : List Stmt :=
  [.columnIndex (.temporary "key_index" n) cursor r.parentColumn,
    .newKeys (.temporary "keys" (n + 1)),
    .whileRows cursor
      [.collectKey (.temporary "keys" (n + 1)) cursor (.temporary "key_index" n)],
    .reset cursor,
    .newGroups (.temporary "groups" (n + 2)) entity.path,
    .block [.fetch (.temporary "related" (n + 3)) (.temporary "keys" (n + 1)) r.query,
      .unlessEmpty (.temporary "related" (n + 3)) (entity.relatedCode bindings ready n)]]

theorem prepareRelations_nil (cursor : Var) (n : Nat) :
    (prepareRelations cursor []).run n = (([], []), n) := rfl

/-- A collector has its own seven numbers, then those of its related struct, and then the next one
follows. -/
theorem prepareRelations_cons (cursor : Var) (r : RelationField) (entity : EntityRow)
    (rest : List (RelationField × EntityRow)) (n : Nat) :
    (prepareRelations cursor ((r, entity) :: rest)).run n =
      let inner := (entity.prepare (.temporary "related" (n + 3))).run (n + 7)
      let outer := (prepareRelations cursor rest).run inner.2
      ((⟨.temporary "key_index" n, .temporary "groups" (n + 2)⟩ :: outer.1.1,
        relationCode cursor r entity inner.1.1 inner.1.2 n ++ outer.1.2), outer.2) := by
  rw [prepareRelations]
  rfl

/-- Columns are numbered before relations. -/
theorem prepare_run (cursor : Var) (path : List Token) (fields : List ColumnField)
    (relations : List (RelationField × EntityRow)) (n : Nat) :
    (prepare cursor (.mk path fields relations)).run n =
      let lookups := (prepareColumns cursor fields).run n
      let fetches := (prepareRelations cursor relations).run lookups.2
      ((⟨lookups.1.1, fetches.1.1⟩, lookups.1.2 ++ fetches.1.2), fetches.2) := by
  rw [prepare]
  rfl

end EntityRow

namespace Shape

theorem emitFirst_run (row : Row) (result : FirstRow) (out cursor : Var) (n : Nat) :
    (emitFirst row result out cursor).run n =
      let ready := (row.prepare cursor).run n
      let item := Var.temporary "item" ready.2
      (ready.1.2 ++ [.firstRow out cursor item (row.convert? ready.1.1 item cursor).toList result],
        ready.2 + 1) := rfl

theorem emitList_run (row : Row) (out cursor : Var) (n : Nat) :
    (emitList row out cursor).run n =
      let ready := (row.prepare cursor).run n
      let item := Var.temporary "item" ready.2
      (ready.1.2 ++ [.newItems out, .whileRows cursor
        ((row.convert? ready.1.1 item cursor).toList ++ [.pushItem out item])], ready.2 + 1) := rfl

/-- A map prepares its key and then its value, and goes over the rows once. -/
theorem emitMap_run (kind : MapKind) (keyRow valueRow : Row) (isMulti : Bool) (out cursor : Var)
    (n : Nat) :
    (emitMap kind keyRow valueRow isMulti out cursor).run n =
      let keyReady := (keyRow.prepare cursor).run n
      let ready := (valueRow.prepare cursor).run keyReady.2
      let key := Var.temporary "key" ready.2
      let value := Var.temporary "value" (ready.2 + 1)
      let skip := if isMulti then
          (valueRow.nullCheck? ready.1.1).toList.map (Stmt.skipNulls out key cursor ·)
        else []
      let add := if isMulti then Stmt.pushEntry out key value else .insertFirst out key value
      (keyReady.1.2 ++ ready.1.2 ++ [.newMap out kind, .whileRows cursor
        ((keyRow.convert? keyReady.1.1 key cursor).toList ++ skip ++
          (valueRow.convert? ready.1.1 value cursor).toList ++ [add])], ready.2 + 2) := rfl

theorem emit_stream_run (row : Row) (out cursor : Var) (n : Nat) :
    (emit out cursor (.stream row)).run n =
      let items := Var.temporary "items" n
      let collected := (emitList row items cursor).run (n + 1)
      (collected.1 ++ [.stream out items], collected.2) := rfl

theorem emit_rows_run (out cursor : Var) (n : Nat) :
    (emit out cursor .rows).run n = ([.copy out cursor false], n) := rfl

theorem emit_rowCount_run (out cursor : Var) (n : Nat) :
    (emit out cursor .rowCount).run n =
      let count := Var.temporary "count" n
      ([.newCount count, .whileRows cursor [.increment count], .rowCount out count], n + 1) := rfl

end Shape

namespace QueryDeclaration

variable (q : QueryDeclaration)

/-- The statement that sends the query. -/
def sending : Stmt :=
  .query (.temporary "cursor" 0) q.query.sql (q.arguments.map (·.1))

/-- Without a copy the cursor has number 0 and the result number 1. -/
theorem emission_of_direct {shape : Shape} (h : shape.copiesCursor = false) :
    (q.emission shape).run 0 =
      let emitted := (shape.emit (.temporary "out" 1) (.temporary "cursor" 0)).run 2
      (⟨q.sending :: emitted.1, .temporary "out" 1⟩, emitted.2) := by
  unfold emission
  simp only [h]
  rfl

/-- A copy has the number between the cursor and the result. -/
theorem emission_of_copied {shape : Shape} (h : shape.copiesCursor = true) :
    (q.emission shape).run 0 =
      let emitted := (shape.emit (.temporary "out" 2) (.temporary "cursor" 1)).run 3
      (⟨q.sending :: .copy (.temporary "cursor" 1) (.temporary "cursor" 0) true :: emitted.1,
        .temporary "out" 2⟩, emitted.2) := by
  unfold emission
  simp only [h]
  rfl

/-- Without relation fields the answer of the query is moved over as it is. -/
theorem body_of_direct {shape : Shape} (h : shape.copiesCursor = false) :
    q.body shape =
      ⟨q.sending :: ((shape.emit (.temporary "out" 1) (.temporary "cursor" 0)).run 2).1,
        .temporary "out" 1⟩ :=
  congrArg Prod.fst (q.emission_of_direct h)

/-- With relation fields the answer is copied, and only the copy is moved over later. -/
theorem body_of_copied {shape : Shape} (h : shape.copiesCursor = true) :
    q.body shape =
      ⟨q.sending :: .copy (.temporary "cursor" 1) (.temporary "cursor" 0) true ::
        ((shape.emit (.temporary "out" 2) (.temporary "cursor" 1)).run 3).1,
        .temporary "out" 2⟩ :=
  congrArg Prod.fst (q.emission_of_copied h)

end QueryDeclaration

/-- The names in the code of queries: the path that is given for the library, and the connection. -/
def Options.names (options : Options) : Names :=
  ⟨options.runtime, QueryDeclaration.connectionName⟩

namespace Expansion

variable {schema : Schema} {q d : QueryDeclaration} {info : QueryInfo} {body : QueryBody}

/-- The function of a query comes from the shape of its result. -/
theorem ofQuery_eq_function_iff :
    ofQuery schema q = .function d info body ↔
      ∃ shape, q.shape schema = .ok shape ∧ d = q ∧ info = q.info shape ∧ body = q.body shape := by
  unfold ofQuery
  cases q.shape schema with
  | error e => simp
  | ok shape => simp [eq_comm]

/-- The code of a query is the constant that describes it and its function. -/
theorem tokens_of_function (h : ofQuery schema q = .function d info body) {options : Options}
    {tokens : Tokens} (hTokens : (ofQuery schema q).tokens? options = some tokens) :
    tokens = Print.constant options.names q.visibility q.constantName info ++
      Print.function options.names q body := by
  obtain ⟨shape, -, rfl, -, -⟩ := ofQuery_eq_function_iff.mp h
  rw [h] at hTokens
  by_cases hName : Text.isIdentifier d.constantName = true
  · simp only [tokens?, hName, ↓reduceIte, Option.some.injEq] at hTokens
    exact hTokens.symm
  · simp [tokens?, hName] at hTokens

end Expansion

end TypedQuery
