import Mathlib.Algebra.GroupWithZero.Nat
import TypedQuery.Example.Authors
import TypedQuery.Proofs.Calls.Jobs
import TypedQuery.Proofs.Relation.Grouping
import TypedQuery.Proofs.Run.Body

/-! The calls of a query function, whatever the connection answers. They are the call of its own
query and those of the planned jobs, up to the first job that fails. -/

namespace TypedQuery

open Job

/-- Keys that can all be read are collected in their order. -/
theorem Line.keys_eq {index : Nat} {lines : List Line}
    (h : ∀ line ∈ lines, ∃ v, line index = .ok v) :
    keys index lines = .ok (Sorted.ofList (lines.filterMap (·.key? index))) := by
  rw [keys, Sorted.ofList]
  generalize ([] : List Key) = seen
  induction lines generalizing seen with
  | nil => rfl
  | cons line rest ih =>
      rw [List.forall_mem_cons] at h
      obtain ⟨v, hRead⟩ := h.1
      have hValue : line index = pure v := hRead
      cases hKey : v.toKey with
      | none => simpa [key?_of_read hRead, hValue, hKey] using ih h.2 seen
      | some k => simpa [key?_of_read hRead, hValue, hKey] using ih h.2 (Sorted.insert k seen)

/-- Every column of a copy can be read in every line. -/
theorem Source.copy_reads {c : Source} {s : Snapshot} (h : c.copy.1 = .ok s) {index : Nat}
    (hIndex : index < c.columns.length) :
    ∀ line ∈ (Cursor.snapshot s).lines, ∃ v, line index = .ok v := by
  obtain ⟨rows, rfl, hRows⟩ := copyRest_ok rfl h
  intro line hLine
  obtain ⟨row, hRow, rfl⟩ := List.mem_map.mp hLine
  obtain ⟨read, -, hRead⟩ := exists_of_forall₂_right hRows hRow
  have hLength := (mapM_eq_ok_iff.mp hRead).length_eq
  rw [List.length_range] at hLength
  refine ⟨row[index], ?_⟩
  change Rows.cellIn c.columns row index = _
  rw [Rows.cellIn, List.getElem?_eq_getElem (by omega)]

/-- Lines of the same values have the same keys. -/
theorem Line.filterMap_key?_congr {n index : Nat} (hIndex : index < n) {lines others : List Line}
    (h : List.Forall₂ (Line.SameBelow n) lines others) :
    lines.filterMap (·.key? index) = others.filterMap (·.key? index) := by
  induction h with
  | nil => rfl
  | cons hHead _ ih => rw [List.filterMap_cons, List.filterMap_cons, ih, key?, key?, hHead _ hIndex]

/-- The keys that are collected from a copy are those of the answer. -/
theorem RelationField.keys_of_copy {r : RelationField} {answer : Source} {s : Snapshot}
    {index : Nat} (hCopy : answer.copy.1 = .ok s)
    (hIndex : (Cursor.source answer).columnIndex r.parentColumn = .ok index) :
    Line.keys index (Cursor.snapshot s).lines = .ok (r.parentKeys (.source answer)) := by
  have hBound : index < answer.columns.length := Cursor.lt_of_columnIndex hIndex
  obtain ⟨-, -, hLines⟩ := Source.copy_ok hCopy
  rw [Line.keys_eq (Source.copy_reads hCopy hBound), parentKeys, hIndex]
  simp only [Line.filterMap_key?_congr hBound hLines]

/-- The keys of a relation field are those in its column, on any line. -/
theorem RelationField.mem_parentKeys {r : RelationField} {c : Cursor} {k : Key} :
    k ∈ r.parentKeys c ↔ ∃ index, c.columnIndex r.parentColumn = .ok index ∧
      ∃ line ∈ c.lines, line index = .ok k.toValue := by
  have hKey (line : Line) (index : Nat) :
      line.key? index = some k ↔ line index = .ok k.toValue := by
    rw [Line.key?]
    cases hRead : line index with
    | error e => simp
    | ok v =>
        simp only [Except.ok.injEq]
        constructor
        · exact fun h => (Value.toValue_of_toKey h).symm
        · rintro rfl
          exact k.toKey_toValue
  rw [parentKeys]
  cases hIndex : c.columnIndex r.parentColumn with
  | error e => simp
  | ok index => simp [Sorted.mem_ofList, hKey]

/-- Keys are collected in a set, so they are ascending. -/
theorem RelationField.ascending_parentKeys (r : RelationField) (c : Cursor) :
    Sorted.Ascending (r.parentKeys c) := by
  rw [parentKeys]
  cases c.columnIndex r.parentColumn with
  | error e => exact Sorted.ascending_nil
  | ok index => exact Sorted.ascending_ofList _

/-- What the calls of a relation field bind: each value of its column that can be a key once, in
ascending order, in pieces that are full but perhaps for the last. -/
structure RelationField.KeyPieces (r : RelationField) (c : Cursor) : Prop where
  ascending : Sorted.Ascending (r.parentKeys c)
  mem_iff : ∀ k, k ∈ r.parentKeys c ↔ ∃ index, c.columnIndex r.parentColumn = .ok index ∧
    ∃ line ∈ c.lines, line index = .ok k.toValue
  flatten : (chunks maxBindParameters (r.parentKeys c)).flatten = r.parentKeys c
  full : ∀ front last, chunks maxBindParameters (r.parentKeys c) = front ++ [last] →
    (∀ piece ∈ front, piece.length = 999) ∧ 0 < last.length ∧ last.length ≤ 999

/-- The keys are cut into ascending pieces, each as large as may be. -/
theorem RelationField.keyPieces (r : RelationField) (c : Cursor) : r.KeyPieces c where
  ascending := r.ascending_parentKeys c
  mem_iff _ := mem_parentKeys
  flatten := flatten_chunks (by decide) _
  full _ _ := chunks_full

/-- One call is made for each piece of 999 keys. -/
theorem RelationField.length_calls (r : RelationField) (db : Connection) (c : Cursor) :
    (r.calls db c).length = ((r.parentKeys c).length + 998) / 999 := by
  rw [calls, List.length_map, length_chunks (by decide)]
  rfl

/-- The jobs of a relation field. -/
def RelationField.jobs (answer : Source) (filled : RelationField × EntityRow) : List Job :=
  .lookup filled.1.parentColumn ::
    (chunks maxBindParameters (filled.1.parentKeys (.source answer))).map (.fetch filled.1.query) ++
    [.group filled.2]

namespace Row

/-- The columns that a row is read from. -/
def columns : Row → List String
  | scalar _ column => column.toList
  | entity e => e.fields.map (·.column)

def jobs (answer : Source) (row : Row) : List Job :=
  row.columns.map .lookup ++ row.relations.flatMap (RelationField.jobs answer)

end Row

namespace Shape

/-- The jobs after the answer: rows are copied, and then the keys are prepared for and the
values. -/
def jobs (s : Shape) (answer : Source) : List Job :=
  .copy :: s.parts.flatMap (Row.jobs answer)

/-- The relation fields of what each row becomes. -/
def relations (s : Shape) : List (RelationField × EntityRow) := s.row?.elim [] Row.relations

end Shape

section Executing

variable {reader : Reader} {db : Connection} {shape : Shape} {answer : Source} {c : Cursor}
  {held : Option Snapshot}

/-- A lookup is a job that depends on the columns of the answer alone. -/
theorem executes_lookup (hColumns : c.columns = answer.columns) (column : String) :
    (liftM (c.columnIndex column) : Session Nat).Executes reader db shape answer held
      [.lookup column] fun index left => c.columnIndex column = .ok index ∧ left = held := by
  refine Session.executes_job (f := fun _ => held) fun sent =>
    ⟨c.columnIndex column, ?_, ?_, fun index hIndex => ⟨hIndex, rfl⟩⟩
  · rw [Session.after_liftM]
    exact congrArg _ (List.append_nil sent).symm
  · have hSame : c.columnIndex column = (Cursor.source answer).columnIndex column :=
      Cursor.columnIndex_congr hColumns column
    rw [perform, hSame]

/-- Each column is a job of its own. -/
theorem executes_lookups (hColumns : c.columns = answer.columns) (columns : List String) :
    (liftM (columns.mapM c.columnIndex) : Session (List Nat)).Executes reader db shape answer held
      (columns.map .lookup) fun _ left => left = held := by
  induction columns with
  | nil => exact Session.Executes.pure rfl
  | cons column rest ih =>
      rw [List.mapM_cons, liftM_bind]
      refine (executes_lookup hColumns column).bind fun index left hFound => ?_
      obtain ⟨-, rfl⟩ := hFound
      rw [liftM_bind, ← List.append_nil (rest.map Job.lookup)]
      exact ih.bind fun indices left hLeft => Session.Executes.pure hLeft

/-- A piece of the keys is asked for with one call, whatever becomes of the answer. -/
theorem fetchChunk_after (q : RelationQuery) (keys : List Key) (sent : List Call) :
    (q.fetchChunk db (keys.map Key.toValue)).after sent =
      (do (← db.answer sent (q.call db keys)).copy.1, sent ++ [q.call db keys]) := by
  rw [RelationQuery.fetchChunk, List.length_map, Session.after_bind, Connection.query_after,
    RelationQuery.call]
  cases db.answer sent ⟨q.sql db keys.length, keys.map Key.toValue⟩ with
  | error e => rfl
  | ok answer => exact Session.after_liftM _ _

/-- A failure of a relation is told with its table, and the calls stay the same. -/
theorem located_after {β : Type} (q : RelationQuery) (session : Session β) (sent : List Call) :
    (q.located session).after sent =
      ((session.after sent).1.mapError (.relation q.table), (session.after sent).2) := rfl

/-- Each piece of the keys is a job of its own. -/
theorem executes_fetch (q : RelationQuery) (keys : List Key) :
    (q.fetch db keys).Executes reader db shape answer none
      ((chunks maxBindParameters keys).map (.fetch q)) fun rows left =>
        rows = left.getD (Rows.ofRows [] []) := by
  let step (earlier : Option Snapshot) (piece : List Key) : Session (Option Snapshot) :=
    q.located do
      return some (← RelationQuery.joinAnswer earlier (← q.fetchChunk db (piece.map Key.toValue)))
  have hStep (earlier : Option Snapshot) (piece : List Key) :
      (step earlier piece).Executes reader db shape answer earlier [.fetch q piece]
        fun joined left => joined = left := by
    refine Session.executes_job (f := id) fun sent => ?_
    refine ⟨Except.mapError (.relation q.table)
      ((do (← db.answer sent (q.call db piece)).copy.1) >>= fun rows => do
        return some (← RelationQuery.joinAnswer earlier rows)), ?_, ?_, fun _ _ => rfl⟩
    · rw [located_after, Session.after_bind, fetchChunk_after]
      generalize (do (← db.answer sent (q.call db piece)).copy.1 : Except DataError Snapshot) = read
      cases read with
      | error e => rfl
      | ok rows =>
          change _ = (Except.mapError _ (RelationQuery.joinAnswer earlier rows >>=
            fun joined => pure (some joined)), _)
          dsimp only
          rw [Session.after_bind, Session.after_liftM]
          cases RelationQuery.joinAnswer earlier rows <;> rfl
    · rw [id_map, perform, bind_assoc]
  have hScan (pieces : List (List Key)) (earlier : Option Snapshot) :
      (pieces.foldlM step earlier).Executes reader db shape answer earlier (pieces.map (.fetch q))
        fun joined left => joined = left := by
    induction pieces generalizing earlier with
    | nil => exact Session.Executes.pure rfl
    | cons piece rest ih =>
        rw [List.foldlM_cons]
        refine (hStep earlier piece).bind fun joined left hLeft => ?_
        subst hLeft
        exact ih joined
  rw [RelationQuery.fetch, chunks_map (by decide), List.foldlM_map,
    ← List.append_nil (List.map _ _)]
  refine (hScan _ none).bind fun joined left hLeft => Session.Executes.pure ?_
  rw [hLeft]

/-- Related rows are grouped without any call. -/
theorem executes_group {entity : EntityRow} (hPlain : entity.relations = []) {rows : Snapshot}
    (hRows : rows = held.getD (Rows.ofRows [] [])) :
    (entity.relatedGroups reader rows (entity.prepared reader db (.snapshot rows))).Executes reader
      db shape answer held [.group entity] fun _ left => left = none := by
  subst hRows
  generalize hHeld : held.getD (Rows.ofRows [] []) = rows
  have hGroups : entity.relatedGroups reader rows (entity.prepared reader db (.snapshot rows)) =
      liftM (entity.groups reader rows) := by
    obtain ⟨path, fields, relations⟩ := entity
    obtain rfl : relations = [] := hPlain
    rw [EntityRow.relatedGroups, EntityRow.groups, EntityRow.prepared, EntityRow.preparedRelations]
    by_cases hEmpty : rows.rows.isEmpty = true
    · rw [if_pos hEmpty, if_pos hEmpty]
      rfl
    · rw [if_neg hEmpty, if_neg hEmpty, liftM_bind]
      simp only [liftM_bind, pure_bind, bind_assoc]
      rfl
  rw [hGroups]
  refine Session.executes_job (f := fun _ => none) fun sent =>
    ⟨entity.groups reader rows, ?_, ?_, fun _ _ => rfl⟩
  · rw [Session.after_liftM]
    exact congrArg _ (List.append_nil sent).symm
  · rw [perform, hHeld]

/-- A relation field is prepared by its jobs, on a copy of the answer. -/
theorem executes_relation {s : Snapshot} (hCopy : answer.copy.1 = .ok s)
    {filled : RelationField × EntityRow} (hPlain : filled.2.relations = []) :
    (EntityRow.preparedRelation reader db (.snapshot s) filled).Executes reader db shape answer none
      (RelationField.jobs answer filled) fun _ left => left = none := by
  obtain ⟨r, entity⟩ := filled
  have hColumns : (Cursor.snapshot s).columns = answer.columns := (Source.copy_ok hCopy).1
  rw [EntityRow.preparedRelation, RelationField.jobs, List.cons_append]
  refine (executes_lookup hColumns r.parentColumn).bind fun index left hFound => ?_
  obtain ⟨hIndex, rfl⟩ := hFound
  have hSame : (Cursor.snapshot s).columnIndex r.parentColumn =
      (Cursor.source answer).columnIndex r.parentColumn :=
    Cursor.columnIndex_congr hColumns r.parentColumn
  rw [hSame] at hIndex
  rw [RelationField.keys_of_copy hCopy hIndex]
  refine (executes_fetch r.query _).bind fun rows left hRows => ?_
  rw [← List.append_nil [Job.group entity]]
  exact (executes_group hPlain hRows).bind fun groups left hLeft => Session.Executes.pure hLeft

/-- The relation fields of a row are prepared one after the other. -/
theorem executes_relations {s : Snapshot} (hCopy : answer.copy.1 = .ok s)
    {relations : List (RelationField × EntityRow)}
    (hPlain : ∀ filled ∈ relations, filled.2.relations = []) :
    (EntityRow.preparedRelations reader db (.snapshot s) relations).Executes reader db shape answer
      none (relations.flatMap (RelationField.jobs answer)) fun _ left => left = none := by
  induction relations with
  | nil =>
      rw [EntityRow.preparedRelations]
      exact Session.Executes.pure rfl
  | cons filled rest ih =>
      rw [List.forall_mem_cons] at hPlain
      rw [EntityRow.preparedRelations, List.flatMap_cons]
      refine (executes_relation hCopy hPlain.1).bind fun found left hLeft => ?_
      subst hLeft
      rw [← List.append_nil (rest.flatMap _)]
      exact (ih hPlain.2).bind fun others left hLeft => Session.Executes.pure hLeft

/-- The cursor that is opened has the columns of the answer, and is a copy where there are relation
fields. -/
structure Opens (answer : Source) (c : Cursor) (relations : List (RelationField × EntityRow)) :
    Prop where
  columns : c.columns = answer.columns
  copied : relations ≠ [] → ∃ s, c = .snapshot s ∧ answer.copy.1 = .ok s
  plain : ∀ filled ∈ relations, filled.2.relations = []

/-- A row is got ready by its jobs: lookups, and then one job after the other for each relation
field. -/
theorem executes_row {row : Row} (h : Opens answer c row.relations) :
    (row.prepared reader db c).Executes reader db shape answer none (row.jobs answer)
      fun _ left => left = none := by
  cases row with
  | scalar type column =>
      cases column with
      | none => exact Session.Executes.pure rfl
      | some column =>
          exact (executes_lookup h.columns column).bind fun index left hFound =>
            Session.Executes.pure hFound.2
  | entity e =>
      obtain ⟨path, fields, relations⟩ := e
      have hColumns : fields.mapM (fun f => c.columnIndex f.column) =
          (fields.map (·.column)).mapM c.columnIndex := by
        rw [List.mapM_map]
        rfl
      rw [Row.prepared, EntityRow.prepared, hColumns]
      refine (executes_lookups h.columns _).bind fun columns left hLeft => ?_
      subst hLeft
      rw [← List.append_nil (List.flatMap _ _)]
      have hRelations :
          (EntityRow.preparedRelations reader db c relations).Executes reader db shape answer none
            (relations.flatMap (RelationField.jobs answer)) fun _ left => left = none := by
        by_cases hNone : relations = []
        · subst hNone
          rw [EntityRow.preparedRelations]
          exact Session.Executes.pure rfl
        · obtain ⟨s, rfl, hCopy⟩ := h.copied hNone
          exact executes_relations hCopy h.plain
      exact hRelations.bind fun found left hLeft => Session.Executes.pure hLeft

/-- A part that is missing needs no jobs. -/
theorem executes_converter {row? : Option Row} (h : ∀ row ∈ row?, Opens answer c row.relations) :
    (Row.converter? reader db c row?).Executes reader db shape answer none
      (row?.toList.flatMap (Row.jobs answer)) fun _ left => left = none := by
  cases row? with
  | none => exact Session.Executes.pure rfl
  | some row =>
      rw [Option.toList_some, List.flatMap_singleton, ← List.append_nil (row.jobs answer)]
      exact (executes_row (h row rfl)).bind fun p left hLeft => Session.Executes.pure hLeft

end Executing

namespace Shape

variable {reader : Reader} {db : Connection} {answer : Source} {c : Cursor}

/-- Everything that is done before the rows are converted. -/
def preparation (reader : Reader) (db : Connection) (answer : Source) (s : Shape) :
    Session (Cursor × Converter × Converter) := do
  let c ← liftM (s.opened answer)
  let key ← Row.converter? reader db c s.key?
  let value ← Row.converter? reader db c s.row?
  return (c, key, value)

/-- Only what is copied has relation fields, and the related structs have none. -/
structure Sound (s : Shape) : Prop where
  prepares : QueryDeclaration.Prepares s
  plain : ∀ row ∈ s.parts, ∀ filled ∈ row.relations, filled.2.relations = []

/-- A cursor that is not copied has no relation fields to go over it. -/
theorem Sound.opens {s : Shape} (h : s.Sound) (hOpened : s.opened answer = .ok c) {row : Row}
    (hRow : row ∈ s.parts) : Opens answer c row.relations := by
  rw [opened] at hOpened
  cases hCopies : s.copiesCursor with
  | false =>
      rw [hCopies] at hOpened
      obtain rfl := Except.ok.inj hOpened
      have hNone := (h.prepares row hRow).resolve_right (by simp [hCopies])
      exact ⟨rfl, fun hSome => absurd hNone hSome, h.plain row hRow⟩
  | true =>
      rw [hCopies, if_pos rfl] at hOpened
      obtain ⟨copied, hCopy, rfl⟩ := map_eq_ok_iff.mp hOpened
      exact ⟨(Source.copy_ok hCopy).1, fun _ => ⟨copied, rfl, hCopy⟩, h.plain row hRow⟩

/-- All that is sent for a shape is sent by its jobs. -/
theorem executes_preparation {s : Shape} (h : s.Sound) :
    (s.preparation reader db answer).Executes reader db s answer none (s.jobs answer)
      fun _ left => left = none := by
  have hOpening :
      (liftM (s.opened answer) : Session Cursor).Executes reader db s answer none [.copy]
        fun c left => s.opened answer = .ok c ∧ left = none := by
    refine Session.executes_job (f := fun _ => none) fun sent =>
      ⟨s.opened answer, ?_, rfl, fun c hOpened => ⟨hOpened, rfl⟩⟩
    rw [Session.after_liftM]
    exact congrArg _ (List.append_nil sent).symm
  have hJobs : s.jobs answer = [.copy] ++ (s.key?.toList.flatMap (Row.jobs answer) ++
      (s.row?.toList.flatMap (Row.jobs answer) ++ [])) := by
    rw [jobs, parts, List.flatMap_append, List.append_nil]
    rfl
  rw [preparation, hJobs]
  refine hOpening.bind fun c left hOpened => ?_
  obtain ⟨hOpened, rfl⟩ := hOpened
  have hKey : ∀ row ∈ s.key?, Opens answer c row.relations := fun row hRow =>
    h.opens hOpened (List.mem_append_left _ (Option.mem_toList.mpr hRow))
  have hValue : ∀ row ∈ s.row?, Opens answer c row.relations := fun row hRow =>
    h.opens hOpened (List.mem_append_right _ (Option.mem_toList.mpr hRow))
  refine (executes_converter hKey).bind fun key left hLeft => ?_
  subst hLeft
  exact (executes_converter hValue).bind fun value left hLeft => Session.Executes.pure hLeft

/-- The calls of the jobs are those of the relation fields, in their order. -/
theorem calls_jobs {s : Shape} (hKeys : ∀ row ∈ s.key?, row.relations = []) :
    Job.calls db (s.jobs answer) =
      s.relations.flatMap fun filled => filled.1.calls db (.source answer) := by
  have hField (filled : RelationField × EntityRow) :
      (RelationField.jobs answer filled).filterMap (Job.call? db) =
        filled.1.calls db (.source answer) := by
    rw [RelationField.jobs, RelationField.calls, List.cons_append, List.filterMap_cons_none rfl,
      List.filterMap_append, List.filterMap_map, List.filterMap_cons_none rfl, List.filterMap_nil,
      List.append_nil]
    exact congrFun List.filterMap_eq_map _
  have hRow (row : Row) : (row.jobs answer).filterMap (Job.call? db) =
      row.relations.flatMap fun filled => filled.1.calls db (.source answer) := by
    have hNone : (row.columns.map Job.lookup).filterMap (Job.call? db) = [] := by
      rw [List.filterMap_map]
      exact List.filterMap_eq_nil_iff.mpr fun _ _ => rfl
    rw [Row.jobs, List.filterMap_append, hNone, List.nil_append, List.filterMap_flatMap]
    exact List.flatMap_congr fun filled _ => hField filled
  rw [Job.calls, jobs, List.filterMap_cons_none rfl, List.filterMap_flatMap, parts,
    List.flatMap_append]
  have hNoKeys : s.key?.toList.flatMap (fun row => (row.jobs answer).filterMap (Job.call? db)) =
      [] := by
    rw [List.flatMap_eq_nil_iff]
    intro row hPart
    rw [hRow, hKeys row (Option.mem_toList.mp hPart), List.flatMap_nil]
  rw [hNoKeys, List.nil_append, relations]
  cases s.row? with
  | none => rfl
  | some row => rw [Option.toList_some, List.flatMap_singleton, hRow, Option.elim_some]

end Shape

namespace QueryDeclaration

variable {schema : Schema} {q : QueryDeclaration} {shape : Shape}

/-- Accepted shapes are sound, as neither keys nor related rows have relation fields. -/
theorem sound_of_shape (h : q.shape schema = .ok shape) : shape.Sound := by
  refine ⟨prepares_of_shape h, fun row hPart filled hFilled => ?_⟩
  rcases List.mem_append.mp hPart with hKey | hValue
  · rw [Schema.relations_eq_nil_of_key h (Option.mem_toList.mp hKey)] at hFilled
    cases hFilled
  · cases row with
    | scalar type column => cases hFilled
    | entity built =>
        obtain ⟨e, -, hBuilt⟩ := Schema.elements_of_row h (Option.mem_toList.mp hValue)
        exact hBuilt.related_plain filled hFilled

/-- The relation fields of a shape are those of the struct, in its order. -/
theorem relations_of_elements (h : q.shape schema = .ok shape) {e : Entity}
    (hElements : schema.Elements q.output e) :
    List.Forall₂ schema.FillsRelation e.relations shape.relations := by
  obtain ⟨built, hRow, filled, hFilled, rfl⟩ := hElements.row h
  rw [Shape.relations, hRow]
  exact hFilled

/-- Arguments are bound as the values that their data become. -/
theorem values?_of_data {args : List (String × Datum)} {data : List Datum}
    (h : q.arguments.mapM (fun (name, _) => args.lookup name) = some data) :
    q.values? (args.map fun (name, d) => (name, d.toValue)) = some (data.map Datum.toValue) := by
  have hLookup (name : String) : (args.map fun (name, d) => (name, d.toValue)).lookup name =
      (args.lookup name).map Datum.toValue := by
    clear h
    induction args with
    | nil => rfl
    | cons arg rest ih =>
        rw [List.map_cons, List.lookup_cons, List.lookup_cons, ih]
        cases name == arg.1 <;> rfl
  rw [mapM_eq_some_iff] at h
  rw [values?, mapM_eq_some_iff, List.forall₂_map_right_iff]
  exact h.imp fun argument d hFound =>
    (hLookup argument.1).trans (congrArg (Option.map Datum.toValue) hFound)

/-- All that the function of a query does before it converts rows. -/
def ready (q : QueryDeclaration) (shape : Shape) (reader : Reader) (db : Connection)
    (values : List Value) : Session (Cursor × Converter × Converter) := do
  let answer ← db.query q.query.sql.value values
  shape.preparation reader db answer

/-- A query means to get ready, and then to assemble its result without further calls. -/
theorem meaning_eq_ready (reader : Reader) (db : Connection) (values : List Value) :
    q.meaning shape reader db values = q.ready shape reader db values >>= fun (c, key, value) =>
      liftM (shape.assemble reader key value c) := by
  simp only [meaning, ready, Shape.meaning, Shape.preparation, bind_assoc, pure_bind]

/-- A function whose arguments have values makes itself ready and assembles its result. -/
theorem outcomeAfter_of_ready {reader : Reader} {db : Connection} {args : List (String × Value)}
    {values : List Value} (hShape : Prepares shape) (hArgs : q.values? args = some values)
    (earlier : List Call) : (q.body shape).outcomeAfter reader db args earlier =
      match (q.ready shape reader db values).after earlier with
      | (.ok (c, key, value), sent) => ((shape.assemble reader key value c).mapError .failed, sent)
      | (.error e, sent) => (.error (.failed e), sent) := by
  rw [outcomeAfter_of_values hShape hArgs, meaning_eq_ready, Session.after_bind]
  rcases (q.ready shape reader db values).after earlier with ⟨e | ⟨c, key, value⟩, sent⟩
  · rfl
  · dsimp only
    rw [Session.after_liftM]

/-- A function whose arguments have values sends its own query, prepares and assembles. -/
theorem outcomeWith_of_answer (reader : Reader) (db : Connection) {args : List (String × Value)}
    {values : List Value} (hSound : shape.Sound) (hArgs : q.values? args = some values) :
    (∀ e, db.answer [] ⟨q.query.sql.value, values⟩ = .error e →
      (q.body shape).outcomeWith reader db args =
        (.error (.failed e), [⟨q.query.sql.value, values⟩])) ∧
    ∀ answer, db.answer [] ⟨q.query.sql.value, values⟩ = .ok answer →
      (q.body shape).outcomeWith reader db args =
        match (shape.preparation reader db answer).after [⟨q.query.sql.value, values⟩] with
        | (.ok (c, key, value), sent) =>
          ((shape.assemble reader key value c).mapError .failed, sent)
        | (.error e, sent) => (.error (.failed e), sent) := by
  have hOutcome : (q.body shape).outcomeWith reader db args = _ :=
    outcomeAfter_of_ready hSound.prepares hArgs []
  rw [hOutcome, ready, Session.after_bind, Connection.query_after, List.nil_append]
  constructor
  · intro e hAnswer
    rw [hAnswer]
  · intro answer hAnswer
    rw [hAnswer]

/-- What a generated function sends, whatever the connection answers. The first call is the query of
the function with its arguments as values. If it is answered then the jobs that follow are
performed, and the function fails with the error of the first job that fails; all that can fail
after the last job is the conversion of the rows. Only the jobs of relation fields make calls: for
each field in the order of the struct one for every piece of its distinct keys. -/
theorem sends_planned_calls {args : List (String × Datum)} {data : List Datum}
    (h : q.shape schema = .ok shape)
    (hArgs : q.arguments.mapM (fun (name, _) => args.lookup name) = some data)
    (reader : Reader) (db : Connection) :
    let outcome :=
      (q.body shape).outcomeWith reader db (args.map fun (name, d) => (name, d.toValue))
    let first : Call := ⟨q.query.sql.value, data.map Datum.toValue⟩
    (∀ e, db.answer [] first = .error e → outcome = (.error (.failed e), [first])) ∧
    (∀ e, schema.Elements q.output e →
      List.Forall₂ schema.FillsRelation e.relations shape.relations) ∧
    ∀ answer, db.answer [] first = .ok answer →
      let performed := Job.performAll reader db shape answer [first] none (shape.jobs answer)
      let planned := shape.relations.flatMap fun filled => filled.1.calls db (.source answer)
      outcome.2 = first :: performed.2 ∧
      (∀ e, performed.1 = .error e → outcome.1 = .error (.failed e)) ∧
      (∀ left, performed.1 = .ok left → ∃ c key value,
        ((shape.preparation reader db answer).after [first]).1 = .ok (c, key, value) ∧
          outcome.1 = (shape.assemble reader key value c).mapError .failed) ∧
      performed.2 <+: planned ∧
      (∀ left, performed.1 = .ok left → performed.2 = planned) ∧
      (∀ d, outcome.1 = .ok d → outcome.2.length = 1 + (shape.relations.map fun filled =>
        ((filled.1.parentKeys (.source answer)).length + 998) / 999).sum) ∧
      ∀ filled ∈ shape.relations, filled.1.KeyPieces (.source answer) := by
  intro outcome first
  have hSound := sound_of_shape h
  obtain ⟨hRefused, hAnswered⟩ :=
    outcomeWith_of_answer reader db hSound (values?_of_data hArgs)
  refine ⟨hRefused, ?_, fun answer hAnswer => ?_⟩
  · exact fun e hElements => relations_of_elements h hElements
  intro performed planned
  have hOutcome : outcome = _ := hAnswered answer hAnswer
  have hPlanned : Job.calls db (shape.jobs answer) = planned :=
    Shape.calls_jobs fun row hKey => Schema.relations_eq_nil_of_key h hKey
  have hExecutes : (shape.preparation reader db answer).Executes reader db shape answer none
      (shape.jobs answer) _ := Shape.executes_preparation hSound
  have hAgrees : Session.Agrees [first] _ _ performed := hExecutes [first]
  have hCalls : performed.2 <+: planned := hPlanned ▸ Job.performAll_isPrefix _ _ _
  have hWhole (left : Option Snapshot) (hDone : performed.1 = .ok left) : performed.2 = planned :=
    hPlanned ▸ Job.calls_of_performAll hDone
  have hKeys : ∀ filled ∈ shape.relations, filled.1.KeyPieces (.source answer) :=
    fun filled _ => filled.1.keyPieces _
  have hCount : planned.length = (shape.relations.map fun filled =>
      ((filled.1.parentKeys (.source answer)).length + 998) / 999).sum := by
    simp only [planned, List.length_flatMap, RelationField.length_calls]
  clear_value performed
  generalize (shape.preparation reader db answer).after [first] = ended at hOutcome hAgrees ⊢
  cases hAgrees with
  | failed e made =>
      refine ⟨congrArg Prod.snd hOutcome, ?_, nofun, hCalls, hWhole, ?_, hKeys⟩
      · rintro _ ⟨⟩
        exact congrArg Prod.fst hOutcome
      · intro d hResult
        rw [hOutcome] at hResult
        cases hResult
  | @done prepared left made hPost =>
      obtain ⟨c, key, value⟩ := prepared
      refine ⟨congrArg Prod.snd hOutcome, nofun,
        fun _ _ => ⟨c, key, value, rfl, congrArg Prod.fst hOutcome⟩, hCalls, hWhole,
        fun d _ => ?_, hKeys⟩
      rw [hOutcome, ← hCount, ← hWhole left rfl]
      exact Nat.add_comm _ _

set_option maxRecDepth 20000 in
theorem authors_sends_planned_calls :
    ∃ calls, (Example.authors.body Example.authorShape).outcomeWith Reader.standard
        Example.authorConnection [] = (.ok Example.hydratedAuthors, calls) ∧
      calls.length = 3 ∧ calls <+: ⟨"SELECT * FROM author", []⟩ ::
        [Example.bookQuery, Example.favouriteQuery].map fun query =>
          query.call Example.authorConnection [.integer 1, .integer 2, .integer 3] := by
  have hShape : Example.authors.shape Example.authorSchema = .ok Example.authorShape := by
    with_unfolding_all rfl
  have hArgs : Example.authors.arguments.mapM
      (fun (name, _) => ([] : List (String × Datum)).lookup name) = some [] := rfl
  have hAnswer : Example.authorConnection.answer [] ⟨"SELECT * FROM author", []⟩ =
      .ok Example.authorRows := by with_unfolding_all rfl
  have hRun : ((Example.authors.body Example.authorShape).outcomeWith Reader.standard
      Example.authorConnection []).1 = .ok Example.hydratedAuthors := by with_unfolding_all rfl
  obtain ⟨-, -, hAnswered⟩ :=
    sends_planned_calls hShape hArgs Reader.standard Example.authorConnection
  obtain ⟨hCalls, -, -, hPrefix, -, hLength, -⟩ := hAnswered Example.authorRows hAnswer
  refine ⟨_, Prod.ext hRun rfl, (hLength _ hRun).trans (by with_unfolding_all rfl), ?_⟩
  have hPlanned : (Example.authorShape.relations.flatMap fun filled =>
      filled.1.calls Example.authorConnection (.source Example.authorRows)) =
        [Example.bookQuery, Example.favouriteQuery].map fun query =>
          query.call Example.authorConnection [.integer 1, .integer 2, .integer 3] := by
    with_unfolding_all rfl
  rw [hPlanned] at hPrefix
  exact (congrArg (· <+: _) hCalls).mpr ((List.prefix_cons_inj _).mpr hPrefix)

end QueryDeclaration

end TypedQuery
