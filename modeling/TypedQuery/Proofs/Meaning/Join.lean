import TypedQuery.Proofs.Relation.Grouping

/-! Relation fields as nested loops: for each line all related lines are searched for its key. Key
sets, pieces and groups leave no trace of themselves in what is prepared and converted. -/

namespace TypedQuery

/-- A relation field with the related elements of its key. -/
def RelationField.filled (r : RelationField) (items : List Datum) : String × Datum :=
  match r.quantity with
  | .many => (r.name, .list items)
  | .optional => (r.name, items.head?.elim .absent .present)

/-- A key without a group has an empty one. -/
theorem RelationField.fill_eq_filled (r : RelationField) (group : Option (List Datum)) :
    r.fill group = r.filled (group.getD []) := by
  rw [fill, filled]
  cases group <;> rfl

namespace EntityRow

/-- Column fields, looked up by the names of their columns. -/
def readNamed (reader : Reader) (c : Cursor) (fields : List ColumnField) (line : Line) :
    Except DataError (List (String × Datum)) :=
  fields.mapM fun f => do return (f.name, ← reader.read f.type (← line (← c.columnIndex f.column)))

/-- What a related line becomes. -/
def relatedRecord (reader : Reader) (all : Source) (e : EntityRow) (line : Line) :
    Except DataError Datum := do
  return .record (← readNamed reader (.source all) e.fields line)

/-- A relation field of a line, by a search of all related lines. -/
def joinField (reader : Reader) (related : RelationField → Source) (c : Cursor) (line : Line) :
    RelationField × EntityRow → Except DataError (String × Datum)
  | (r, entity) => do
    let key := (← line (← c.columnIndex r.parentColumn)).toKey
    let items ← ((related r).matching key).mapM (entity.relatedRecord reader (related r))
    return r.filled items

/-- The struct that a line becomes, with its relation fields joined. -/
def join (reader : Reader) (related : RelationField → Source) (c : Cursor) (e : EntityRow)
    (line : Line) : Except DataError Datum := do
  let columns ← readNamed reader c e.fields line
  let fields ← e.relations.mapM (joinField reader related c line)
  return .record (columns ++ fields)

variable {reader : Reader} {db : Connection} {c : Cursor}

/-- Reading at indices that were looked up before is reading by name. -/
theorem readColumns_of_lookup {fields : List ColumnField} {indices : List Nat} {line other : Line}
    (h : fields.mapM (fun f => c.columnIndex f.column) = .ok indices)
    (hSame : other.SameBelow c.columns.length line) :
    readColumns reader fields indices line = readNamed reader c fields other := by
  have hBoth := mapM_eq_ok_iff.mp h
  clear h
  rw [readColumns, readNamed]
  induction hBoth with
  | nil => rfl
  | cons hHead _ ih =>
      rw [List.zip_cons_cons, List.mapM_cons, List.mapM_cons, ih, hHead]
      change _ = (other _ >>= _) >>= _
      rw [hSame _ (Cursor.lt_of_columnIndex hHead)]

section Related

variable {all : Source} {keys : List Key} {rows : Snapshot} {entity : EntityRow}

/-- Preparation of a struct looks up its columns. -/
theorem prepared_columns (e : EntityRow) :
    (e.prepared reader db c).Ensures fun p =>
      e.fields.mapM (fun f => c.columnIndex f.column) = .ok p.columns := by
  obtain ⟨path, fields, relations⟩ := e
  rw [prepared]
  refine Session.ensures_liftM.bind fun columns hColumns => ?_
  have hFound : (preparedRelations reader db c relations).Ensures fun _ => True :=
    fun _ _ _ _ => trivial
  exact hFound.bind fun found _ => Session.Ensures.pure hColumns

/-- A struct without relation fields has what its columns hold. -/
theorem record_of_plain (hPlain : entity.relations = []) (p : Prepared) (line : Line) :
    entity.record reader p line =
      (readColumns reader entity.fields p.columns line >>= fun fields =>
        pure (.record fields)) := by
  rw [record, hPlain, fillRelations, List.zip_nil_left, List.mapM_nil]
  simp only [pure_bind, List.append_nil]

/-- The groups of fetched rows have for each key what its related lines become. -/
theorem relatedGroups_join (hPlain : entity.relations = []) (hNodup : keys.Nodup)
    (hRows : RelationQuery.Collected all ((chunks maxBindParameters keys).flatMap all.linesWith)
      rows) :
    (entity.relatedGroups reader rows (entity.prepared reader db (.snapshot rows))).Ensures
      fun groups => ∀ k ∈ keys, (all.matching (some k)).mapM (entity.relatedRecord reader all) =
        .ok ((Sorted.find? k groups).getD []) := by
  have hPieces : (chunks maxBindParameters keys).flatten = keys := flatten_chunks (by decide) keys
  have hMatching (k : Key) (hk : k ∈ keys) := all.matching_of_pieces (hPieces.symm ▸ hNodup)
    (hPieces.symm ▸ hk)
  rw [relatedGroups]
  by_cases hEmpty : rows.rows = []
  · rw [if_pos (List.isEmpty_iff.mpr hEmpty)]
    apply Session.Ensures.pure
    intro k hk
    rw [← hMatching k hk, hRows.eq_nil_iff.mpr hEmpty]
    rfl
  · rw [if_neg fun hNone => hEmpty (List.isEmpty_iff.mp hNone)]
    have hColumns := hRows.columns.resolve_left hEmpty
    refine Session.ensures_liftM.bind fun index hIndex => ?_
    refine (prepared_columns entity).bind fun p hPrepared => ?_
    refine Session.ensures_liftM.mono fun groups hGroups k hk => ?_
    have hKeyColumn : all.columns.findIdx? (· == RelationQuery.keyColumn) = some index :=
      hColumns ▸ Cursor.findIdx?_of_columnIndex hIndex
    have hFiltered : List.Forall₂ (Line.SameBelow all.columns.length) (all.matching (some k))
        ((Cursor.snapshot rows).lines.filter fun line => line.key? index = some k) := by
      rw [← hMatching k hk]
      refine List.rel_filter (fun line other hSame => ?_) hRows.lines
      change decide (line.parentKey? all.columns = some k) = true ↔
        decide (other.key? index = some k) = true
      rw [hSame.parentKey?, Line.parentKey?, hKeyColumn, Option.bind_some]
    refine (mapM_congr_forall₂ hFiltered fun line other hSame => ?_).trans
      (Line.groups_ok hGroups k)
    have hSameColumns : (Cursor.source all).columns = (Cursor.snapshot rows).columns :=
      hColumns.symm
    have hNames := Cursor.columnIndex_congr hSameColumns
    simp only [← hNames] at hPrepared
    rw [record_of_plain hPlain, readColumns_of_lookup hPrepared hSame]
    rfl

end Related

/-- What preparation has found for a relation field serves every line of the cursor like a search of
all related lines. -/
structure Joins (reader : Reader) (related : RelationField → Source) (c : Cursor)
    (filled : RelationField × EntityRow) (found : Nat × List (Key × List Datum)) : Prop where
  index : c.columnIndex filled.1.parentColumn = .ok found.1
  groups : ∀ line ∈ c.lines, ∀ v, line found.1 = .ok v →
    ((related filled.1).matching v.toKey).mapM
        (filled.2.relatedRecord reader (related filled.1)) =
      .ok ((v.toKey.bind fun k => Sorted.find? k found.2).getD [])

/-- The connection answers the queries of a relation field from its related rows, and the related
struct has no relation fields. -/
structure Joinable (db : Connection) (related : RelationField → Source)
    (filled : RelationField × EntityRow) : Prop where
  answers : db.AnswersFrom filled.1.query (related filled.1)
  plain : filled.2.relations = []

variable {related : RelationField → Source}

/-- One relation field is prepared with the groups that a nested loop would find. -/
theorem preparedRelation_joins {filled : RelationField × EntityRow}
    (h : Joinable db related filled) :
    (preparedRelation reader db c filled).Ensures (Joins reader related c filled) := by
  obtain ⟨r, entity⟩ := filled
  rw [preparedRelation]
  refine Session.ensures_liftM.bind fun index hIndex => ?_
  refine Session.ensures_liftM.bind fun keys hKeys => ?_
  obtain ⟨hOrder, hCollected⟩ := Line.keys_ok hKeys
  refine (RelationQuery.fetch_collects h.answers keys).bind fun rows hRows => ?_
  refine (relatedGroups_join h.plain hOrder.nodup hRows).bind fun groups hGroups => ?_
  refine Session.Ensures.pure ⟨hIndex, fun line hLine v hRead => ?_⟩
  cases hKey : v.toKey with
  | none => rfl
  | some k => exact hGroups k (hCollected line hLine k ((Line.key?_of_read hRead).trans hKey))

/-- So are all relation fields of a struct. -/
theorem preparedRelations_joins {relations : List (RelationField × EntityRow)}
    (h : ∀ filled ∈ relations, Joinable db related filled) :
    (preparedRelations reader db c relations).Ensures
      (List.Forall₂ (Joins reader related c) relations) := by
  induction relations with
  | nil =>
      rw [preparedRelations]
      exact Session.Ensures.pure List.Forall₂.nil
  | cons filled rest ih =>
      rw [preparedRelations]
      refine (preparedRelation_joins (h filled List.mem_cons_self)).bind fun found hFound => ?_
      refine (ih fun other hOther => h other (List.mem_cons_of_mem _ hOther)).bind
        fun others hOthers => ?_
      exact Session.Ensures.pure (List.Forall₂.cons hFound hOthers)

/-- A relation field that is filled from its groups is joined. -/
theorem Joins.field {r : RelationField} {entity : EntityRow} {index : Nat}
    {groups : List (Key × List Datum)} {line : Line}
    (h : Joins reader related c (r, entity) (index, groups)) (hLine : line ∈ c.lines) :
    (do return r.fill ((← line index).toKey.bind fun k => Sorted.find? k groups)) =
      joinField reader related c line (r, entity) := by
  rw [joinField, h.index]
  change _ = (line index >>= fun v => ((related r).matching v.toKey).mapM
    (entity.relatedRecord reader (related r)) >>= fun items => pure (r.filled items))
  cases hRead : line index with
  | error e => rfl
  | ok v =>
      change pure _ = (((related r).matching v.toKey).mapM
        (entity.relatedRecord reader (related r)) >>= fun items => pure (r.filled items))
      rw [h.groups line hLine v hRead, RelationField.fill_eq_filled]
      rfl

/-- The relation fields of a line are its joined fields. -/
theorem fillRelations_eq_join {relations : List (RelationField × EntityRow)}
    {found : List (Nat × List (Key × List Datum))} {line : Line} (hLine : line ∈ c.lines)
    (h : List.Forall₂ (Joins reader related c) relations found) :
    fillRelations relations found line = relations.mapM (joinField reader related c line) := by
  rw [fillRelations]
  induction h with
  | nil => rfl
  | @cons filled prepared _ _ hHead _ ih =>
      obtain ⟨r, entity⟩ := filled
      obtain ⟨index, groups⟩ := prepared
      rw [List.zip_cons_cons, List.mapM_cons, List.mapM_cons, ih, ← hHead.field hLine]

/-- After preparation the struct that a line becomes is the join of the line. -/
theorem prepared_joins {e : EntityRow} (h : ∀ filled ∈ e.relations, Joinable db related filled) :
    (e.prepared reader db c).Ensures fun p =>
      e.fields.mapM (fun f => c.columnIndex f.column) = .ok p.columns ∧
        List.Forall₂ (Joins reader related c) e.relations p.relations := by
  obtain ⟨path, fields, relations⟩ := e
  rw [prepared]
  refine Session.ensures_liftM.bind fun columns hColumns => ?_
  refine (preparedRelations_joins h).bind fun found hFound => ?_
  exact Session.Ensures.pure ⟨hColumns, hFound⟩

/-- A row becomes what the nested loop makes of it. -/
theorem record_eq_join {e : EntityRow} {p : Prepared} {line : Line} (hLine : line ∈ c.lines)
    (hColumns : e.fields.mapM (fun f => c.columnIndex f.column) = .ok p.columns)
    (hFound : List.Forall₂ (Joins reader related c) e.relations p.relations) :
    e.record reader p line = e.join reader related c line := by
  rw [record, join, readColumns_of_lookup hColumns fun _ _ => rfl,
    fillRelations_eq_join hLine hFound]

end EntityRow

/-- Two lines become the same under two converters. -/
def Converter.Alike (a b : Converter) (line other : Line) : Prop :=
  a.convert line = b.convert other ∧ a.isEmpty line = b.isEmpty other

namespace Row

/-- The index of the column of a scalar. -/
def scalarIndex (c : Cursor) : Option String → Except DataError Nat
  | some column => c.columnIndex column
  | none => .ok 0

/-- What lines become by name, with relation fields joined. -/
def join (reader : Reader) (related : RelationField → Source) (c : Cursor) : Row → Converter
  | scalar type column =>
    { convert := fun line => do reader.read type (← line (← scalarIndex c column))
      isEmpty := fun line => do
        if isNullable type then return false else line.allNull [← scalarIndex c column] }
  | entity e =>
    { convert := e.join reader related c
      isEmpty := fun line => do
        if e.fields.isEmpty then return false
        else line.allNull (← e.fields.mapM fun f => c.columnIndex f.column) }

variable {reader : Reader} {db : Connection} {c : Cursor} {related : RelationField → Source}

/-- After preparation lines become what they become by joins. Relation fields are prepared only if
there are columns. -/
theorem prepared_joins {row : Row}
    (h : ∀ filled ∈ row.relations, EntityRow.Joinable db related filled) :
    (row.prepared reader db c).Ensures fun p =>
      (∀ line ∈ c.lines, (row.converter reader p).Alike (row.join reader related c) line line) ∧
        (row.relations ≠ [] → 0 < c.columns.length) := by
  cases row with
  | scalar type column =>
      have hScalar (index : Nat) (hIndex : scalarIndex c column = .ok index) :
          ∀ line ∈ c.lines, ((scalar type column).converter reader ⟨[index], []⟩).Alike
            ((scalar type column).join reader related c) line line := by
        intro line _
        simp only [Converter.Alike, converter, join, hIndex]
        exact ⟨rfl, rfl⟩
      cases column with
      | none => exact Session.Ensures.pure ⟨hScalar 0 rfl, fun hNone => absurd rfl hNone⟩
      | some column =>
          rw [prepared]
          exact Session.ensures_liftM.bind fun index hIndex =>
            Session.Ensures.pure ⟨hScalar index hIndex, fun hNone => absurd rfl hNone⟩
  | entity e =>
      refine (EntityRow.prepared_joins h).mono fun p hPrepared => ?_
      obtain ⟨hColumns, hFound⟩ := hPrepared
      refine ⟨fun line hLine => ⟨EntityRow.record_eq_join hLine hColumns hFound, ?_⟩, ?_⟩
      · have hNone : p.columns.isEmpty = e.fields.isEmpty := by
          have hLength := (mapM_eq_ok_iff.mp hColumns).length_eq
          rw [Bool.eq_iff_iff, List.isEmpty_iff, List.isEmpty_iff, ← List.length_eq_zero_iff,
            ← hLength, List.length_eq_zero_iff]
        simp only [converter, join, hColumns, hNone]
        rfl
      · intro hSome
        obtain ⟨filled, rest, hRelations⟩ := List.exists_cons_of_ne_nil hSome
        obtain ⟨found, others, hJoins, -, -⟩ := List.forall₂_cons_left_iff.mp
          ((show e.relations = filled :: rest from hRelations) ▸ hFound)
        exact Nat.zero_lt_of_lt (Cursor.lt_of_columnIndex hJoins.index)

end Row

namespace Shape

variable {reader : Reader} {db : Connection} {c other : Cursor} {related : RelationField → Source}

/-- The result of a shape whose rows are converted by nested loops. -/
def join (reader : Reader) (related : RelationField → Source) (c : Cursor) (s : Shape) :
    Except DataError Datum :=
  s.assemble reader (s.key?.elim .unused (Row.join reader related c))
    (s.row?.elim .unused (Row.join reader related c)) c

/-- A shape assembles the same from lines that become the same. -/
theorem assemble_congr {s : Shape} {key key' value value' : Converter}
    (h : List.Forall₂ (fun line line' => key.Alike key' line line' ∧ value.Alike value' line line')
      c.lines other.lines) (hRaw : s.row? = none → c = other) :
    s.assemble reader key value c = s.assemble reader key' value' other := by
  have hFirst (result : FirstRow) :
      Line.first result value.convert c.lines = Line.first result value'.convert other.lines := by
    generalize c.lines = lines at h
    generalize other.lines = lines' at h
    cases h with
    | nil => rfl
    | cons hHead _ => rw [Line.first, Line.first, hHead.2.1]
  cases s with
  | single row => rw [assemble, assemble, hFirst]
  | optional row flattened => rw [assemble, assemble, hFirst]
  | list row => rw [assemble, assemble, mapM_congr_forall₂ h fun _ _ hLine => hLine.2.1]
  | stream row => rw [assemble, assemble, mapM_congr_forall₂ h fun _ _ hLine => hLine.2.1]
  | map kind keyRow row =>
      rw [assemble, assemble, foldlM_congr_forall₂ h fun es line line' hLine => ?_]
      rw [Converter.insertEntry, Converter.insertEntry, hLine.1.1, hLine.2.1]
  | multimap kind keyRow row =>
      rw [assemble, assemble, foldlM_congr_forall₂ h fun es line line' hLine => ?_]
      rw [Converter.groupEntry, Converter.groupEntry, hLine.1.1, hLine.2.1, hLine.2.2]
  | rows => rw [hRaw rfl, assemble, assemble]
  | rowCount => rw [hRaw rfl, assemble, assemble]

/-- The parts of a shape can be joined. -/
def Joinable (db : Connection) (related : RelationField → Source) (s : Shape) : Prop :=
  ∀ row ∈ s.parts, ∀ filled ∈ row.relations, EntityRow.Joinable db related filled

theorem converter?_joins {row? : Option Row}
    (h : ∀ row ∈ row?.toList, ∀ filled ∈ row.relations, EntityRow.Joinable db related filled) :
    (Row.converter? reader db c row?).Ensures fun converter =>
      (∀ line ∈ c.lines,
        converter.Alike (row?.elim .unused (Row.join reader related c)) line line) ∧
        (row?.any Row.hasRelations → 0 < c.columns.length) := by
  cases row? with
  | none => exact Session.Ensures.pure ⟨fun _ _ => ⟨rfl, rfl⟩, fun hNone => nomatch hNone⟩
  | some row =>
      refine (Row.prepared_joins (h row (by simp))).bind fun p hPrepared => Session.Ensures.pure ?_
      refine ⟨hPrepared.1, fun hSome => hPrepared.2 ?_⟩
      simpa [Row.hasRelations] using hSome

/-- What a shape means is what its nested loops give. -/
theorem meaning_joins {s : Shape} (h : Joinable db related s) :
    (s.meaning reader db c).Ensures fun d =>
      s.join reader related c = .ok d ∧ (s.copiesCursor → 0 < c.columns.length) := by
  rw [meaning]
  have hKeys : ∀ row ∈ s.key?.toList, ∀ filled ∈ row.relations,
      EntityRow.Joinable db related filled := fun row hRow => h row (List.mem_append_left _ hRow)
  have hValues : ∀ row ∈ s.row?.toList, ∀ filled ∈ row.relations,
      EntityRow.Joinable db related filled := fun row hRow => h row (List.mem_append_right _ hRow)
  refine (converter?_joins hKeys).bind fun key hKey => ?_
  refine (converter?_joins hValues).bind fun value hValue => ?_
  refine Session.ensures_liftM.mono fun d hResult => ⟨?_, hValue.2⟩
  rw [← hResult, join]
  refine (assemble_congr (List.forall₂_same.mpr fun line hLine => ?_) fun _ => rfl).symm
  exact ⟨hKey.1 line hLine, hValue.1 line hLine⟩

end Shape

end TypedQuery
