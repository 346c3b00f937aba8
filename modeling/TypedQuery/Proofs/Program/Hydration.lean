import TypedQuery.Example.Authors
import TypedQuery.Proofs.Meaning.Join
import TypedQuery.Proofs.Run.Body

namespace TypedQuery

section Congruence

variable {reader : Reader} {related : RelationField → Source} {c other : Cursor} {line line' : Line}

/-- A value is read alike where its index is found. -/
theorem Line.read_congr {β : Type} {found : Except DataError Nat}
    {next : Value → Except DataError β}
    (h : ∀ index, found = .ok index → line index = line' index) :
    (found >>= fun index => line index >>= next) = found >>= fun index => line' index >>= next := by
  cases found with
  | error e => rfl
  | ok index => exact congrArg (· >>= next) (h index rfl)

theorem Line.allNull_congr {indices : List Nat} (h : ∀ index ∈ indices, line index = line' index) :
    line.allNull indices = line'.allNull indices := by
  induction indices with
  | nil => rfl
  | cons index rest ih =>
      rw [allNull, allNull, h index List.mem_cons_self,
        ih fun other hOther => h other (List.mem_cons_of_mem _ hOther)]

/-- Columns of the same names are found at the same indices, and lines that agree there have the
same values. -/
theorem Line.named_congr {β : Type} (hColumns : c.columns = other.columns)
    (hSame : line.SameBelow c.columns.length line') (name : String)
    (next : Value → Except DataError β) :
    (c.columnIndex name >>= fun index => line index >>= next) =
      other.columnIndex name >>= fun index => line' index >>= next := by
  rw [← Cursor.columnIndex_congr hColumns]
  exact Line.read_congr fun index hIndex => hSame index (Cursor.lt_of_columnIndex hIndex)

namespace EntityRow

/-- A struct is joined from the names of columns and the values under them. -/
theorem join_congr (e : EntityRow) (hColumns : c.columns = other.columns)
    (hSame : line.SameBelow c.columns.length line') :
    e.join reader related c line = e.join reader related other line' := by
  have hRead : readNamed reader c e.fields line = readNamed reader other e.fields line' := by
    refine mapM_congr_forall₂ (List.forall₂_same.mpr fun f _ => ?_) fun _ _ h => h
    exact Line.named_congr hColumns hSame f.column fun v =>
      reader.read f.type v >>= fun d => pure (f.name, d)
  have hFields : e.relations.mapM (joinField reader related c line) =
      e.relations.mapM (joinField reader related other line') := by
    refine mapM_congr_forall₂ (List.forall₂_same.mpr fun filled _ => ?_) fun _ _ h => h
    exact Line.named_congr hColumns hSame filled.1.parentColumn fun v =>
      ((related filled.1).matching v.toKey).mapM
        (filled.2.relatedRecord reader (related filled.1)) >>= fun items =>
          pure (filled.1.filled items)
  rw [join, join, hRead, hFields]

end EntityRow

namespace Row

theorem lt_of_scalarIndex {column : Option String} {index : Nat} (hSome : 0 < c.columns.length)
    (h : scalarIndex c column = .ok index) : index < c.columns.length := by
  cases column with
  | none =>
      obtain rfl := Except.ok.inj h
      exact hSome
  | some column => exact Cursor.lt_of_columnIndex h

/-- Lines that agree below the number of columns become the same. -/
theorem join_alike (row : Row) (hColumns : c.columns = other.columns)
    (hSome : 0 < c.columns.length) (hSame : line.SameBelow c.columns.length line') :
    (row.join reader related c).Alike (row.join reader related other) line line' := by
  cases row with
  | scalar type column =>
      have hFound : scalarIndex other column = scalarIndex c column := by
        cases column with
        | none => rfl
        | some column => exact (Cursor.columnIndex_congr hColumns column).symm
      have hLine (index : Nat) (h : scalarIndex c column = .ok index) : line index = line' index :=
        hSame index (lt_of_scalarIndex hSome h)
      simp only [Converter.Alike, join, hFound]
      refine ⟨Line.read_congr hLine, ?_⟩
      cases hIndex : scalarIndex c column with
      | error e => rfl
      | ok index =>
          have hNull : line.allNull [index] = line'.allNull [index] :=
            Line.allNull_congr fun i hi => by rw [List.mem_singleton.mp hi, hLine index hIndex]
          change (if isNullable type then _ else line.allNull [index]) =
            if isNullable type then _ else line'.allNull [index]
          rw [hNull]
  | entity e =>
      refine ⟨e.join_congr hColumns hSame, ?_⟩
      have hNames : (fun f : ColumnField => other.columnIndex f.column) =
          fun f => c.columnIndex f.column :=
        funext fun f => (Cursor.columnIndex_congr hColumns f.column).symm
      simp only [join, hNames]
      cases hFound : e.fields.mapM fun f => c.columnIndex f.column with
      | error e => rfl
      | ok indices =>
          have hNull : line.allNull indices = line'.allNull indices := by
            apply Line.allNull_congr
            intro index hIndex
            obtain ⟨f, -, hColumn⟩ :=
              exists_of_forall₂_right (mapM_eq_ok_iff.mp hFound) hIndex
            exact hSame index (Cursor.lt_of_columnIndex hColumn)
          change (if e.fields.isEmpty then _ else line.allNull indices) =
            if e.fields.isEmpty then _ else line'.allNull indices
          rw [hNull]

end Row

/-- A copy of an answer is joined like the answer itself. -/
theorem Shape.join_of_copy {s : Shape} {answer : Source} {copied : Snapshot}
    (hCopy : answer.copy.1 = .ok copied) (hSome : 0 < answer.columns.length)
    (hRow : s.row? ≠ none) :
    s.join reader related (.source answer) = s.join reader related (.snapshot copied) := by
  obtain ⟨hColumns, -, hLines⟩ := Source.copy_ok hCopy
  have hAlike (row? : Option Row) (line line' : Line)
      (hSame : line.SameBelow answer.columns.length line') :
      (row?.elim .unused (Row.join reader related (.source answer))).Alike
        (row?.elim .unused (Row.join reader related (.snapshot copied))) line line' := by
    cases row? with
    | none => exact ⟨rfl, rfl⟩
    | some row =>
        have hNames : (Cursor.source answer).columns = (Cursor.snapshot copied).columns :=
          hColumns.symm
        exact row.join_alike hNames hSome hSame
  refine Shape.assemble_congr (hLines.imp fun line line' hSame => ?_) fun hNone => absurd hNone hRow
  exact ⟨hAlike _ line line' hSame, hAlike _ line line' hSame⟩

end Congruence

namespace QueryDeclaration

variable {schema : Schema} {q : QueryDeclaration} {shape : Shape} {db : Connection}
  {related : RelationField → Source} {reader : Reader} {args : List (String × Value)}

/-- The connection answers the queries of all relation fields of the result from fixed rows. -/
def AnswersFrom (db : Connection) (shape : Shape) (related : RelationField → Source) : Prop :=
  ∀ row, shape.row? = some row → ∀ filled ∈ row.relations,
    db.AnswersFrom filled.1.query (related filled.1)

/-- The relation fields of an accepted shape can be joined: related structs have none themselves. -/
theorem joinable_of_shape (h : q.shape schema = .ok shape)
    (hAnswers : AnswersFrom db shape related) :
    Shape.Joinable db related shape := by
  intro row hPart filled hFilled
  rcases List.mem_append.mp hPart with hKey | hValue
  · rw [Schema.relations_eq_nil_of_key h (Option.mem_toList.mp hKey)] at hFilled
    cases hFilled
  · have hRow : shape.row? = some row := Option.mem_toList.mp hValue
    refine ⟨hAnswers row hRow filled hFilled, ?_⟩
    cases row with
    | scalar type column => cases hFilled
    | entity built =>
        obtain ⟨e, -, hBuilt⟩ := Schema.elements_of_row h hRow
        exact hBuilt.related_plain filled hFilled

/-- What is made of an answer is its join with the related rows. -/
theorem opened_joins (hShape : Shape.Joinable db related shape) (answer : Source) :
    Session.Ensures (liftM (shape.opened answer) >>= fun c => shape.meaning reader db c)
      fun d => shape.join reader related (.source answer) = .ok d := by
  refine Session.ensures_liftM.bind fun c hOpened => ?_
  refine (Shape.meaning_joins hShape).mono fun d hMeaning => ?_
  obtain ⟨hJoin, hSome⟩ := hMeaning
  rw [Shape.opened] at hOpened
  cases hCopies : shape.copiesCursor with
  | false =>
      rw [hCopies] at hOpened
      obtain rfl := Except.ok.inj hOpened
      exact hJoin
  | true =>
      rw [hCopies] at hOpened
      obtain ⟨copied, hCopy, rfl⟩ := map_eq_ok_iff.mp hOpened
      have hRow : shape.row? ≠ none := by
        rintro hNone
        rw [Shape.copiesCursor, hNone] at hCopies
        cases hCopies
      have hColumns : (Cursor.snapshot copied).columns = answer.columns := (Source.copy_ok hCopy).1
      rw [← hJoin]
      exact Shape.join_of_copy hCopy (hColumns ▸ hSome hCopies) hRow

/-- Whatever a generated function returns is the join of the answer of its query with the related
rows, if the connection answers the queries of relation fields from fixed rows. -/
theorem result_is_join (h : q.shape schema = .ok shape) (hAnswers : AnswersFrom db shape related)
    {d : Datum} {calls : List Call}
    (hRun : (q.body shape).outcomeWith reader db args = (.ok d, calls)) :
    ∃ values answer, q.values? args = some values ∧
      db.answer [] ⟨q.query.sql.value, values⟩ = .ok answer ∧
        shape.join reader related (.source answer) = .ok d := by
  cases hArgs : q.values? args with
  | none =>
      rw [outcomeWith_of_unbound hArgs] at hRun
      cases hRun
  | some values =>
      rw [outcomeWith_of_values (prepares_of_shape h) hArgs, Prod.mk.injEq] at hRun
      have hMeaning : ((q.meaning shape reader db values).after []).1 = .ok d := by
        cases hEnd : ((q.meaning shape reader db values).after []).1 with
        | error e =>
            rw [hEnd] at hRun
            cases hRun.1
        | ok found =>
            rw [hEnd] at hRun
            cases hRun.1
            rfl
      rw [meaning, Session.after_bind, Connection.query_after] at hMeaning
      cases hAnswer : db.answer [] ⟨q.query.sql.value, values⟩ with
      | error e =>
          rw [hAnswer] at hMeaning
          cases hMeaning
      | ok answer =>
          rw [hAnswer] at hMeaning
          exact ⟨values, answer, rfl, hAnswer,
            opened_joins (joinable_of_shape h hAnswers) answer _ d _ (Prod.ext hMeaning rfl)⟩

end QueryDeclaration

namespace Example

/-- A connection that selects the rows of bound keys answers from these rows. -/
theorem answersFrom_selected {db : Connection} {query : RelationQuery} {names : List String}
    {rows : List (List (Except DataError Value))}
    (h : ∀ earlier (keys : List Key),
      db.answer earlier ⟨query.sql db keys.length, keys.map Key.toValue⟩ =
        .ok (selected (.ofRows (RelationQuery.keyColumn :: names) rows) (keys.map Key.toValue))) :
    db.AnswersFrom query (.ofRows (RelationQuery.keyColumn :: names) rows) := by
  constructor
  · intro earlier keys answer hAnswer
    rw [h] at hAnswer
    obtain rfl := Except.ok.inj hAnswer
    apply List.filter_congr
    intro row _
    have hValue (v : Value) :
        decide (v ∈ keys.map Key.toValue) = v.toKey.any (· ∈ keys) := by
      rw [Bool.eq_iff_iff, decide_eq_true_eq, List.mem_map, Option.any_eq_true]
      constructor
      · rintro ⟨k, hk, rfl⟩
        exact ⟨k, k.toKey_toValue, decide_eq_true hk⟩
      · rintro ⟨k, hKey, hk⟩
        exact ⟨k, of_decide_eq_true hk, Value.toValue_of_toKey hKey⟩
    cases row with
    | nil => rfl
    | cons cell rest =>
        cases cell with
        | error e => rfl
        | ok v => exact hValue v
  · intro earlier keys answer hAnswer
    rw [h] at hAnswer
    obtain rfl := Except.ok.inj hAnswer
    exact Or.inl rfl

theorem bookQuery_sql_ne (db other : Connection) (count otherCount : Nat) :
    bookQuery.sql db count ≠ favouriteQuery.sql other otherCount := by
  intro h
  have hNinth := congrArg (fun sql : String => (sql.toList.drop 8).head?) h
  have hSelect : "SELECT ".toList = ['S', 'E', 'L', 'E', 'C', 'T', ' '] := by decide
  have hColumn : (RelationQuery.quoteIdentifier "author_id").toList =
      '"' :: 'a' :: "uthor_id\"".toList := by decide +kernel
  have hJunction : "SELECT \"_junction\".".toList =
      ['S', 'E', 'L', 'E', 'C', 'T', ' ', '"', '_'] ++ "junction\".".toList := by decide
  simp only [RelationQuery.sql, bookQuery, favouriteQuery, String.toList_append,
    List.append_assoc, hSelect, hColumn, hJunction] at hNinth
  exact absurd hNinth (by simp)

theorem authorConnection_answers :
    QueryDeclaration.AnswersFrom authorConnection authorShape authorRelated := by
  have hFavourites : authorConnection.AnswersFrom favouriteQuery favouriteRows := by
    apply answersFrom_selected
    intro earlier keys
    dsimp only [authorConnection]
    rw [List.length_map]
    exact if_pos rfl
  have hBooks : authorConnection.AnswersFrom bookQuery bookRows := by
    apply answersFrom_selected
    intro earlier keys
    dsimp only [authorConnection]
    rw [List.length_map]
    exact (if_neg (bookQuery_sql_ne _ _ _ _)).trans (if_pos rfl)
  intro row hRow filled hFilled
  obtain rfl := Option.some.inj hRow
  have hField : filled ∈ [(⟨"books", "id", bookQuery, .many⟩, bookRow),
      (⟨"favourite", "id", favouriteQuery, .optional⟩, bookRow)] := hFilled
  rcases List.mem_cons.mp hField with rfl | hOther
  · exact hBooks
  · obtain rfl := List.mem_singleton.mp hOther
    exact hFavourites

end Example

namespace QueryDeclaration

set_option maxRecDepth 20000 in
theorem authors_result_is_join :
    ∃ answer, Example.authors.shape Example.authorSchema = .ok Example.authorShape ∧
      AnswersFrom Example.authorConnection Example.authorShape Example.authorRelated ∧
      Example.authorConnection.answer [] ⟨"SELECT * FROM author", []⟩ = .ok answer ∧
      Example.authorShape.join Reader.standard Example.authorRelated (.source answer) =
        .ok Example.hydratedAuthors := by
  have hShape : Example.authors.shape Example.authorSchema = .ok Example.authorShape := by
    with_unfolding_all rfl
  have hRun : ((Example.authors.body Example.authorShape).outcomeWith Reader.standard
      Example.authorConnection []).1 = .ok Example.hydratedAuthors := by with_unfolding_all rfl
  obtain ⟨values, answer, hValues, hAnswer, hJoin⟩ :=
    result_is_join hShape Example.authorConnection_answers (Prod.ext hRun rfl)
  obtain rfl : [] = values := Option.some.inj hValues
  exact ⟨answer, hShape, Example.authorConnection_answers, hAnswer, hJoin⟩

end QueryDeclaration

end TypedQuery
