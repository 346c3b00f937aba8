import TypedQuery.Proofs.Calls.Planned

/-! The shapes of one row agree with each other. On a connection that answers every call alike all
of them get ready alike, and then they differ only in how many of the rows they convert. -/

namespace TypedQuery

section Oblivious

variable {reader : Reader} {db : Connection}

namespace RelationQuery

/-- The name of a table in an error does not depend on earlier calls. -/
theorem located_oblivious (q : RelationQuery) {β : Type} {session : Session β}
    (h : session.Oblivious) : (q.located session).Oblivious := by
  intro calls others
  rw [located_after, located_after]
  exact congrArg (Except.mapError _) (h calls others)

/-- On a connection that forgets its calls a fetch depends on its keys alone. -/
theorem fetch_oblivious (q : RelationQuery) (h : db.Stateless) (keys : List Key) :
    (q.fetch db keys).Oblivious := by
  have hChunk (chunk : List Value) : (q.fetchChunk db chunk).Oblivious :=
    (h.query _ _).bind fun answer => Session.oblivious_liftM _
  refine (Session.Oblivious.foldlM (fun earlier chunk => ?_) _ _).bind fun joined => .pure _
  refine q.located_oblivious ((hChunk chunk).bind fun answer => ?_)
  exact (Session.oblivious_liftM _).bind fun joined => .pure _

end RelationQuery

namespace EntityRow

theorem relatedGroups_oblivious (e : EntityRow) (related : Snapshot) {inner : Session Prepared}
    (h : inner.Oblivious) : (e.relatedGroups reader related inner).Oblivious := by
  rw [relatedGroups]
  split
  · exact .pure []
  · exact (Session.oblivious_liftM _).bind fun index => h.bind fun p => Session.oblivious_liftM _

mutual

/-- Preparation of a struct does not depend on earlier calls, as its fetches do not. -/
theorem prepared_oblivious (h : db.Stateless) (c : Cursor) :
    (e : EntityRow) → (e.prepared reader db c).Oblivious
  | mk _ fields relations => by
    rw [prepared]
    exact (Session.oblivious_liftM _).bind fun columns =>
      (preparedRelations_oblivious h c relations).bind fun found => .pure _

theorem preparedRelations_oblivious (h : db.Stateless) (c : Cursor) :
    (relations : List (RelationField × EntityRow)) →
      (preparedRelations reader db c relations).Oblivious
  | [] => by
    rw [preparedRelations]
    exact .pure []
  | filled :: rest => by
    rw [preparedRelations]
    exact (preparedRelation_oblivious h c filled).bind fun found =>
      (preparedRelations_oblivious h c rest).bind fun others => .pure _

theorem preparedRelation_oblivious (h : db.Stateless) (c : Cursor) :
    (filled : RelationField × EntityRow) → (preparedRelation reader db c filled).Oblivious
  | (r, entity) => by
    rw [preparedRelation]
    refine (Session.oblivious_liftM _).bind fun index => ?_
    refine (Session.oblivious_liftM _).bind fun keys => ?_
    refine (r.query.fetch_oblivious h keys).bind fun related => ?_
    refine Session.Oblivious.bind ?_ fun groups => .pure _
    exact entity.relatedGroups_oblivious related (prepared_oblivious h (.snapshot related) entity)

end

end EntityRow

/-- Neither does preparation of a part of a shape. -/
theorem Row.converter?_oblivious (h : db.Stateless) (c : Cursor) (row? : Option Row) :
    (converter? reader db c row?).Oblivious := by
  cases row? with
  | none => exact .pure _
  | some row =>
      rw [converter?]
      refine Session.Oblivious.bind ?_ fun p => .pure _
      cases row with
      | scalar _ column? =>
          cases column? with
          | some column => exact (Session.oblivious_liftM _).bind fun index => .pure _
          | none => exact .pure _
      | entity e => exact e.prepared_oblivious h c

/-- On a connection that answers every call alike a function gets ready in the same way every
time. -/
theorem QueryDeclaration.ready_oblivious (q : QueryDeclaration) (shape : Shape) (h : db.Stateless)
    (values : List Value) : (q.ready shape reader db values).Oblivious := by
  refine (h.query _ _).bind fun answer => ?_
  refine (Session.oblivious_liftM _).bind fun c => ?_
  exact (Row.converter?_oblivious h c _).bind fun k =>
    (Row.converter?_oblivious h c _).bind fun v => .pure _

end Oblivious

/-- Lines are converted one by one until one of them fails. -/
inductive FailsAfter (convert : Line → Except DataError Datum) :
    List Line → List Datum → DataError → Prop where
  | now {line : Line} {rest : List Line} {e : DataError} (fails : convert line = .error e) :
      FailsAfter convert (line :: rest) [] e
  | later {line : Line} {rest : List Line} {d : Datum} {ds : List Datum} {e : DataError}
      (converts : convert line = .ok d) (after : FailsAfter convert rest ds e) :
      FailsAfter convert (line :: rest) (d :: ds) e

section Lines

variable {convert : Line → Except DataError Datum} {lines : List Line} {ds : List Datum}
  {e : DataError} {result : FirstRow}

theorem FailsAfter.mapM (h : FailsAfter convert lines ds e) : lines.mapM convert = .error e := by
  induction h with
  | now fails =>
      rw [List.mapM_cons, bind_eq_error_iff]
      exact Or.inl fails
  | later converts _ ih =>
      rw [List.mapM_cons, bind_eq_error_iff]
      exact Or.inr ⟨_, converts, bind_eq_error_iff.mpr (Or.inl ih)⟩

/-- A conversion that fails does so at one row, after those that it converts. -/
theorem exists_failsAfter (h : lines.mapM convert = .error e) :
    ∃ ds, FailsAfter convert lines ds e := by
  induction lines with
  | nil => cases h
  | cons line rest ih =>
      rw [List.mapM_cons, bind_eq_error_iff] at h
      rcases h with hLine | ⟨d, hLine, hLater⟩
      · exact ⟨[], .now hLine⟩
      · rcases bind_eq_error_iff.mp hLater with hRest | ⟨_, _, hEnd⟩
        · obtain ⟨ds, hFails⟩ := ih hRest
          exact ⟨d :: ds, .later hLine hFails⟩
        · exact absurd hEnd pure_ne_error

/-- Where all lines can be converted, the first one is the head of what they become. -/
theorem Line.first_of_mapM (h : lines.mapM convert = .ok ds) : Line.first result convert lines =
    ds.head?.elim (Run.missing result) fun d => .ok (Run.first result d) := by
  cases mapM_eq_ok_iff.mp h with
  | nil => rfl
  | cons hHead _ =>
      rw [Line.first, hHead]
      rfl

/-- A failure counts for the first line only if it is its own. -/
theorem Line.first_of_failsAfter (h : FailsAfter convert lines ds e) :
    Line.first result convert lines =
      ds.head?.elim (.error e) fun d => .ok (Run.first result d) := by
  cases h with
  | now fails =>
      rw [Line.first, fails]
      rfl
  | later converts _ =>
      rw [Line.first, converts]
      rfl

end Lines

namespace Shape

variable {k v : Converter} {c : Cursor} {ds : List Datum} {e : DataError}

/-- The results of the shapes of a row, from what all lines become. -/
theorem assemble_of_mapM (row : Row) (h : c.lines.mapM v.convert = .ok ds) :
    (list row).assemble reader k v c = .ok (.list ds) ∧
    (stream row).assemble reader k v c = .ok (.list ds) ∧
    (optional row false).assemble reader k v c = .ok (ds.head?.elim .absent .present) ∧
    (optional row true).assemble reader k v c = .ok (ds.head?.getD .absent) ∧
    (single row).assemble reader k v c =
      ds.head?.elim (.error (.emptyResult row.typeName)) .ok := by
  have hList : (do return .list (← c.lines.mapM v.convert)) =
      (.ok (.list ds) : Except DataError Datum) := by
    rw [h]
    rfl
  have hFirst (result : FirstRow) : Line.first result v.convert c.lines =
      ds.head?.elim (Run.missing result) fun d => .ok (Run.first result d) := Line.first_of_mapM h
  refine ⟨hList, hList, ?_, ?_, ?_⟩
  · rw [assemble, hFirst]
    cases ds <;> rfl
  · rw [assemble, hFirst]
    cases ds <;> rfl
  · rw [assemble, hFirst]
    cases ds <;> rfl

/-- The results of the shapes of a row where a line cannot be converted. Those of the first row
alone are not concerned unless it is the first. -/
theorem assemble_of_failsAfter (row : Row) (h : FailsAfter v.convert c.lines ds e) :
    (list row).assemble reader k v c = .error e ∧
    (stream row).assemble reader k v c = .error e ∧
    (optional row false).assemble reader k v c =
      ds.head?.elim (.error e) (fun d => .ok (.present d)) ∧
    (optional row true).assemble reader k v c = ds.head?.elim (.error e) .ok ∧
    (single row).assemble reader k v c = ds.head?.elim (.error e) .ok := by
  have hList : (do return .list (← c.lines.mapM v.convert)) =
      (.error e : Except DataError Datum) := by
    rw [h.mapM]
    rfl
  have hFirst (result : FirstRow) : Line.first result v.convert c.lines =
      ds.head?.elim (.error e) fun d => .ok (Run.first result d) := Line.first_of_failsAfter h
  exact ⟨hList, hList, hFirst .wrapped, hFirst .flattened, hFirst (.required row.typeName)⟩

end Shape

namespace QueryDeclaration

variable {q : QueryDeclaration} {reader : Reader} {db : Connection} {args : List (String × Value)}
  {values : List Value} {shape : Shape} {row : Row}

/-- On a connection that answers every call alike a function gives what is assembled of anything
that it got ready. -/
theorem outcomeAfter_of_stateless (hDb : db.Stateless) (hShape : Prepares shape)
    (hArgs : q.values? args = some values) (calls earlier : List Call) :
    ((q.body shape).outcomeAfter reader db args earlier).1 =
      (((q.ready shape reader db values).after calls).1 >>= fun (c, k, v) =>
        shape.assemble reader k v c).mapError Fault.failed := by
  rw [outcomeAfter_of_ready hShape hArgs, q.ready_oblivious shape hDb values calls earlier]
  rcases (q.ready shape reader db values).after earlier with ⟨e | ⟨c, k, v⟩, sent⟩ <;> rfl

/-- A copy has as many rows left as its source. -/
theorem opened_lines_length {answer : Source} {c : Cursor} (h : shape.opened answer = .ok c) :
    c.lines.length = (Cursor.source answer).lines.length := by
  rw [Shape.opened] at h
  split at h
  · obtain ⟨copied, hCopy, rfl⟩ := map_eq_ok_iff.mp h
    exact (Source.copy_ok hCopy).2.2.length_eq.symm
  · cases h
    rfl

/-- A shape that got ready has opened the answer. -/
theorem ready_opened (q : QueryDeclaration) (shape : Shape) (reader : Reader) (db : Connection)
    (values : List Value) : (q.ready shape reader db values).Ensures fun ready =>
      ∃ earlier answer, db.answer earlier ⟨q.query.sql.value, values⟩ = .ok answer ∧
        shape.opened answer = .ok ready.1 := by
  refine (db.query_ensures _ _).bind fun answer hAnswer => ?_
  obtain ⟨earlier, hAnswer⟩ := hAnswer
  refine Session.ensures_liftM.bind fun c hOpened => ?_
  have hAny (row? : Option Row) : (Row.converter? reader db c row?).Ensures fun _ => True :=
    fun _ _ _ _ => trivial
  exact (hAny _).bind fun k _ => (hAny _).bind fun v _ =>
    Session.Ensures.pure ⟨earlier, answer, hAnswer, hOpened⟩

/-- If another shape gets ready, all its rows are counted. -/
theorem rowCount_of_ready (hDb : db.Stateless) (hArgs : q.values? args = some values)
    {calls : List Call} {c : Cursor} {k v : Converter}
    (hReady : ((q.ready shape reader db values).after calls).1 = .ok (c, k, v))
    (earlier : List Call) :
    ((q.body .rowCount).outcomeAfter reader db args earlier).1 = .ok (.count c.lines.length) := by
  obtain ⟨before, answer, hAnswer, hOpened⟩ :=
    ready_opened q shape reader db values calls (c, k, v) _ (Prod.ext hReady rfl)
  have hCounted : ((q.ready .rowCount reader db values).after earlier).1 =
      .ok (.source answer, .unused, .unused) := by
    rw [ready, Session.after_bind, Connection.query_after, hDb earlier before, hAnswer]
    rfl
  have hShape : Prepares .rowCount := by
    intro row hRow
    cases hRow
  rw [outcomeAfter_of_stateless hDb hShape hArgs earlier earlier, hCounted,
    opened_lines_length hOpened]
  rfl

section Agreement

variable {other : Shape} {calls : List Call} {c : Cursor} {k v : Converter} {ds : List Datum}
  {e : DataError}

/-- A function without keys that gets ready as another one gives what is assembled of what that one
got ready. -/
theorem outcomeAfter_of_same (hDb : db.Stateless) (hArgs : q.values? args = some values)
    (hKey : shape.key? = none)
    (hSame : q.ready shape reader db values = q.ready other reader db values)
    (calls earlier : List Call) :
    ((q.body shape).outcomeAfter reader db args earlier).1 =
      (((q.ready other reader db values).after calls).1 >>= fun (c, k, v) =>
        shape.assemble reader k v c).mapError Fault.failed := by
  have hShape : Prepares shape := prepares_of_plain_key fun _ hRow => by
    rw [hKey] at hRow
    cases hRow
  rw [outcomeAfter_of_stateless hDb hShape hArgs calls, hSame]

/-- Two shapes that get ready alike differ only in how they assemble their rows. -/
theorem outcomeAfter_of_opened (hDb : db.Stateless) (hArgs : q.values? args = some values)
    (hKey : shape.key? = none)
    (hSame : q.ready shape reader db values = q.ready other reader db values)
    (hReady : ((q.ready other reader db values).after calls).1 = .ok (c, k, v))
    (earlier : List Call) :
    ((q.body shape).outcomeAfter reader db args earlier).1 =
      (shape.assemble reader k v c).mapError Fault.failed := by
  rw [outcomeAfter_of_same hDb hArgs hKey hSame calls, hReady]
  rfl

/-- A missing row may become an error before or after the errors are told apart. -/
theorem mapError_elim {β : Type} (found : Option β) (e : DataError) (f : β → Datum) :
    (found.elim (.error e) fun d => .ok (f d) : Except DataError Datum).mapError Fault.failed =
      found.elim (.error (.failed e)) fun d => .ok (f d) := by
  cases found <;> rfl

/-- What the functions of a row give where all lines can be converted. -/
theorem outcomes_of_mapM (row : Row) (hDb : db.Stateless) (hArgs : q.values? args = some values)
    (hReady : ((q.ready (.list row) reader db values).after calls).1 = .ok (c, k, v))
    (hLines : c.lines.mapM v.convert = .ok ds) (history : Shape → List Call) :
    let run (shape : Shape) := ((q.body shape).outcomeAfter reader db args (history shape)).1
    run (.list row) = .ok (.list ds) ∧
      run (.stream row) = .ok (.list ds) ∧
      run (.optional row false) = .ok (ds.head?.elim .absent .present) ∧
      run (.optional row true) = .ok (ds.head?.getD .absent) ∧
      run (.single row) = ds.head?.elim (.error (.failed (.emptyResult row.typeName))) .ok ∧
      run .rowCount = .ok (.count ds.length) := by
  intro run
  have hRun (shape : Shape) (hKey : shape.key? = none)
      (hSame : q.ready shape reader db values = q.ready (.list row) reader db values) :
      run shape = (shape.assemble reader k v c).mapError Fault.failed :=
    outcomeAfter_of_opened hDb hArgs hKey hSame hReady (history shape)
  obtain ⟨hList, hStream, hWrapped, hFlattened, hSingle⟩ := Shape.assemble_of_mapM row hLines
  refine ⟨?_, ?_, ?_, ?_, ?_, ?_⟩
  · rw [hRun (.list row) rfl rfl, hList]
    rfl
  · rw [hRun (.stream row) rfl rfl, hStream]
    rfl
  · rw [hRun (.optional row false) rfl rfl, hWrapped]
    rfl
  · rw [hRun (.optional row true) rfl rfl, hFlattened]
    rfl
  · rw [hRun (.single row) rfl rfl, hSingle]
    exact mapError_elim _ _ id
  · rw [← (mapM_eq_ok_iff.mp hLines).length_eq]
    exact rowCount_of_ready hDb hArgs hReady (history .rowCount)

/-- What the functions of a row give where a line cannot be converted. -/
theorem outcomes_of_failsAfter (row : Row) (hDb : db.Stateless)
    (hArgs : q.values? args = some values)
    (hReady : ((q.ready (.list row) reader db values).after calls).1 = .ok (c, k, v))
    (hFails : FailsAfter v.convert c.lines ds e) (history : Shape → List Call) :
    let run (shape : Shape) := ((q.body shape).outcomeAfter reader db args (history shape)).1
    run (.list row) = .error (.failed e) ∧
      run (.stream row) = .error (.failed e) ∧
      run (.optional row false) = ds.head?.elim (.error (.failed e)) (fun d => .ok (.present d)) ∧
      run (.optional row true) = ds.head?.elim (.error (.failed e)) .ok ∧
      run (.single row) = ds.head?.elim (.error (.failed e)) .ok ∧
      run .rowCount = .ok (.count c.lines.length) := by
  intro run
  have hRun (shape : Shape) (hKey : shape.key? = none)
      (hSame : q.ready shape reader db values = q.ready (.list row) reader db values) :
      run shape = (shape.assemble reader k v c).mapError Fault.failed :=
    outcomeAfter_of_opened hDb hArgs hKey hSame hReady (history shape)
  obtain ⟨hList, hStream, hWrapped, hFlattened, hSingle⟩ := Shape.assemble_of_failsAfter row hFails
  refine ⟨?_, ?_, ?_, ?_, ?_, rowCount_of_ready hDb hArgs hReady (history .rowCount)⟩
  · rw [hRun (.list row) rfl rfl, hList]
    rfl
  · rw [hRun (.stream row) rfl rfl, hStream]
    rfl
  · rw [hRun (.optional row false) rfl rfl, hWrapped]
    exact mapError_elim _ _ .present
  · rw [hRun (.optional row true) rfl rfl, hFlattened]
    exact mapError_elim _ _ id
  · rw [hRun (.single row) rfl rfl, hSingle]
    exact mapError_elim _ _ id

end Agreement

/-- All shapes of one row give what the list of the row says. -/
theorem shapes_agree (row : Row) (hDb : db.Stateless) (hArgs : q.values? args = some values)
    (history : Shape → List Call) :
    let run (shape : Shape) := ((q.body shape).outcomeAfter reader db args (history shape)).1
    let ready := ((q.ready (.list row) reader db values).after (history (.list row))).1
    (∀ ds, run (.list row) = .ok (.list ds) →
      run (.stream row) = .ok (.list ds) ∧
      run (.optional row false) = .ok (ds.head?.elim .absent .present) ∧
      run (.optional row true) = .ok (ds.head?.getD .absent) ∧
      run (.single row) = ds.head?.elim (.error (.failed (.emptyResult row.typeName))) .ok ∧
      run .rowCount = .ok (.count ds.length)) ∧
    (∀ e, ready = .error e → ∀ shape ∈ [Shape.list row, .stream row, .optional row false,
      .optional row true, .single row], run shape = .error (.failed e)) ∧
    (∀ c k v ds e, ready = .ok (c, k, v) → FailsAfter v.convert c.lines ds e →
      run (.list row) = .error (.failed e) ∧
      run (.stream row) = .error (.failed e) ∧
      run (.optional row false) = ds.head?.elim (.error (.failed e)) (fun d => .ok (.present d)) ∧
      run (.optional row true) = ds.head?.elim (.error (.failed e)) .ok ∧
      run (.single row) = ds.head?.elim (.error (.failed e)) .ok ∧
      run .rowCount = .ok (.count c.lines.length)) ∧
    ((∃ ds, run (.list row) = .ok (.list ds)) ∨ (∃ e, ready = .error e) ∨
      ∃ c k v ds e, ready = .ok (c, k, v) ∧ FailsAfter v.convert c.lines ds e) := by
  intro run ready
  refine ⟨fun ds hList => ?_, fun e hFails shape hShape => ?_,
    fun c k v ds e hReady hFails => outcomes_of_failsAfter row hDb hArgs hReady hFails history, ?_⟩
  · have hRun : run (.list row) = _ :=
      outcomeAfter_of_same hDb hArgs rfl rfl (history (.list row)) (history (.list row))
    rw [hRun, mapError_eq_ok_iff, bind_eq_ok_iff] at hList
    obtain ⟨⟨c, k, v⟩, hReady, hAssembled⟩ := hList
    obtain ⟨converted, hLines, hEnd⟩ := bind_eq_ok_iff.mp hAssembled
    obtain rfl : converted = ds := by
      injection hEnd with hEnd
      injection hEnd
    exact (outcomes_of_mapM row hDb hArgs hReady hLines history).2
  · have hPlain : shape.key? = none ∧
        q.ready shape reader db values = q.ready (.list row) reader db values := by
      simp only [List.mem_cons, List.not_mem_nil, or_false] at hShape
      rcases hShape with rfl | rfl | rfl | rfl | rfl <;> exact ⟨rfl, rfl⟩
    have hRun : run shape = (ready >>= _).mapError Fault.failed :=
      outcomeAfter_of_same hDb hArgs hPlain.1 hPlain.2 (history (.list row)) (history shape)
    rw [hRun, hFails]
    rfl
  · cases hReady : ready with
    | error e => exact Or.inr (Or.inl ⟨e, rfl⟩)
    | ok opened =>
        obtain ⟨c, k, v⟩ := opened
        cases hLines : c.lines.mapM v.convert with
        | ok ds =>
            exact Or.inl ⟨ds, (outcomes_of_mapM row hDb hArgs hReady hLines history).1⟩
        | error e =>
            obtain ⟨ds, hFails⟩ := exists_failsAfter hLines
            exact Or.inr (Or.inr ⟨c, k, v, ds, e, rfl, hFails⟩)

set_option maxRecDepth 20000 in
/-- All authors can be converted; of three numbers the second is a text. -/
theorem authors_and_numbers_agree :
    let run (db : Connection) (shape : Shape) :=
      ((Example.authors.body shape).outcomeAfter Reader.standard db [] []).1
    let author := Row.entity Example.authorRow
    let number := Row.scalar (.named "i64") (some "x")
    let numbers : Source :=
      .ofRows ["x"] [[.ok (.integer 1)], [.ok (.text "one")], [.ok (.integer 2)]]
    let db : Connection := ⟨fun _ _ => .ok numbers, Example.placeholder⟩
    (∃ first second third, Example.hydratedAuthors = .list [first, second, third] ∧
      run Example.authorConnection (.stream author) = .ok (.list [first, second, third]) ∧
      run Example.authorConnection (.optional author false) = .ok (.present first) ∧
      run Example.authorConnection (.optional author true) = .ok first ∧
      run Example.authorConnection (.single author) = .ok first ∧
      run Example.authorConnection .rowCount = .ok (.count 3)) ∧
    run db (.list number) = .error (.failed (.typeMismatch "i64" "TEXT")) ∧
      run db (.single number) = .ok (.integer 1) ∧ run db .rowCount = .ok (.count 3) := by
  intro run author number numbers db
  have hAuthors : Example.authorConnection.Stateless := fun _ _ _ => rfl
  have hNumbers : db.Stateless := fun _ _ _ => rfl
  have hArgs : Example.authors.values? [] = some [] := rfl
  have hList : run Example.authorConnection (.list author) = .ok Example.hydratedAuthors := by
    with_unfolding_all rfl
  obtain ⟨hAll, -⟩ := @shapes_agree Example.authors Reader.standard Example.authorConnection [] []
    author hAuthors hArgs fun _ => []
  obtain ⟨-, -, hStops, -⟩ := @shapes_agree Example.authors Reader.standard db [] [] number hNumbers
    hArgs fun _ => []
  have hReady : ((Example.authors.ready (.list number) Reader.standard db []).after []).1 =
      .ok (.source numbers, .unused, number.converter Reader.standard ⟨[0], []⟩) := by
    with_unfolding_all rfl
  have hFails : FailsAfter (number.converter Reader.standard ⟨[0], []⟩).convert
      (Cursor.source numbers).lines [.integer 1] (.typeMismatch "i64" "TEXT") :=
    .later (by with_unfolding_all rfl) (.now (by with_unfolding_all rfl))
  obtain ⟨hFailed, -, -, -, hSingle, hCount⟩ := hStops _ _ _ _ _ hReady hFails
  exact ⟨⟨_, _, _, rfl, hAll _ hList⟩, hFailed, hSingle, hCount⟩

end QueryDeclaration

end TypedQuery
