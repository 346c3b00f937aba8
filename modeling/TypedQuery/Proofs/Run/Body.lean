import TypedQuery.Proofs.Run.Shapes

namespace TypedQuery

open Run

variable {reader : Reader} {db : Connection} {env : Env} {cursor out : Var} {c : Cursor} {n : Nat}

namespace Run

section Results

variable {v : Var}

theorem yields_result_datum {d : Datum} (h : env.lookup v = some (.datum d)) :
    Yields (result v) env d := (yields_slot h).bind fun _ => rfl

theorem yields_result_items {ds : List Datum} (h : env.lookup v = some (.items ds)) :
    Yields (result v) env (.list ds) := (yields_slot h).bind fun _ => rfl

theorem yields_result_entries {es : List (Datum × Datum)} (h : env.lookup v = some (.entries es)) :
    Yields (result v) env (.entries es) := (yields_slot h).bind fun _ => rfl

theorem yields_result_raw {rows : Snapshot}
    (h : env.lookup v = some (.cursor (.snapshot rows))) :
    Yields (result v) env (.raw rows) := (yields_slot h).bind fun _ => rfl

end Results

end Run

namespace Shape

section Meaning

/-- Without a key only values are prepared for. -/
theorem meaning_of_row {s : Shape} {row : Row} (hKey : s.key? = none) (hRow : s.row? = some row) :
    s.meaning reader db c = row.prepared reader db c >>= fun p =>
      liftM (s.assemble reader .unused (row.converter reader p) c) := by
  simp only [meaning, Row.converter?, hKey, hRow, pure_bind, bind_assoc]

theorem meaning_of_map (kind : MapKind) (keyRow row : Row) :
    meaning reader db c (.map kind keyRow row) = (keyRow.prepared reader db c >>= fun keyPrepared =>
      row.prepared reader db c >>= fun p =>
        liftM (c.lines.foldlM ((keyRow.converter reader keyPrepared).insertEntry reader
          (row.converter reader p)) [])) >>= fun es => pure (.entries es) := by
  simp only [meaning, Row.converter?, key?, row?, assemble, pure_bind, bind_assoc, liftM_bind,
    liftM_pure]

theorem meaning_of_multimap (kind : MapKind) (keyRow row : Row) :
    meaning reader db c (.multimap kind keyRow row) =
      (keyRow.prepared reader db c >>= fun keyPrepared => row.prepared reader db c >>= fun p =>
        liftM (c.lines.foldlM ((keyRow.converter reader keyPrepared).groupEntry reader
          (row.converter reader p)) [])) >>= fun es => pure (.entries es) := by
  simp only [meaning, Row.converter?, key?, row?, assemble, pure_bind, bind_assoc, liftM_bind,
    liftM_pure]

end Meaning

/-- Rows are counted one by one. -/
theorem meaning_of_rowCount :
    meaning reader db c .rowCount =
      liftM (c.lines.foldlM (fun count _ => pure (count + 1)) 0 : Except DataError Nat) >>=
        fun count => pure (.count count) := by
  have hCount (lines : List Line) (k : Nat) :
      lines.foldlM (fun count _ => (pure (count + 1) : Except DataError Nat)) k =
        pure (k + lines.length) := by
    induction lines generalizing k with
    | nil => rfl
    | cons line lines ih =>
        rw [List.foldlM_cons, pure_bind, ih, List.length_cons, Nat.add_right_comm, Nat.add_assoc]
  simp only [meaning, Row.converter?, key?, row?, assemble, pure_bind, liftM_pure, hCount,
    Nat.zero_add]

/-- The code of a shape leaves in `out` what the shape means. Relation fields need a cursor that is
a snapshot before its first row. -/
theorem emit_runs (s : Shape) (hCursor : env.lookup cursor = some (.cursor c))
    (hOlder : cursor.Older n) (hOut : out.Older n) (hApart : cursor ≠ out)
    (hStart : ∀ row ∈ s.parts, row.relations = [] ∨ Rewound c) :
    Runs reader db ((s.emit out cursor).run n).1 env (s.meaning reader db c) fun d left =>
      Yields (result out) left d := by
  cases s with
  | single row =>
      rw [meaning_of_row rfl rfl]
      simp only [assemble]
      exact (emitFirst_runs hCursor hOlder (hStart row (by simp [parts, key?, row?]))).mono
        fun d left hLeft => yields_result_datum hLeft
  | optional row flattened =>
      rw [meaning_of_row rfl rfl]
      simp only [assemble]
      exact (emitFirst_runs hCursor hOlder (hStart row (by simp [parts, key?, row?]))).mono
        fun d left hLeft => yields_result_datum hLeft
  | list row =>
      rw [meaning_of_row rfl rfl]
      simp only [assemble, liftM_bind, liftM_pure]
      rw [← bind_assoc]
      exact (emitList_runs hCursor hOlder hOut hApart
        (hStart row (by simp [parts, key?, row?]))).finish
          fun ds left hLeft => yields_result_items hLeft
  | stream row =>
      rw [emit_stream_run, meaning_of_row rfl rfl]
      simp only [assemble, liftM_bind, liftM_pure]
      rw [← bind_assoc]
      have hNew : (Var.temporary "items" n).Between n (n + 1) :=
        Var.between_temporary (Nat.le_refl n) (Nat.lt_succ_self n)
      refine (emitList_runs hCursor (hOlder.mono (Nat.le_succ n))
        (Var.older_temporary (Nat.lt_succ_self n)) (hOlder.ne hNew)
        (hStart row (by simp [parts, key?, row?]))).append fun ds left hLeft => ?_
      exact Runs.stream hLeft (Runs.nil (yields_result_datum (Env.lookup_put_self _ _ _)))
  | map kind keyRow row =>
      rw [meaning_of_map]
      exact (emitMap_runs false hCursor hOlder hOut hApart
        (hStart keyRow (by simp [parts, key?, row?]))
        (hStart row (by simp [parts, key?, row?]))).finish
          fun es left hLeft => yields_result_entries hLeft
  | multimap kind keyRow row =>
      rw [meaning_of_multimap]
      exact (emitMap_runs true hCursor hOlder hOut hApart
        (hStart keyRow (by simp [parts, key?, row?]))
        (hStart row (by simp [parts, key?, row?]))).finish
          fun es left hLeft => yields_result_entries hLeft
  | rows =>
      rw [emit_rows_run]
      simp only [meaning, key?, row?, Row.converter?, assemble, pure_bind, liftM_bind, liftM_pure]
      exact Runs.copy hCursor fun copied _ =>
        Runs.nil (yields_result_raw (Env.lookup_put_self _ _ _))
  | rowCount =>
      have hNew : (Var.temporary "count" n).Between n (n + 1) :=
        Var.between_temporary (Nat.le_refl n) (Nat.lt_succ_self n)
      rw [emit_rowCount_run, meaning_of_rowCount]
      refine Runs.set_const rfl ?_
      have hOpen :
          (env.put (.temporary "count" n) (.count 0)).lookup cursor = some (.cursor c) := by
        rw [Env.lookup_put_of_ne _ _ (hOlder.ne hNew), hCursor]
      have hFar : cursor ∉ [Var.temporary "count" n] := by simp [hOlder.ne hNew]
      refine Runs.scanRows hOpen (Env.lookup_put_self _ _ _) hFar
        (fun count left line hHeld _ _ => ?_) fun count left position hFound _ _ => ?_
      · refine Runs.simulates (Runs.increment hHeld (Runs.nil ⟨Env.lookup_put_self _ _ _, ?_⟩))
        exact (Env.SameBut.refl _ left).put List.mem_cons_self _
      · exact Runs.rowCount hFound (Runs.nil (yields_result_datum (Env.lookup_put_self _ _ _)))

end Shape

/-- The outcome of a generated function on a connection that was asked before. -/
def QueryBody.outcomeAfter (body : QueryBody) (reader : Reader) (db : Connection)
    (args : List (String × Value)) (earlier : List Call) : Except Fault Datum × List Call :=
  Run.outcomeAfter (body.run reader db args) [] earlier

namespace QueryDeclaration

variable {q : QueryDeclaration} {shape : Shape} {args : List (String × Value)}
  {values : List Value}

/-- The variables of a function before its first statement. -/
def startEnv (args : List (String × Value)) : Env :=
  args.map fun (name, v) => (.named name, .argument v)

theorem lookup_startEnv (args : List (String × Value)) (name : String) :
    (startEnv args).lookup (.named name) = (args.lookup name).map Slot.argument := by
  induction args with
  | nil => rfl
  | cons arg args ih =>
      obtain ⟨other, v⟩ := arg
      by_cases hName : name = other
      · simp [startEnv, hName]
      · have hVar : (Var.named name == .named other) = false := by simp [hName]
        have hKey : (name == other) = false := by simp [hName]
        change List.lookup (Var.named name) ((.named other, .argument v) :: startEnv args) = _
        rw [List.lookup_cons, hVar, List.lookup_cons, hKey]
        exact ih

/-- Arguments that all have a value are read without a failure. -/
theorem yields_arguments {arguments : List (String × TypeExpr)}
    (h : arguments.mapM (fun (name, _) => args.lookup name) = some values) :
    Yields ((arguments.map (·.1)).mapM Run.argument) (startEnv args) values := by
  induction arguments generalizing values with
  | nil =>
      cases h
      exact Yields.pure [] _
  | cons head rest ih =>
      obtain ⟨name, type⟩ := head
      simp only [List.mapM_cons, Option.bind_eq_bind, Option.bind_eq_some_iff, Option.pure_def,
        Option.some.injEq] at h
      obtain ⟨v, hValue, others, hOthers, rfl⟩ := h
      have hHeld : (startEnv args).lookup (.named name) = some (.argument v) := by
        rw [lookup_startEnv, hValue]
        rfl
      have hArgument : Yields (Run.argument name) (startEnv args) v :=
        (yields_slot hHeld).bind fun _ => rfl
      rw [List.map_cons, List.mapM_cons]
      exact hArgument.bind ((ih hOthers).bind (Yields.pure (v :: others) _))

/-- Without a value for some argument nothing is sent. -/
theorem stuck_arguments {arguments : List (String × TypeExpr)}
    (h : arguments.mapM (fun (name, _) => args.lookup name) = none) (calls : List Call) :
    Run.after ((arguments.map (·.1)).mapM Run.argument) (startEnv args) calls =
      (.error .stuck, calls) := by
  induction arguments with
  | nil => cases h
  | cons head rest ih =>
      obtain ⟨name, type⟩ := head
      rw [List.map_cons, List.mapM_cons, Run.after_bind]
      have hHeld := lookup_startEnv args name
      cases hValue : args.lookup name with
      | none =>
          have hStuck : Run.after (Run.argument name) (startEnv args) calls =
              (.error .stuck, calls) := by
            rw [hValue] at hHeld
            change Run.after (slot (.named name) >>= _) (startEnv args) calls = _
            rw [Run.after_bind, after_slot_of_unbound hHeld calls]
          rw [hStuck]
      | some v =>
          rw [hValue] at hHeld
          have hArgument : Yields (Run.argument name) (startEnv args) v :=
            (yields_slot hHeld).bind fun _ => rfl
          have hRest : rest.mapM (fun (name, _) => args.lookup name) = none := by
            simp only [List.mapM_cons, hValue, Option.bind_eq_bind, Option.bind_some,
              Option.bind_eq_none_iff] at h
            cases hRest : rest.mapM (fun (name, _) => args.lookup name) with
            | none => rfl
            | some others => exact absurd (h others hRest) (by simp)
          rw [hArgument calls]
          dsimp only
          rw [Run.after_bind, ih hRest]

/-- Relation fields stand only where rows are copied first. -/
def Prepares (shape : Shape) : Prop :=
  ∀ row ∈ shape.parts, row.relations = [] ∨ shape.copiesCursor = true

/-- The statements of a function do what the query means. -/
theorem body_runs (hShape : Prepares shape) (hArgs : q.values? args = some values) :
    Runs reader db (q.body shape).stmts (startEnv args) (q.meaning shape reader db values)
      fun d left => Yields (Run.result (q.body shape).out) left d := by
  have hBound := yields_arguments hArgs
  cases hCopies : shape.copiesCursor with
  | false =>
      rw [body_of_direct q hCopies, meaning]
      simp only [Shape.opened, hCopies]
      apply Runs.query hBound
      intro answer
      refine shape.emit_runs (Env.lookup_put_self _ _ _) (Var.older_temporary (by decide))
        (Var.older_temporary (by decide)) (by simp) fun row hRow => ?_
      have hRelations := hShape row hRow
      rw [hCopies] at hRelations
      exact hRelations.imp_right fun h => nomatch h
  | true =>
      rw [body_of_copied q hCopies, meaning]
      simp only [Shape.opened, hCopies, ↓reduceIte, map_eq_pure_bind, liftM_bind, bind_assoc,
        liftM_pure, pure_bind]
      apply Runs.query hBound
      intro answer
      apply Runs.copy (c := .source answer) (Env.lookup_put_self _ _ _)
      intro copied hCopied
      refine shape.emit_runs (Env.lookup_put_self _ _ _) (Var.older_temporary (by decide))
        (Var.older_temporary (by decide)) (by simp) fun row hRow => Or.inr ⟨copied, rfl, ?_⟩
      exact (Source.copy_ok hCopied).2.1

/-- Values with relation fields make a shape copy its rows. -/
theorem prepares_of_plain_key (h : ∀ row ∈ shape.key?, row.relations = []) : Prepares shape := by
  intro row hRow
  rcases List.mem_append.mp hRow with hKey | hValue
  · exact Or.inl (h row (Option.mem_toList.mp hKey))
  · have hPart : shape.row? = some row := Option.mem_toList.mp hValue
    rw [Shape.copiesCursor, hPart, Option.any_some, Row.hasRelations]
    cases row.relations with
    | nil => exact Or.inl rfl
    | cons filled rest => exact Or.inr rfl

/-- Only the values of an accepted shape have relation fields. -/
theorem prepares_of_shape {schema : Schema} (h : q.shape schema = .ok shape) : Prepares shape :=
  prepares_of_plain_key fun _ => Schema.relations_eq_nil_of_key h

theorem run_simulates (hShape : Prepares shape) (hArgs : q.values? args = some values) :
    Simulates ((q.body shape).run reader db args) [] (q.meaning shape reader db values)
      fun d a _ => a = d := by
  intro calls
  change Matches _ _ (Run.after (stmts reader db (q.body shape).stmts >>= fun _ =>
    Run.result (q.body shape).out) (startEnv args) calls)
  refine (body_runs hShape hArgs).simulates.seq (fun d _ left hLeft sent => ?_) calls
  rw [hLeft sent]
  exact Matches.done rfl

/-- The outcome of a function whose arguments have values is that of its meaning. -/
theorem outcomeAfter_of_values (hShape : Prepares shape) (hArgs : q.values? args = some values)
    (earlier : List Call) : (q.body shape).outcomeAfter reader db args earlier =
      (((q.meaning shape reader db values).after earlier).1.mapError Fault.failed,
        ((q.meaning shape reader db values).after earlier).2) :=
  (run_simulates hShape hArgs).outcomeAfter earlier

theorem outcomeWith_of_values (hShape : Prepares shape) (hArgs : q.values? args = some values) :
    (q.body shape).outcomeWith reader db args =
      (((q.meaning shape reader db values).after []).1.mapError Fault.failed,
        ((q.meaning shape reader db values).after []).2) :=
  outcomeAfter_of_values hShape hArgs []

/-- A function without a value for some argument is stuck before it sends its query. -/
theorem outcomeWith_of_unbound (hArgs : q.values? args = none) :
    (q.body shape).outcomeWith reader db args = (.error .stuck, []) := by
  have hStuck := stuck_arguments hArgs []
  obtain ⟨rest, hBody⟩ : ∃ rest, (q.body shape).stmts = q.sending :: rest := by
    cases hCopies : shape.copiesCursor with
    | false => exact ⟨_, by rw [body_of_direct q hCopies]⟩
    | true => exact ⟨_, by rw [body_of_copied q hCopies]⟩
  have hSending : Run.after (stmts reader db (q.sending :: rest) >>= fun _ =>
      Run.result (q.body shape).out) (startEnv args) [] = (.error .stuck, []) := by
    change Run.after ((((q.arguments.map (·.1)).mapM Run.argument >>= _) >>= _) >>= _) _ _ = _
    rw [Run.after_bind, Run.after_bind, Run.after_bind, hStuck]
  have hOutcome : (q.body shape).outcomeWith reader db args =
      ((Run.after (stmts reader db (q.body shape).stmts >>= fun _ =>
          Run.result (q.body shape).out) (startEnv args) []).1.map (·.1),
        (Run.after (stmts reader db (q.body shape).stmts >>= fun _ =>
          Run.result (q.body shape).out) (startEnv args) []).2) := rfl
  rw [hOutcome, hBody, hSending]
  rfl

end QueryDeclaration

end TypedQuery
