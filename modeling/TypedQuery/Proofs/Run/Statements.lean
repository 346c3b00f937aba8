import TypedQuery.Proofs.Meaning.Rows
import TypedQuery.Proofs.Relation.Fetch
import TypedQuery.Proofs.Run.Simulation

/-! What each statement does, as a law for code that starts with it: the code runs as a session if
the rest of it does, with the variables that the statement leaves. -/

namespace TypedQuery

namespace Run

variable {α β γ : Type}

/-- The step computes what the session gives, and leaves the variables as they are. -/
def Computes (step : Run α) (env : Env) (session : Session α) : Prop :=
  Simulates step env session fun b a left => a = b ∧ left = env

/-- A step that leaves all variables may be followed by any code. -/
theorem Computes.bind {step : Run α} {env : Env} {session : Session α} {next : α → Run γ}
    {rest : α → Session β} {post : β → γ → Env → Prop} (h : Computes step env session)
    (hNext : ∀ a, Simulates (next a) env (rest a) post) :
    Simulates (step >>= next) env (session >>= rest) post := by
  apply Simulates.bind h
  intro b a left hPost
  obtain ⟨rfl, rfl⟩ := hPost
  exact hNext a

/-- A variable may be read in front of a step that computes. -/
theorem Yields.computes {step : Run α} {env : Env} {a : α} {next : α → Run β}
    {session : Session β} (h : Yields step env a) (hNext : Computes (next a) env session) :
    Computes (step >>= next) env session :=
  h.simulates hNext

theorem Computes.pure (a : α) (env : Env) : Computes (pure a) env (pure a) :=
  Simulates.pure ⟨rfl, rfl⟩

/-- An outcome that is known is the same in the code and in the session. -/
theorem computes_attempt (tried : Except DataError α) (env : Env) :
    Computes (attempt tried) env (liftM tried) := simulates_attempt tried env

/-- Steps for all elements compute what a scan of the elements gives. -/
theorem computes_mapM {ι κ : Type} {step : ι → Run α} {tried : κ → Except DataError α} {env : Env}
    {xs : List ι} {ys : List κ}
    (h : List.Forall₂ (fun x y => Computes (step x) env (liftM (tried y))) xs ys) :
    Computes (xs.mapM step) env (liftM (ys.mapM tried)) := by
  induction h with
  | nil => exact Computes.pure [] env
  | cons hHead _ ih =>
      rw [List.mapM_cons, List.mapM_cons, liftM_bind]
      apply hHead.bind
      intro a
      rw [liftM_bind]
      exact ih.bind fun as => Computes.pure (a :: as) env

end Run

/-- The current row of the cursor in a variable has the values of a line. -/
def Env.Shows (env : Env) (cursor : Var) (line : Line) : Prop :=
  ∃ c, env.lookup cursor = some (.cursor c) ∧ ∀ index, c.value index = line index

/-- A cursor shows its row while other variables change. -/
theorem Env.Shows.put {env : Env} {cursor v : Var} {line : Line} {slot : Slot}
    (h : env.Shows cursor line) (hOther : cursor ≠ v) : (env.put v slot).Shows cursor line := by
  obtain ⟨c, hCursor, hLine⟩ := h
  exact ⟨c, by rw [lookup_put_of_ne env slot hOther, hCursor], hLine⟩

namespace Run

section Rows

variable {reader : Reader} {env : Env} {cursor indexVar : Var} {line : Line} {index : Nat}

/-- A value of the current row is read at an index that a variable holds. -/
theorem computes_value (hCursor : env.Shows cursor line)
    (hIndex : env.lookup indexVar = some (.index index)) :
    Computes (value cursor indexVar) env (liftM (line index)) := by
  obtain ⟨c, hLookup, hLine⟩ := hCursor
  refine (yields_index hIndex).simulates ?_
  refine (yields_cursor hLookup).simulates ?_
  rw [← hLine]
  exact computes_attempt _ env

/-- A column of the current row is read as a type, by the reader of the program. -/
theorem computes_read (hCursor : env.Shows cursor line)
    (hIndex : env.lookup indexVar = some (.index index)) (type : TypeExpr) :
    Computes (read reader cursor indexVar type) env
      (liftM (do reader.read type (← line index) : Except DataError Datum)) := by
  rw [liftM_bind]
  exact (computes_value hCursor hIndex).bind fun v => computes_attempt (reader.read type v) env

/-- The test reads columns up to one that is not NULL. -/
theorem computes_allNull (hCursor : env.Shows cursor line) {columns : List Var}
    {indices : List Nat}
    (h : List.Forall₂ (fun v index => env.lookup v = some (.index index)) columns indices) :
    Computes (allNull cursor columns) env (liftM (line.allNull indices)) := by
  induction h with
  | nil => exact Computes.pure true env
  | cons hHead _ ih =>
      rw [allNull, Line.allNull, liftM_bind]
      apply (computes_value hCursor hHead).bind
      intro v
      cases v.isNull with
      | true => exact ih
      | false => exact Computes.pure false env

end Rows

/-- Code that runs to its end as a session does, and leaves variables that meet a condition on the
result of the session. -/
def Runs (reader : Reader) (db : Connection) (code : List Stmt) (env : Env) (session : Session β)
    (post : β → Env → Prop) : Prop :=
  Simulates (stmts reader db code) env session fun b skip left => skip = false ∧ post b left

section Laws

variable {reader : Reader} {db : Connection} {rest : List Stmt} {env : Env}
  {session : Session β} {post : β → Env → Prop}

theorem stmts_nil : stmts reader db [] = pure false := rfl

/-- Behind a statement the code goes on, unless the statement ends the round of its loop. -/
theorem stmts_cons (s : Stmt) (rest : List Stmt) :
    stmts reader db (s :: rest) =
      stmt reader db s >>= fun skip => if skip then pure true else stmts reader db rest := rfl

/-- Code may be cut at any place. -/
theorem stmts_append (code rest : List Stmt) :
    stmts reader db (code ++ rest) =
      stmts reader db code >>= fun skip => if skip then pure true else stmts reader db rest := by
  induction code with
  | nil => simp [stmts_nil]
  | cons s code ih =>
      rw [List.cons_append, stmts_cons, stmts_cons, ih, bind_assoc]
      congr 1
      funext skip
      cases skip with
      | true => simp
      | false => simp

theorem Runs.nil {b : β} (h : post b env) : Runs reader db [] env (pure b) post := by
  rw [Runs, stmts_nil]
  exact Simulates.pure ⟨rfl, h⟩

/-- A condition on the end of code may be weakened. -/
theorem Runs.mono {weaker : β → Env → Prop} {code : List Stmt}
    (h : Runs reader db code env session post) (hPost : ∀ b left, post b left → weaker b left) :
    Runs reader db code env session weaker :=
  Simulates.mono h fun b _ left hLeft => ⟨hLeft.1, hPost b left hLeft.2⟩

/-- The last statement has the result of the whole code. -/
theorem Runs.last {code : List Stmt} (h : Runs reader db code env (session >>= pure) post) :
    Runs reader db code env session post := by
  rwa [bind_pure] at h

/-- Code that runs to its end simulates its session, whatever it tells at the end. -/
theorem Runs.simulates {code : List Stmt} (h : Runs reader db code env session post) :
    Simulates (stmts reader db code) env session fun b _ left => post b left :=
  Simulates.mono h fun _ _ _ hLeft => hLeft.2

/-- After code that runs to its end the others are taken. -/
theorem Runs.before {code : List Stmt} {next : β → Session γ} {last : γ → Bool → Env → Prop}
    (h : Runs reader db code env session post)
    (hRest : ∀ b left, post b left → Simulates (stmts reader db rest) left (next b) last) :
    Simulates (stmts reader db (code ++ rest)) env (session >>= next) last := by
  rw [stmts_append]
  apply Simulates.bind h
  intro b skip left hLeft
  obtain ⟨rfl, hPost⟩ := hLeft
  exact hRest b left hPost

/-- Code runs as one session and then another, if its parts do so. -/
theorem Runs.append {code : List Stmt} {next : β → Session γ} {last : γ → Env → Prop}
    (h : Runs reader db code env session post)
    (hRest : ∀ b left, post b left → Runs reader db rest left (next b) last) :
    Runs reader db (code ++ rest) env (session >>= next) last :=
  h.before hRest

/-- Code whose result is changed at the end. -/
theorem Runs.finish {code : List Stmt} {f : β → γ} {last : γ → Env → Prop}
    (h : Runs reader db code env session post) (hLast : ∀ b left, post b left → last (f b) left) :
    Runs reader db code env (session >>= fun b => pure (f b)) last := by
  have hEnd : Runs reader db (code ++ []) env (session >>= fun b => pure (f b)) last :=
    h.append fun b left hLeft => Runs.nil (hLast b left hLeft)
  rwa [List.append_nil] at hEnd

/-- One statement and then the others. -/
theorem Runs.cons {s : Stmt} {next : β → Session γ} {last : γ → Env → Prop}
    (h : Simulates (stmt reader db s) env session fun b skip left => skip = false ∧ post b left)
    (hRest : ∀ b left, post b left → Runs reader db rest left (next b) last) :
    Runs reader db (s :: rest) env (session >>= next) last := by
  rw [Runs, stmts_cons]
  apply Simulates.bind h
  intro b skip left hLeft
  obtain ⟨rfl, hPost⟩ := hLeft
  exact hRest b left hPost

/-- A statement that computes a value and then only changes variables. -/
theorem Runs.bind_step {s : Stmt} (step : Run α) (effect : α → Run Unit) {told : Session α}
    {next : α → Session β}
    (hStmt : ∀ calls, (stmt reader db s).after env calls =
      (step >>= fun a => effect a >>= fun _ => pure false).after env calls)
    (hStep : Computes step env told)
    (hRest : ∀ a, Simulates (effect a >>= fun _ => stmts reader db rest) env (next a)
      fun b skip left => skip = false ∧ post b left) :
    Runs reader db (s :: rest) env (told >>= next) post := by
  intro calls
  have hEnd := hStep.bind hRest calls
  rw [stmts_cons, after_bind, hStmt calls, ← after_bind]
  simpa only [bind_assoc, pure_bind, Bool.false_eq_true, ↓reduceIte] using hEnd

/-- A statement that binds a variable to what its step computes. -/
theorem Runs.bind_var {s : Stmt} (step : Run α) {told : Session α} {out : Var} {slot : α → Slot}
    {next : α → Session β}
    (hStmt : ∀ calls, (stmt reader db s).after env calls =
      (step >>= fun a => assign out (slot a) >>= fun _ => pure false).after env calls)
    (hStep : Computes step env told)
    (hRest : ∀ a, Runs reader db rest (env.put out (slot a)) (next a) post) :
    Runs reader db (s :: rest) env (told >>= next) post :=
  Runs.bind_step step _ hStmt hStep fun a => simulates_assign _ _ _ (hRest a)

/-- A statement that binds a variable to what it reads from others. -/
theorem Runs.set_var {s : Stmt} {reading : Run α} {a : α} {out : Var} (slot : α → Slot)
    (hStmt : stmt reader db s = reading >>= fun a => assign out (slot a) >>= fun _ => pure false)
    (hReading : Yields reading env a)
    (hRest : Runs reader db rest (env.put out (slot a)) session post) :
    Runs reader db (s :: rest) env session post := by
  intro calls
  rw [stmts_cons, hStmt, after_bind, after_bind, hReading calls]
  exact hRest calls

/-- A statement that binds a variable to a fixed value. -/
theorem Runs.set_const {s : Stmt} {out : Var} {slot : Slot}
    (hStmt : stmt reader db s = assign out slot >>= fun _ => pure false)
    (hRest : Runs reader db rest (env.put out slot) session post) :
    Runs reader db (s :: rest) env session post := by
  intro calls
  rw [stmts_cons, hStmt]
  exact hRest calls

section Lookups

variable {out source indexVar : Var} {c : Cursor} {line : Line} {index : Nat}

/-- A statement that looks up a column by its name. -/
theorem Runs.lookup_column {s : Stmt} {column : String} {next : Nat → Session β}
    (hStmt : ∀ calls, (stmt reader db s).after env calls = (cursor source >>= fun c =>
      attempt (c.columnIndex column) >>= fun i => assign out (.index i) >>= fun _ =>
        pure false).after env calls)
    (hCursor : env.lookup source = some (.cursor c))
    (hRest : ∀ i, Runs reader db rest (env.put out (.index i)) (next i) post) :
    Runs reader db (s :: rest) env (liftM (c.columnIndex column) >>= next) post := by
  refine Runs.bind_var (cursor source >>= fun c => attempt (c.columnIndex column))
    (fun calls => ?_) ((yields_cursor hCursor).computes (computes_attempt _ env)) hRest
  rw [bind_assoc]
  exact hStmt calls

/-- A lookup of a column leaves its index. -/
theorem Runs.columnIndex {column : String} {next : Nat → Session β}
    (hCursor : env.lookup source = some (.cursor c))
    (hRest : ∀ i, Runs reader db rest (env.put out (.index i)) (next i) post) :
    Runs reader db (.columnIndex out source column :: rest) env
      (liftM (c.columnIndex column) >>= next) post :=
  Runs.lookup_column (fun _ => rfl) hCursor hRest

/-- The column with the keys of parents is looked up by its fixed name. -/
theorem Runs.keyIndex {next : Nat → Session β} (hCursor : env.lookup source = some (.cursor c))
    (hRest : ∀ i, Runs reader db rest (env.put out (.index i)) (next i) post) :
    Runs reader db (.keyIndex out source :: rest) env
      (liftM (c.columnIndex RelationQuery.keyColumn) >>= next) post :=
  Runs.lookup_column (fun _ => rfl) hCursor hRest

/-- A column of the current row is read, or the code fails as the session does. -/
theorem Runs.read {type : TypeExpr} {next : Datum → Session β} (hCursor : env.Shows source line)
    (hIndex : env.lookup indexVar = some (.index index))
    (hRest : ∀ d, Runs reader db rest (env.put out (.datum d)) (next d) post) :
    Runs reader db (.read out source indexVar type :: rest) env
      (liftM (do reader.read type (← line index) : Except DataError Datum) >>= next) post :=
  Runs.bind_var _ (fun _ => rfl) (computes_read hCursor hIndex type) hRest

/-- The key of the current row is left behind, if its value can be a key. -/
theorem Runs.rowKey {next : Value → Session β} (hCursor : env.Shows source line)
    (hIndex : env.lookup indexVar = some (.index index))
    (hRest : ∀ v, Runs reader db rest (env.put out (.key v.toKey)) (next v) post) :
    Runs reader db (.rowKey out source indexVar :: rest) env (liftM (line index) >>= next)
      post :=
  Runs.bind_var _ (fun _ => rfl) (computes_value hCursor hIndex) hRest

/-- A struct is built from what its fields compute. -/
theorem Runs.build {path : List Token} {fields : List FieldRead} {relations : List GroupRead}
    {columns related : Except DataError (List (String × Datum))} {next : Datum → Session β}
    (hFields : Computes (fields.mapM fun f => do
      return (f.name, ← Run.read reader source f.index f.type)) env (liftM columns))
    (hRelations : Computes (relations.mapM (groupField source)) env (liftM related))
    (hRest : ∀ d, Runs reader db rest (env.put out (.datum d)) (next d) post) :
    Runs reader db (.build out source path fields relations :: rest) env
      (liftM (do return .record ((← columns) ++ (← related)) : Except DataError Datum) >>= next)
      post := by
  let step : Run Datum := do
    let columns ← fields.mapM fun f => return (f.name, ← Run.read reader source f.index f.type)
    let related ← relations.mapM (groupField source)
    return .record (columns ++ related)
  refine Runs.bind_var step (fun _ => ?_) ?_ hRest
  · simp only [step, bind_assoc, pure_bind]
    rfl
  · rw [liftM_bind]
    apply hFields.bind
    intro cs
    rw [liftM_bind]
    exact hRelations.bind fun rs => Computes.pure _ env

end Lookups

section Values

variable {out v keyVar : Var}

/-- Only a snapshot goes back before its first row. -/
theorem Runs.reset {c : Snapshot} (h : env.lookup v = some (.cursor (.snapshot c)))
    (hRest : Runs reader db rest (env.put v (.cursor (.snapshot c.reset))) session post) :
    Runs reader db (.reset v :: rest) env session post :=
  Runs.set_var (fun c => .cursor (.snapshot c.reset)) rfl (yields_snapshot h) hRest

/-- An item is added behind the others. -/
theorem Runs.pushItem {ds : List Datum} {d : Datum} (h : env.lookup out = some (.items ds))
    (hItem : env.lookup v = some (.datum d))
    (hRest : Runs reader db rest (env.put out (.items (ds ++ [d]))) session post) :
    Runs reader db (.pushItem out v :: rest) env session post := by
  have hReading : Yields (items out >>= fun ds => datum v >>= fun d => pure (ds ++ [d])) env
      (ds ++ [d]) :=
    (yields_items h).bind ((yields_datum hItem).bind (Yields.pure _ env))
  refine Runs.set_var .items ?_ hReading hRest
  simp only [bind_assoc, pure_bind]
  rfl

theorem Runs.stream {ds : List Datum} (h : env.lookup v = some (.items ds))
    (hRest : Runs reader db rest (env.put out (.datum (.list ds))) session post) :
    Runs reader db (.stream out v :: rest) env session post :=
  Runs.set_var (fun ds => .datum (.list ds)) rfl (yields_items h) hRest

/-- A statement that puts a value into the entry of its key. -/
theorem Runs.alter_entry {s : Stmt} {es : List (Datum × Datum)} {k d : Datum}
    (missing : Datum → Datum) (change : Datum → Datum → Datum)
    (hStmt : stmt reader db s = datum v >>= fun d =>
      alterEntry reader out keyVar (missing d) (change d) >>= fun _ => pure false)
    (h : env.lookup out = some (.entries es)) (hKey : env.lookup keyVar = some (.datum k))
    (hValue : env.lookup v = some (.datum d))
    (hRest : Runs reader db rest
      (env.put out (.entries (reader.alter k (missing d) (change d) es))) session post) :
    Runs reader db (s :: rest) env session post := by
  have hReading : Yields (datum v >>= fun d => datum keyVar >>= fun k => entries out >>= fun es =>
      pure (reader.alter k (missing d) (change d) es)) env
      (reader.alter k (missing d) (change d) es) :=
    (yields_datum hValue).bind ((yields_datum hKey).bind
      ((yields_entries h).bind (Yields.pure _ env)))
  refine Runs.set_var .entries ?_ hReading hRest
  rw [hStmt]
  simp only [alterEntry, bind_assoc, pure_bind]

/-- A count grows by one. -/
theorem Runs.increment {n : Nat} (h : env.lookup v = some (.count n))
    (hRest : Runs reader db rest (env.put v (.count (n + 1))) session post) :
    Runs reader db (.increment v :: rest) env session post :=
  Runs.set_var (fun n => .count (n + 1)) rfl (yields_count h) hRest

theorem Runs.rowCount {n : Nat} (h : env.lookup v = some (.count n))
    (hRest : Runs reader db rest (env.put out (.datum (.count n))) session post) :
    Runs reader db (.rowCount out v :: rest) env session post :=
  Runs.set_var (fun n => .datum (.count n)) rfl (yields_count h) hRest

/-- An item without a key is dropped. -/
theorem Runs.addToGroup {gs : List (Key × List Datum)} {k : Option Key} {d : Datum}
    (h : env.lookup out = some (.groups gs)) (hKey : env.lookup keyVar = some (.key k))
    (hItem : env.lookup v = some (.datum d))
    (hRest : Runs reader db rest
      (k.elim env fun k => env.put out (.groups (Sorted.alter k [] (· ++ [d]) gs))) session post) :
    Runs reader db (.addToGroup out keyVar v :: rest) env session post := by
  intro calls
  rw [stmts_cons, after_bind]
  cases k with
  | none =>
      have hStmt : (stmt reader db (.addToGroup out keyVar v)).after env calls =
          (.ok (false, env), calls) := by
        change (key keyVar >>= _).after env calls = _
        rw [after_bind, yields_key hKey calls]
        rfl
      rw [hStmt]
      exact hRest calls
  | some k =>
      have hStmt : (stmt reader db (.addToGroup out keyVar v)).after env calls =
          (.ok (false, env.put out (.groups (Sorted.alter k [] (· ++ [d]) gs))), calls) := by
        change (key keyVar >>= _).after env calls = _
        rw [after_bind, yields_key hKey calls]
        change (datum v >>= _).after env calls = _
        rw [after_bind, yields_datum hItem calls]
        change (groups out >>= _).after env calls = _
        rw [after_bind, yields_groups h calls]
        rfl
      rw [hStmt]
      exact hRest calls

/-- The key of the current row joins the others, if there is one. -/
theorem Runs.collectKey {source indexVar : Var} {ks : List Key} {line : Line} {index : Nat}
    {next : Value → Session β} (hKeys : env.lookup v = some (.keys ks))
    (hCursor : env.Shows source line) (hIndex : env.lookup indexVar = some (.index index))
    (hRest : ∀ value, Runs reader db rest
      (match value.toKey with
        | some k => env.put v (.keys (Sorted.insert k ks))
        | none => env) (next value) post) :
    Runs reader db (.collectKey v source indexVar :: rest) env (liftM (line index) >>= next)
      post := by
  refine Runs.bind_step (value source indexVar) (fun x =>
    match x.toKey with
    | some k => assign v (.keys (Sorted.insert k ks))
    | none => pure ()) (fun calls => ?_) (computes_value hCursor hIndex) fun x => ?_
  · change (slot v >>= _).after env calls = _
    rw [after_bind, yields_slot hKeys calls]
    change (value source indexVar >>= _).after env calls = _
    congr 2
    funext x
    cases x.toKey <;> rfl
  · have hLater := hRest x
    cases hKey : x.toKey with
    | none =>
        rw [hKey] at hLater
        exact hLater
    | some k =>
        rw [hKey] at hLater
        exact simulates_assign _ _ _ hLater

/-- The fetched rows start before the first one. -/
theorem Runs.fetch {keys : List Key} {query : RelationQuery} {next : Snapshot → Session β}
    (hKeys : env.lookup v = some (.keys keys))
    (hRest : ∀ rows, rows.position = none →
      Runs reader db rest (env.put out (.cursor (.snapshot rows))) (next rows) post) :
    Runs reader db (.fetch out v query :: rest) env (query.fetch db keys >>= next) post := by
  have hFetch : Simulates (stmt reader db (.fetch out v query)) env (query.fetch db keys)
      fun rows skip left => skip = false ∧
        (left = env.put out (.cursor (.snapshot rows)) ∧ rows.position = none) := by
    refine (yields_slot hKeys).simulates ?_
    refine ((simulates_send (query.fetch db keys) env).ensure (query.fetch_position db keys)).seq
      fun rows _ left hLeft => ?_
    obtain ⟨⟨rfl, rfl⟩, hPosition⟩ := hLeft
    exact simulates_assign _ _ _ (Simulates.pure ⟨rfl, rfl, hPosition⟩)
  apply Runs.cons hFetch
  intro rows left hLeft
  obtain ⟨rfl, hPosition⟩ := hLeft
  exact hRest rows hPosition

end Values

end Laws

end Run

end TypedQuery
