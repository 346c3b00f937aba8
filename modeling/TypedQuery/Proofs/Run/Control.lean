import TypedQuery.Proofs.Run.Statements

/-! Laws of the statements that hold others, and of those that open a cursor. A loop runs as a scan
of the lines that are left to its cursor, if one round of it keeps an invariant. -/

namespace TypedQuery

namespace Run

variable {β γ : Type} {reader : Reader} {db : Connection} {rest : List Stmt} {env : Env}

theorem simulates_moveNext {v : Var} {c moved : Cursor} {found : Bool} {next : Bool → Run γ}
    {session : Session β} {last : β → γ → Env → Prop} (hCursor : env.lookup v = some (.cursor c))
    (hMove : c.next = (found, moved))
    (hNext : Simulates (next found) (env.put v (.cursor moved)) session last) :
    Simulates (moveNext v >>= next) env session last := by
  intro calls
  have hEnd : (moveNext v).after env calls = (.ok (found, env.put v (.cursor moved)), calls) := by
    change (cursor v >>= _).after env calls = _
    rw [after_bind, yields_cursor hCursor calls]
    change (Except.ok (c.next.1, env.put v (.cursor c.next.2)), calls) = _
    rw [hMove]
  rw [after_bind, hEnd]
  exact hNext calls

/-- A step for each row is a scan of the lines. What the step keeps invariant may depend on every
variable but the cursor, which the step leaves where it is. -/
theorem simulates_eachRow {v : Var} {step : Run Bool} {told : β → Line → Except DataError β}
    {Inv : β → Env → Prop} (hStable : ∀ b left slot, Inv b left → Inv b (left.put v slot))
    (hStep : ∀ b left line, Inv b left → left.Shows v line →
      Simulates step left (liftM (told b line)) fun b _ after =>
        Inv b after ∧ after.lookup v = left.lookup v)
    {lines : List Line} {limit : Nat} {b : β} {c : Cursor} (hLines : c.lines = lines)
    (hLimit : lines.length < limit) (hCursor : env.lookup v = some (.cursor c)) (hInv : Inv b env) :
    Simulates (eachRow v step limit) env (liftM (lines.foldlM told b)) fun b _ left =>
      Inv b left ∧ ∃ position, left.lookup v = some (.cursor (c.seek position)) := by
  induction lines generalizing limit b c env with
  | nil =>
      obtain ⟨limit, rfl⟩ : ∃ fuel, limit = fuel + 1 := ⟨limit - 1, by omega⟩
      obtain ⟨position, hNext⟩ := Cursor.next_of_lines_nil hLines
      refine simulates_moveNext hCursor hNext (Simulates.pure ⟨hStable b env _ hInv, position, ?_⟩)
      rw [Env.lookup_put_self]
  | cons line others ih =>
      obtain ⟨limit, rfl⟩ : ∃ fuel, limit = fuel + 1 := ⟨limit - 1, by omega⟩
      obtain ⟨position, hNext, hLater, hLine⟩ := Cursor.next_of_lines_cons hLines
      rw [List.foldlM_cons, liftM_bind]
      refine simulates_moveNext hCursor hNext ?_
      have hMoved : (env.put v (.cursor (c.seek position))).lookup v =
          some (.cursor (c.seek position)) := Env.lookup_put_self _ _ _
      apply (hStep b _ line (hStable b env _ hInv) ⟨_, hMoved, hLine⟩).bind
      intro b' _ left hLeft
      obtain ⟨hInv', hKept⟩ := hLeft
      have hLength : others.length < limit := by
        rw [List.length_cons] at hLimit
        omega
      apply (ih hLater hLength (hKept.trans hMoved) hInv').mono
      intro b'' _ last hLast
      obtain ⟨hInv'', other, hEnd⟩ := hLast
      exact ⟨hInv'', other, by rw [hEnd, Cursor.seek_seek]⟩

theorem Runs.whileRows {v : Var} {body : List Stmt} {told : β → Line → Except DataError β}
    {Inv : β → Env → Prop} {b : β} {c : Cursor} {next : β → Session γ} {last : γ → Env → Prop}
    (hCursor : env.lookup v = some (.cursor c)) (hInit : Inv b env)
    (hStable : ∀ b left slot, Inv b left → Inv b (left.put v slot))
    (hStep : ∀ b left line, Inv b left → left.Shows v line →
      Simulates (stmts reader db body) left (liftM (told b line)) fun b _ after =>
        Inv b after ∧ after.lookup v = left.lookup v)
    (hRest : ∀ b left position, Inv b left → left.lookup v = some (.cursor (c.seek position)) →
      Runs reader db rest left (next b) last) :
    Runs reader db (.whileRows v body :: rest) env (liftM (c.lines.foldlM told b) >>= next)
      last := by
  have hLoop : Simulates (stmt reader db (.whileRows v body)) env (liftM (c.lines.foldlM told b))
      fun b skip left => skip = false ∧
        (Inv b left ∧ ∃ position, left.lookup v = some (.cursor (c.seek position))) := by
    change Simulates (cursor v >>= fun c => eachRow v (stmts reader db body) (c.remaining + 1) >>=
      fun _ => pure false) env _ _
    refine (yields_cursor hCursor).simulates ?_
    have hLimit : c.lines.length < c.remaining + 1 := by
      rw [Cursor.lines_length]
      omega
    apply (simulates_eachRow hStable hStep rfl hLimit hCursor hInit).seq
    intro b _ left hLeft
    exact Simulates.pure ⟨rfl, hLeft⟩
  apply Runs.cons hLoop
  intro b left hLeft
  obtain ⟨hInv, position, hMoved⟩ := hLeft
  exact hRest b left position hInv hMoved

theorem Runs.block {code : List Stmt} {session : Session β} {post : β → Env → Prop}
    {next : β → Session γ} {last : γ → Env → Prop} (h : Runs reader db code env session post)
    (hRest : ∀ b left, post b left → Runs reader db rest left (next b) last) :
    Runs reader db (.block code :: rest) env (session >>= next) last :=
  Runs.cons h hRest

theorem Runs.unlessEmpty {v : Var} {code : List Stmt} {session : Session β} {post : β → Env → Prop}
    {next : β → Session γ} {last : γ → Env → Prop} {c : Snapshot} {b : β}
    (hCursor : env.lookup v = some (.cursor (.snapshot c)))
    (hEmpty : post b env) (hCode : Runs reader db code env session post)
    (hRest : ∀ b left, post b left → Runs reader db rest left (next b) last) :
    Runs reader db (.unlessEmpty v code :: rest) env
      ((if c.rows.isEmpty then pure b else session) >>= next) last := by
  refine Runs.cons ?_ hRest
  change Simulates (snapshot v >>= fun c =>
    if c.rows.isEmpty then pure false else stmts reader db code) env _ _
  refine (yields_snapshot hCursor).simulates ?_
  cases c.rows.isEmpty with
  | true => exact Simulates.pure ⟨rfl, hEmpty⟩
  | false => exact hCode

/-- The first line is converted; without lines something stands for it, or the code fails. -/
theorem Runs.firstRow {v out item : Var} {body : List Stmt} {result : FirstRow} {c : Cursor}
    {told : Line → Except DataError Datum} {next : Datum → Session γ} {last : γ → Env → Prop}
    (hCursor : env.lookup v = some (.cursor c))
    (hBody : ∀ left line, (∀ w, w ≠ v → left.lookup w = env.lookup w) → left.Shows v line →
      Runs reader db body left (liftM (told line)) fun d after =>
        after.lookup item = some (.datum d))
    (hRest : ∀ d left, left.lookup out = some (.datum d) → Runs reader db rest left (next d) last) :
    Runs reader db (.firstRow out v item body result :: rest) env
      (liftM (Line.first result told c.lines) >>= next) last := by
  have hFirst : Simulates (stmt reader db (.firstRow out v item body result)) env
      (liftM (Line.first result told c.lines) : Session Datum)
      fun d skip left => skip = false ∧ left.lookup out = some (.datum d) := by
    change Simulates (moveNext v >>= fun found =>
      if found then stmts reader db body >>= fun _ => datum item >>= fun d =>
        assign out (.datum (Run.first result d)) >>= fun _ => pure false
      else attempt (missing result) >>= fun d => assign out (.datum d) >>= fun _ => pure false)
      env _ _
    cases hLines : c.lines with
    | nil =>
        obtain ⟨position, hNext⟩ := Cursor.next_of_lines_nil hLines
        refine simulates_moveNext hCursor hNext ?_
        apply (computes_attempt _ _).seq
        intro d _ left hLeft
        obtain ⟨rfl, rfl⟩ := hLeft
        exact simulates_assign _ _ _ (Simulates.pure ⟨rfl, Env.lookup_put_self _ _ _⟩)
    | cons line others =>
        obtain ⟨position, hNext, -, hLine⟩ := Cursor.next_of_lines_cons hLines
        refine simulates_moveNext hCursor hNext ?_
        have hShows : (env.put v (.cursor (c.seek position))).Shows v line :=
          ⟨_, Env.lookup_put_self _ _ _, hLine⟩
        have hSame (w : Var) (hw : w ≠ v) :
            (env.put v (.cursor (c.seek position))).lookup w = env.lookup w :=
          Env.lookup_put_of_ne env _ hw
        change Simulates (_ >>= _) _ (liftM (Run.first result <$> told line)) _
        rw [map_eq_pure_bind, liftM_bind]
        apply (hBody _ line hSame hShows).bind
        intro d _ left hLeft
        obtain ⟨-, hItem⟩ := hLeft
        refine (yields_datum hItem).simulates (simulates_assign _ _ _ ?_)
        exact Simulates.pure ⟨rfl, Env.lookup_put_self _ _ _⟩
  exact Runs.cons hFirst hRest

/-- The query is sent with the values that its arguments have. -/
theorem Runs.query {out : Var} {sql : StringLiteral} {args : List String} {values : List Value}
    {next : Source → Session γ} {last : γ → Env → Prop}
    (hArgs : Yields (args.mapM argument) env values)
    (hRest : ∀ answer, Runs reader db rest (env.put out (.cursor (.source answer))) (next answer)
      last) :
    Runs reader db (.query out sql args :: rest) env (db.query sql.value values >>= next) last := by
  refine Runs.bind_var (send (db.query sql.value values)) (fun calls => ?_) (simulates_send _ env)
    hRest
  change (args.mapM argument >>= _).after env calls = _
  rw [after_bind, hArgs calls]

/-- A cursor is drained into a copy. -/
theorem Runs.copy {out v : Var} {isMutable : Bool} {c : Cursor} {next : Snapshot → Session γ}
    {last : γ → Env → Prop} (hCursor : env.lookup v = some (.cursor c))
    (hRest : ∀ copied, c.copy.1 = .ok copied → Runs reader db rest
      ((env.put v (.cursor c.copy.2)).put out (.cursor (.snapshot copied))) (next copied) last) :
    Runs reader db (.copy out v isMutable :: rest) env (liftM c.copy.1 >>= next) last := by
  have hCopy : Simulates (stmt reader db (.copy out v isMutable)) env (liftM c.copy.1)
      fun copied skip left => skip = false ∧ (c.copy.1 = .ok copied ∧
        left = (env.put v (.cursor c.copy.2)).put out (.cursor (.snapshot copied))) := by
    change Simulates (cursor v >>= fun c => assign v (.cursor c.copy.2) >>= fun _ =>
      attempt c.copy.1 >>= fun copied => assign out (.cursor (.snapshot copied)) >>= fun _ =>
        pure false) env _ _
    refine (yields_cursor hCursor).simulates (simulates_assign _ _ _ ?_)
    apply ((computes_attempt _ _).ensure Session.ensures_liftM).seq
    intro copied _ left hLeft
    obtain ⟨⟨rfl, rfl⟩, hCopied⟩ := hLeft
    exact simulates_assign _ _ _ (Simulates.pure ⟨rfl, hCopied, rfl⟩)
  apply Runs.cons hCopy
  intro copied left hLeft
  obtain ⟨hCopied, rfl⟩ := hLeft
  exact hRest copied hCopied

end Run

end TypedQuery
