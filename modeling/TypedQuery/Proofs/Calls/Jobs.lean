import TypedQuery.Proofs.Meaning.Rows
import TypedQuery.Proofs.Relation.Answers

/-! The jobs of a query function after its own query was answered. They are known from the answer:
the rows are copied if that is needed, columns are looked up, and each relation field fetches the
rows of its keys piece by piece and groups them. Jobs are performed in order up to the first that
fails. -/

namespace TypedQuery

/-- The query for the rows that are related to some keys. -/
def RelationQuery.call (q : RelationQuery) (db : Connection) (keys : List Key) : Call :=
  ⟨q.sql db keys.length, keys.map Key.toValue⟩

namespace RelationField

/-- The distinct keys of a relation field over all lines, ascending. Values that are no keys, NULL
and reals, do not count. -/
def parentKeys (r : RelationField) (c : Cursor) : List Key :=
  match c.columnIndex r.parentColumn with
  | .ok index => Sorted.ofList (c.lines.filterMap (·.key? index))
  | .error _ => []

/-- The calls of a relation field, one for each piece of its keys. -/
def calls (r : RelationField) (db : Connection) (c : Cursor) : List Call :=
  (chunks maxBindParameters (r.parentKeys c)).map (r.query.call db)

end RelationField

namespace EntityRow

/-- The groups of the rows that were fetched for a struct without relation fields. -/
def groups (reader : Reader) (entity : EntityRow) (rows : Snapshot) :
    Except DataError (List (Key × List Datum)) :=
  if rows.rows.isEmpty then .ok []
  else do
    let index ← (Cursor.snapshot rows).columnIndex RelationQuery.keyColumn
    let columns ← entity.fields.mapM fun f => (Cursor.snapshot rows).columnIndex f.column
    Line.groups index (entity.record reader ⟨columns, []⟩) (Cursor.snapshot rows).lines

end EntityRow

inductive Job where
  /-- Copy the rows, where relation fields need it. -/
  | copy
  | lookup (column : String)
  /-- Fetch the rows that are related to a piece of the keys. -/
  | fetch (query : RelationQuery) (keys : List Key)
  /-- Group all rows that were fetched for a relation field. -/
  | group (entity : EntityRow)

namespace Job

def call? (db : Connection) : Job → Option Call
  | fetch query keys => some (query.call db keys)
  | copy | lookup _ | group _ => none

/-- The calls of some jobs. -/
def calls (db : Connection) (jobs : List Job) : List Call := jobs.filterMap (call? db)

section Performing

variable (reader : Reader) (db : Connection) (shape : Shape) (answer : Source)

/-- Perform a job after some calls, with the rows that were fetched so far for a relation field. A
failure to fetch, be it of the call or of reading what it gives, names the related table. -/
def perform (sent : List Call) (held : Option Snapshot) : Job → Except DataError (Option Snapshot)
  | copy => (fun _ => held) <$> shape.opened answer
  | lookup column => (fun _ => held) <$> (Cursor.source answer).columnIndex column
  | fetch query keys =>
    Except.mapError (.relation query.table) do
      let rows ← (← db.answer sent (query.call db keys)).copy.1
      return some (← RelationQuery.joinAnswer held rows)
  | group entity => (fun _ => none) <$> entity.groups reader (held.getD (Rows.ofRows [] []))

/-- Perform jobs one after the other: the rows that are held in the end and the calls that were
made. After a job that fails nothing is done. -/
def performAll (sent : List Call) (held : Option Snapshot) :
    List Job → Except DataError (Option Snapshot) × List Call
  | [] => (.ok held, [])
  | job :: rest =>
    match job.perform reader db shape answer sent held with
    | .error e => (.error e, (job.call? db).toList)
    | .ok left =>
      let (outcome, made) := performAll (sent ++ (job.call? db).toList) left rest
      (outcome, (job.call? db).toList ++ made)

end Performing

variable {reader : Reader} {db : Connection} {shape : Shape} {answer : Source} {sent : List Call}
  {held left : Option Snapshot} {jobs rest : List Job}

theorem calls_cons (job : Job) :
    calls db (job :: rest) = (job.call? db).toList ++ calls db rest := by
  rw [calls, List.filterMap_cons]
  cases job.call? db <;> rfl

/-- Only the calls of the jobs are made, in their order. -/
theorem performAll_isPrefix (sent : List Call) (held : Option Snapshot) (jobs : List Job) :
    (performAll reader db shape answer sent held jobs).2 <+: calls db jobs := by
  induction jobs generalizing sent held with
  | nil => exact List.nil_prefix
  | cons job rest ih =>
      rw [calls_cons, performAll]
      cases job.perform reader db shape answer sent held with
      | error e => exact List.prefix_append _ _
      | ok left => exact (List.prefix_append_right_inj _).mpr (ih _ left)

/-- If no job fails then all calls are made. -/
theorem calls_of_performAll
    (h : (performAll reader db shape answer sent held jobs).1 = .ok left) :
    (performAll reader db shape answer sent held jobs).2 = calls db jobs := by
  induction jobs generalizing sent held with
  | nil => rfl
  | cons job rest ih =>
      rw [performAll] at h ⊢
      rw [calls_cons]
      cases hTask : job.perform reader db shape answer sent held with
      | error e =>
          rw [hTask] at h
          cases h
      | ok next =>
          rw [hTask] at h
          exact congrArg _ (ih h)

theorem performAll_append (sent : List Call) (held : Option Snapshot) (jobs rest : List Job) :
    performAll reader db shape answer sent held (jobs ++ rest) =
      match performAll reader db shape answer sent held jobs with
      | (.error e, made) => (.error e, made)
      | (.ok left, made) =>
        ((performAll reader db shape answer (sent ++ made) left rest).1,
          made ++ (performAll reader db shape answer (sent ++ made) left rest).2) := by
  induction jobs generalizing sent held with
  | nil => simp [performAll]
  | cons job others ih =>
      rw [List.cons_append, performAll, performAll]
      cases job.perform reader db shape answer sent held with
      | error e => rfl
      | ok next =>
          simp only [ih]
          rcases performAll reader db shape answer (sent ++ (job.call? db).toList) next others with
            ⟨e | last, made⟩
          · rfl
          · simp only [List.append_assoc]

end Job

namespace Session

variable {β γ : Type}

/-- The session makes the calls that were made, and has the result or the error of the jobs. -/
inductive Agrees (sent : List Call) (post : β → Option Snapshot → Prop) :
    Except DataError β × List Call → Except DataError (Option Snapshot) × List Call → Prop where
  | done {b : β} {left : Option Snapshot} (made : List Call) (h : post b left) :
      Agrees sent post (.ok b, sent ++ made) (.ok left, made)
  | failed (e : DataError) (made : List Call) :
      Agrees sent post (.error e, sent ++ made) (.error e, made)

section Executes

variable (reader : Reader) (db : Connection) (shape : Shape) (answer : Source)

/-- After any calls the session performs the jobs. Its result is related to the rows that are held
in the end. -/
def Executes (session : Session β) (held : Option Snapshot) (jobs : List Job)
    (post : β → Option Snapshot → Prop) : Prop :=
  ∀ sent, Agrees sent post (session.after sent)
    (Job.performAll reader db shape answer sent held jobs)

end Executes

variable {reader : Reader} {db : Connection} {shape : Shape} {answer : Source}
  {held : Option Snapshot} {jobs rest : List Job} {post : β → Option Snapshot → Prop}

theorem Executes.pure {b : β} (h : post b held) :
    (pure b : Session β).Executes reader db shape answer held [] post := by
  intro sent
  have hDone : Agrees sent post _ _ := .done [] h
  rwa [List.append_nil] at hDone

theorem Executes.bind {session : Session β} {next : β → Session γ}
    {last : γ → Option Snapshot → Prop}
    (h : session.Executes reader db shape answer held jobs post)
    (hNext : ∀ b left, post b left → (next b).Executes reader db shape answer left rest last) :
    (session >>= next).Executes reader db shape answer held (jobs ++ rest) last := by
  intro sent
  rw [after_bind, Job.performAll_append]
  have hFirst := h sent
  generalize session.after sent = ended at hFirst
  generalize Job.performAll reader db shape answer sent held jobs = performed at hFirst
  cases hFirst with
  | failed e made => exact .failed e made
  | @done b left made hPost =>
      have hRest := hNext b left hPost (sent ++ made)
      dsimp only
      generalize (next b).after (sent ++ made) = ended at hRest
      generalize Job.performAll reader db shape answer (sent ++ made) left rest = performed at hRest
      cases hRest with
      | failed e more =>
          rw [List.append_assoc]
          exact .failed e (made ++ more)
      | done more hLast =>
          rw [List.append_assoc]
          exact .done (made ++ more) hLast

/-- A single job whose outcome is that of the session. -/
theorem executes_job {session : Session β} {job : Job} {f : β → Option Snapshot}
    (h : ∀ sent, ∃ step : Except DataError β,
      session.after sent = (step, sent ++ (job.call? db).toList) ∧
        job.perform reader db shape answer sent held = f <$> step ∧
        ∀ b, step = .ok b → post b (f b)) :
    session.Executes reader db shape answer held [job] post := by
  intro sent
  obtain ⟨step, hSession, hTask, hPost⟩ := h sent
  rw [hSession, Job.performAll, hTask]
  cases step with
  | error e => exact .failed e _
  | ok b =>
      have hDone : Agrees sent post _ _ := .done (job.call? db).toList (hPost b rfl)
      simpa [Job.performAll, Functor.map, Except.map] using hDone

end Session

end TypedQuery
