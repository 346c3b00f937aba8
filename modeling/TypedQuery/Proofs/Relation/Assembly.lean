import Mathlib.Data.List.Induction
import TypedQuery.Proofs.Calls.Planned

/-! How a fetch is assembled from the answers to its calls. The pieces of the keys are asked for in
order up to the first failure, and without a failure all rows stand under the columns of the first
answer that has any. -/

namespace TypedQuery

namespace Source

/-- The values of the rows that are left, row by row up to the first that cannot be read. -/
def readRows (c : Source) : Except DataError (List (List Value)) :=
  c.left.mapM fun row => (List.range c.columns.length).mapM (c.line row)

/-- A copy reads what is left, behind what was read before. -/
theorem copyRest_eq {count : Nat} {read : List (List Value)} {c : Source}
    (hCount : c.remaining = count) : (copyRest count read c).1 =
      (fun rows => Rows.ofRows c.columns (read ++ rows)) <$> c.readRows := by
  induction count generalizing read c with
  | zero =>
      rw [← Rows.left_length, List.length_eq_zero_iff] at hCount
      rw [readRows, hCount, copyRest, List.mapM_nil, map_pure, List.append_nil]
      rfl
  | succ count ih =>
      rw [← Rows.left_length] at hCount
      obtain ⟨row, rest, hLeft⟩ := List.exists_cons_of_length_eq_add_one hCount
      obtain ⟨hNext, hLater, hCell⟩ := Rows.next_of_left_cons hLeft
      have hValues : Source.values (c.seek (some c.upcoming)) =
          (List.range c.columns.length).mapM (c.line row) := by
        refine congrArg (List.mapM · _) (funext fun index => ?_)
        rw [Source.value, hCell]
        rfl
      have hRemaining : (c.seek (some c.upcoming)).remaining = count := by
        rw [← Rows.left_length, hLater]
        rw [hLeft, List.length_cons] at hCount
        omega
      have hLaterRows : Source.readRows (c.seek (some c.upcoming)) =
          rest.mapM fun row => (List.range c.columns.length).mapM (c.line row) := by
        rw [readRows, hLater]
        rfl
      rw [copyRest, hNext, hValues, readRows, hLeft, List.mapM_cons]
      cases (List.range c.columns.length).mapM (c.line row) with
      | error e => rfl
      | ok values =>
          dsimp only
          rw [ih hRemaining, hLaterRows]
          cases rest.mapM fun row => (List.range c.columns.length).mapM (c.line row) with
          | error e => rfl
          | ok others =>
              exact congrArg Except.ok (congrArg _ (List.append_assoc read [values] others))

/-- A copy is what was read, before its first row. -/
theorem copy_eq (c : Source) : c.copy.1 = Rows.ofRows c.columns <$> c.readRows := by
  rw [copy, copyRest_eq rfl]
  simp only [List.nil_append]

/-- A row that was read is as wide as the columns. -/
theorem readRows_width {c : Source} {rows : List (List Value)} (h : c.readRows = .ok rows) :
    ∀ row ∈ rows, row.length = c.columns.length := by
  intro row hRow
  obtain ⟨cells, -, hRead⟩ := exists_of_forall₂_right (mapM_eq_ok_iff.mp h) hRow
  have hLength := (mapM_eq_ok_iff.mp hRead).length_eq
  rw [List.length_range] at hLength
  exact hLength.symm

end Source

namespace Snapshot

/-- Rows of one width are all added, or not even the first one. -/
theorem pushAll_run {rows : List (List Value)} {width : Nat}
    (hWidth : ∀ row ∈ rows, row.length = width) (c : Snapshot) :
    (pushAll rows).run.run c =
      if rows = [] ∨ width = c.columns.length then (.ok (), { c with rows := c.rows ++ rows })
      else (.error (.rowWidth c.columns.length width), c) := by
  induction rows generalizing c with
  | nil =>
      rw [if_pos (Or.inl rfl), List.append_nil]
      rfl
  | cons row rows ih =>
      obtain ⟨hRow, hRows⟩ := List.forall_mem_cons.mp hWidth
      change (ExceptT.bindCont (fun _ => pushAll rows) ((push row).run.run c).1).run
        ((push row).run.run c).2 = _
      rw [push_run, hRow]
      by_cases hSame : width = c.columns.length
      · rw [if_pos hSame, if_pos (Or.inr hSame)]
        change (pushAll rows).run.run { c with rows := c.rows ++ [row] } = _
        rw [ih hRows, if_pos (Or.inr hSame), List.append_assoc, List.singleton_append]
      · rw [if_neg hSame, if_neg (by simp [hSame])]
        rfl

/-- The answers that have rows. -/
def withRows (read : List Snapshot) : List Snapshot := read.filter (!·.rows.isEmpty)

/-- All answers with rows have the same number of columns. -/
def SameWidth (read : List Snapshot) : Prop :=
  ∀ a ∈ withRows read, ∀ b ∈ withRows read, a.columns.length = b.columns.length

/-- The rows of some answers, one answer after the other, under the columns of the first answer
that has rows, or of the first answer if none has any. -/
def assembled (read : List Snapshot) : Snapshot :=
  Rows.ofRows (((withRows read).head?.or read.head?).elim [] (·.columns)) (read.flatMap (·.rows))

variable {read : List Snapshot} {a first : Snapshot}

/-- An answer without rows is left out. -/
theorem withRows_append_of_empty (h : a.rows = []) : withRows (read ++ [a]) = withRows read := by
  simp [withRows, h]

theorem withRows_append_of_rows (h : a.rows ≠ []) :
    withRows (read ++ [a]) = withRows read ++ [a] := by
  simp [withRows, h]

/-- There are no rows at all exactly if no answer has any. -/
theorem assembled_rows_eq_nil_iff : (assembled read).rows = [] ↔ withRows read = [] := by
  simp [assembled, Rows.ofRows, withRows, List.filter_eq_nil_iff]

/-- The columns are those of the first answer with rows. -/
theorem assembled_columns (h : (withRows read).head? = some first) :
    (assembled read).columns = first.columns := by
  rw [assembled, h]
  rfl

/-- An empty answer adds nothing to earlier ones. -/
theorem assembled_append_of_empty (hRead : read ≠ []) (h : a.rows = []) :
    assembled (read ++ [a]) = assembled read := by
  rw [assembled, withRows_append_of_empty h, List.head?_append_of_ne_nil _ hRead,
    List.flatMap_append, List.flatMap_singleton, h, List.append_nil, assembled]

theorem sameWidth_nil : SameWidth [] := nofun

theorem SameWidth.of_append (h : SameWidth (read ++ [a])) : SameWidth read := by
  have hMem {x : Snapshot} (hx : x ∈ withRows read) : x ∈ withRows (read ++ [a]) := by
    rw [withRows, List.filter_append]
    exact List.mem_append_left _ hx
  exact fun x hx y hy => h x (hMem hx) y (hMem hy)

/-- An answer without rows may be of any width. -/
theorem SameWidth.append_of_empty (hSame : SameWidth read) (h : a.rows = []) :
    SameWidth (read ++ [a]) := by
  rw [SameWidth, withRows_append_of_empty h]
  exact hSame

/-- An answer with rows is compared with the first one that has rows. -/
theorem sameWidth_append_of_rows (h : a.rows ≠ []) :
    SameWidth (read ++ [a]) ↔ SameWidth read ∧
      ∀ first, (withRows read).head? = some first →
        a.columns.length = first.columns.length := by
  rw [SameWidth, withRows_append_of_rows h]
  constructor
  · intro hSame
    refine ⟨fun x hx y hy => hSame x (List.mem_append_left _ hx) y (List.mem_append_left _ hy),
      fun first hFirst => ?_⟩
    exact hSame a (by simp) first (List.mem_append_left _ (List.mem_of_head? hFirst))
  · rintro ⟨hSame, hFirst⟩
    cases hRows : withRows read with
    | nil => simp
    | cons first others =>
        have hNew : a.columns.length = first.columns.length :=
          hFirst first (by rw [hRows, List.head?_cons])
        have hAll : ∀ x ∈ withRows read ++ [a], x.columns.length = first.columns.length := by
          intro x hx
          rcases List.mem_append.mp hx with hx | hx
          · exact hSame x hx first (by rw [hRows]; exact List.mem_cons_self)
          · rw [List.mem_singleton.mp hx, hNew]
        rw [← hRows]
        exact fun x hx y hy => (hAll x hx).trans (hAll y hy).symm

end Snapshot

namespace RelationQuery

open Snapshot

/-- What is held after some answers. -/
def held (read : List Snapshot) : Option Snapshot :=
  if read.isEmpty then none else some (assembled read)

theorem held_append (read : List Snapshot) (a : Snapshot) :
    held (read ++ [a]) = some (assembled (read ++ [a])) := by
  rw [held, if_neg (by simp)]

/-- Joining an answer without rows changes nothing. -/
theorem joinAnswer_of_empty (earlier : Snapshot) {a : Snapshot} (h : a.rows = []) :
    joinAnswer (some earlier) a = .ok earlier := by
  rw [joinAnswer, if_pos (List.isEmpty_iff.mpr h)]

/-- Rows are added to earlier rows of the same width only. -/
theorem joinAnswer_of_rows {earlier : Snapshot} {columns : List String} {rows : List (List Value)}
    (hEarlier : earlier.rows ≠ []) (hRows : rows ≠ [])
    (hWidth : ∀ row ∈ rows, row.length = columns.length) :
    joinAnswer (some earlier) (Rows.ofRows columns rows) =
      if columns.length = earlier.columns.length then
        .ok { earlier with rows := earlier.rows ++ rows }
      else .error (.rowWidth earlier.columns.length columns.length) := by
  have hNew : ¬(Rows.ofRows columns rows).rows.isEmpty := mt List.isEmpty_iff.mp hRows
  have hRun : (Snapshot.append (Rows.ofRows columns rows)).run earlier = _ :=
    pushAll_run hWidth earlier
  rw [joinAnswer, if_neg hNew, if_neg (mt List.isEmpty_iff.mp hEarlier), hRun]
  by_cases hSame : columns.length = earlier.columns.length
  · rw [if_pos (Or.inr hSame), if_pos hSame]
  · rw [if_neg (by simp [hRows, hSame]), if_neg hSame]

section Held

variable {read : List Snapshot} {columns : List String} {rows : List (List Value)}

/-- An answer whose rows fit goes behind the others. -/
theorem joinAnswer_held (hSame : SameWidth (read ++ [Rows.ofRows columns rows]))
    (hWidth : ∀ row ∈ rows, row.length = columns.length) :
    joinAnswer (held read) (Rows.ofRows columns rows) =
      .ok (assembled (read ++ [Rows.ofRows columns rows])) := by
  by_cases hRead : read = []
  · rw [hRead, List.nil_append, held, if_pos List.isEmpty_nil, joinAnswer, assembled,
      List.flatMap_singleton]
    cases rows <;> rfl
  rw [held, if_neg (mt List.isEmpty_iff.mp hRead)]
  by_cases hRows : rows = []
  · rw [joinAnswer_of_empty _ hRows, assembled_append_of_empty hRead hRows]
  have hNew : withRows (read ++ [Rows.ofRows columns rows]) =
      withRows read ++ [Rows.ofRows columns rows] := withRows_append_of_rows hRows
  cases hFirst : withRows read with
  | nil =>
      have hNone : (assembled read).rows = [] := assembled_rows_eq_nil_iff.mpr hFirst
      have hFlat : read.flatMap (·.rows) = [] := hNone
      have hSome : ¬(Rows.ofRows columns rows).rows.isEmpty := mt List.isEmpty_iff.mp hRows
      rw [joinAnswer, if_neg hSome, if_pos (List.isEmpty_iff.mpr hNone), assembled, hNew, hFirst,
        List.flatMap_append, hFlat, List.nil_append, List.flatMap_singleton]
      rfl
  | cons first others =>
      have hHead : (withRows read).head? = some first := by rw [hFirst, List.head?_cons]
      have hSome : (assembled read).rows ≠ [] := by
        rw [ne_eq, assembled_rows_eq_nil_iff, hFirst]
        exact List.cons_ne_nil _ _
      have hFits : columns.length = first.columns.length :=
        ((sameWidth_append_of_rows hRows).mp hSame).2 first hHead
      rw [joinAnswer_of_rows hSome hRows hWidth, assembled_columns hHead, if_pos hFits, assembled,
        assembled, hNew, hFirst, List.flatMap_append, List.flatMap_singleton]
      rfl

/-- Rows that are not as wide as the first ones stop the fetch. -/
theorem joinAnswer_held_error {first : Snapshot} (hFirst : (withRows read).head? = some first)
    (hRows : rows ≠ []) (hOther : columns.length ≠ first.columns.length)
    (hWidth : ∀ row ∈ rows, row.length = columns.length) :
    joinAnswer (held read) (Rows.ofRows columns rows) =
      .error (.rowWidth first.columns.length columns.length) := by
  have hRead : read ≠ [] := by
    rintro rfl
    cases hFirst
  have hSome : (assembled read).rows ≠ [] := by
    rw [ne_eq, assembled_rows_eq_nil_iff]
    intro hNone
    rw [hNone] at hFirst
    cases hFirst
  rw [held, if_neg (mt List.isEmpty_iff.mp hRead), joinAnswer_of_rows hSome hRows hWidth,
    assembled_columns hFirst, if_neg hOther]

end Held

/-- The answers to some pieces of the keys, where every call succeeds and every value can be
read. Each is given knowing all earlier calls. -/
inductive Reads (q : RelationQuery) (db : Connection) (sent : List Call) :
    List (List Key) → List Snapshot → Prop
  | nil : Reads q db sent [] []
  | append {pieces : List (List Key)} {read : List Snapshot} {piece : List Key} {answer : Source}
      {rows : List (List Value)} (hEarlier : Reads q db sent pieces read)
      (hAnswer : db.answer (sent ++ pieces.map (q.call db)) (q.call db piece) = .ok answer)
      (hRows : answer.readRows = .ok rows) :
      Reads q db sent (pieces ++ [piece]) (read ++ [Rows.ofRows answer.columns rows])

/-- Why a call fails after some answers: it gets no answer, a value of the answer cannot be read,
or the answer has rows, but of another width than the first answer with rows. -/
inductive Fails (db : Connection) (sent : List Call) (call : Call) (read : List Snapshot) :
    DataError → Prop
  | call {e : DataError} (hAnswer : db.answer sent call = .error e) : Fails db sent call read e
  | value {answer : Source} {e : DataError} (hAnswer : db.answer sent call = .ok answer)
      (hRows : answer.readRows = .error e) : Fails db sent call read e
  | width {answer : Source} {rows : List (List Value)} {first : Snapshot}
      (hAnswer : db.answer sent call = .ok answer) (hRows : answer.readRows = .ok rows)
      (hSome : rows ≠ []) (hFirst : (withRows read).head? = some first)
      (hOther : answer.columns.length ≠ first.columns.length) :
      Fails db sent call read (.rowWidth first.columns.length answer.columns.length)

/-- The end of a fetch and the calls until then. Either all pieces are answered and their rows
assembled, or the first failure is reported and nothing is called afterwards. -/
inductive Fetched (q : RelationQuery) (db : Connection) (sent : List Call)
    (pieces : List (List Key)) : Except DataError Snapshot × List Call → Prop
  | complete {read : List Snapshot} (hRead : Reads q db sent pieces read)
      (hSame : SameWidth read) :
      Fetched q db sent pieces (.ok (assembled read), sent ++ pieces.map (q.call db))
  | failed {done rest : List (List Key)} {piece : List Key} {read : List Snapshot} {e : DataError}
      (hPieces : pieces = done ++ piece :: rest) (hRead : Reads q db sent done read)
      (hSame : SameWidth read)
      (hFails : Fails db (sent ++ done.map (q.call db)) (q.call db piece) read e) :
      Fetched q db sent pieces
        (.error (.relation q.table e), sent ++ (done ++ [piece]).map (q.call db))

section Fetching

variable {q : RelationQuery} {db : Connection} {sent : List Call} {pieces : List (List Key)}

/-- One more piece is answered and its rows fit, or something is wrong with it. -/
theorem fits_or_fails {read : List Snapshot} (hSame : SameWidth read) (call : Call) :
    (∃ answer rows, db.answer sent call = .ok answer ∧ answer.readRows = .ok rows ∧
      SameWidth (read ++ [Rows.ofRows answer.columns rows])) ∨ ∃ e, Fails db sent call read e := by
  cases hAnswer : db.answer sent call with
  | error e => exact Or.inr ⟨e, .call hAnswer⟩
  | ok answer =>
      cases hRows : answer.readRows with
      | error e => exact Or.inr ⟨e, .value hAnswer hRows⟩
      | ok rows =>
          by_cases hNone : rows = []
          · exact Or.inl ⟨answer, rows, rfl, hRows, hSame.append_of_empty hNone⟩
          by_cases hFits : ∀ first, (withRows read).head? = some first →
              answer.columns.length = first.columns.length
          · exact Or.inl ⟨answer, rows, rfl, hRows,
              (sameWidth_append_of_rows hNone).mpr ⟨hSame, hFits⟩⟩
          · push Not at hFits
            obtain ⟨first, hFirst, hOther⟩ := hFits
            exact Or.inr ⟨_, .width hAnswer hRows hNone hFirst hOther⟩

/-- Every fetch ends, one way or the other. -/
theorem exists_fetched (q : RelationQuery) (db : Connection) (sent : List Call)
    (pieces : List (List Key)) : ∃ outcome, Fetched q db sent pieces outcome := by
  induction pieces using List.reverseRecOn with
  | nil => exact ⟨_, .complete .nil sameWidth_nil⟩
  | append_singleton pieces piece ih =>
      obtain ⟨_, hEnd⟩ := ih
      cases hEnd with
      | complete hRead hSame =>
          rcases fits_or_fails hSame (q.call db piece) with
            ⟨answer, rows, hAnswer, hRows, hFits⟩ | ⟨e, hFails⟩
          · exact ⟨_, .complete (.append hRead hAnswer hRows) hFits⟩
          · exact ⟨_, .failed rfl hRead hSame hFails⟩
      | @failed done rest failing read e hPieces hRead hSame hFails =>
          have hLater : pieces ++ [piece] = done ++ failing :: (rest ++ [piece]) := by
            rw [hPieces, List.append_assoc, List.cons_append]
          exact ⟨_, .failed hLater hRead hSame hFails⟩

/-- What is done with one piece of the keys. -/
def fetchStep (q : RelationQuery) (db : Connection) (earlier : Option Snapshot)
    (piece : List Key) : Session (Option Snapshot) :=
  q.located do return some (← joinAnswer earlier (← q.fetchChunk db (piece.map Key.toValue)))

/-- One piece of keys is one call, and its answer is copied and joined. -/
theorem fetchStep_after (earlier : Option Snapshot) (piece : List Key) (sent : List Call) :
    (q.fetchStep db earlier piece).after sent =
      (((do joinAnswer earlier (← (← db.answer sent (q.call db piece)).copy.1)).mapError
        (DataError.relation q.table)).map some, sent ++ [q.call db piece]) := by
  rw [fetchStep, located_after, Session.after_bind, fetchChunk_after]
  cases db.answer sent (q.call db piece) with
  | error e => rfl
  | ok answer =>
      change _ = (((answer.copy.1 >>= joinAnswer earlier).mapError _).map some, _)
      dsimp only [bind, Except.bind]
      cases answer.copy.1 with
      | error e => rfl
      | ok rows =>
          dsimp only
          cases joinAnswer earlier rows <;> rfl

/-- While all goes well the fold holds what has been assembled. -/
theorem foldlM_of_reads {read : List Snapshot} (hRead : Reads q db sent pieces read)
    (hSame : SameWidth read) :
    (pieces.foldlM (q.fetchStep db) none).after sent =
      (.ok (held read), sent ++ pieces.map (q.call db)) := by
  induction hRead with
  | nil =>
      rw [List.foldlM_nil, Session.after_pure, List.map_nil, List.append_nil]
      rfl
  | @append pieces read piece answer rows _ hAnswer hRows ih =>
      have hStep : (q.fetchStep db (held read) piece).after (sent ++ pieces.map (q.call db)) =
          (.ok (held (read ++ [Rows.ofRows answer.columns rows])),
            sent ++ pieces.map (q.call db) ++ [q.call db piece]) := by
        rw [fetchStep_after, hAnswer, held_append]
        change ((Except.mapError _ (answer.copy.1 >>= joinAnswer (held read))).map some, _) = _
        rw [Source.copy_eq, hRows]
        change ((Except.mapError _ (joinAnswer _ _)).map some, _) = _
        rw [joinAnswer_held hSame (Source.readRows_width hRows)]
        rfl
      rw [List.foldlM_append, Session.after_bind, ih hSame.of_append]
      dsimp only
      rw [List.foldlM_cons, Session.after_bind, hStep, List.map_append, List.map_singleton,
        List.append_assoc]
      rfl

/-- A failing piece is reported and its call is the last one. -/
theorem fetchStep_of_fails {read : List Snapshot} {piece : List Key} {e : DataError}
    (hFails : Fails db sent (q.call db piece) read e) :
    (q.fetchStep db (held read) piece).after sent =
      (.error (.relation q.table e), sent ++ [q.call db piece]) := by
  rw [fetchStep_after]
  cases hFails with
  | call hAnswer =>
      rw [hAnswer]
      rfl
  | @value answer _ hAnswer hRows =>
      rw [hAnswer]
      change ((Except.mapError _ (answer.copy.1 >>= joinAnswer (held read))).map some, _) = _
      rw [Source.copy_eq, hRows]
      rfl
  | @width answer rows first hAnswer hRows hSome hFirst hOther =>
      rw [hAnswer]
      change ((Except.mapError _ (answer.copy.1 >>= joinAnswer (held read))).map some, _) = _
      rw [Source.copy_eq, hRows]
      change ((Except.mapError _ (joinAnswer _ _)).map some, _) = _
      rw [joinAnswer_held_error hFirst hSome hOther (Source.readRows_width hRows)]
      rfl

/-- A fetch ends as its calls, one after the other, say. -/
theorem fetch_after_of_fetched {keys : List Key} {outcome : Except DataError Snapshot × List Call}
    (h : Fetched q db sent (chunks maxBindParameters keys) outcome) :
    (q.fetch db keys).after sent = outcome := by
  have hFold : q.fetch db keys = (do
      let joined ← (chunks maxBindParameters keys).foldlM (q.fetchStep db) none
      return joined.getD (Rows.ofRows [] [])) := by
    rw [fetch, chunks_map (by decide), List.foldlM_map]
    rfl
  rw [hFold, Session.after_bind]
  generalize chunks maxBindParameters keys = pieces at h
  cases h with
  | @complete read hRead hSame =>
      rw [foldlM_of_reads hRead hSame]
      dsimp only
      rw [Session.after_pure, held]
      cases read <;> rfl
  | @failed done rest piece read e hPieces hRead hSame hFails =>
      rw [hPieces, List.foldlM_append, Session.after_bind, foldlM_of_reads hRead hSame]
      dsimp only
      rw [List.foldlM_cons, Session.after_bind, fetchStep_of_fails hFails, List.map_append,
        List.map_singleton, List.append_assoc]

end Fetching

/-- The text of a secondary query before its parameters. -/
def sqlHead (q : RelationQuery) : String :=
  let table := quoteIdentifier q.table
  let column := quoteIdentifier q.entityColumn
  let key := quoteIdentifier keyColumn
  match q.junction with
  | none => "SELECT " ++ column ++ " AS " ++ key ++ ", * FROM " ++ table ++ " WHERE " ++ column
  | some junction =>
    let parent := quoteIdentifier junction.parentColumn
    "SELECT \"_junction\"." ++ parent ++ " AS " ++ key ++ ", " ++ table ++ ".* FROM " ++
      quoteIdentifier junction.table ++ " AS \"_junction\" INNER JOIN " ++ table ++
      " ON \"_junction\"." ++ quoteIdentifier junction.entityColumn ++ " = " ++ table ++ "." ++
      column ++ " WHERE \"_junction\"." ++ parent

/-- A call with one placeholder for each of its keys, in the notation of the connection. -/
structure BindsKeys (q : RelationQuery) (db : Connection) (keys : List Key) (call : Call) :
    Prop where
  args : call.args = keys.map Key.toValue
  sql : ∃ placeholders : List String, placeholders.length = call.args.length ∧
    (∀ index (h : index < placeholders.length), placeholders[index] = db.placeholder (index + 1)) ∧
    call.sql = q.sqlHead ++ " IN (" ++ ", ".intercalate placeholders ++ ")"

/-- A call has one parameter for each key. -/
theorem bindsKeys_call (q : RelationQuery) (db : Connection) (keys : List Key) :
    q.BindsKeys db keys (q.call db keys) where
  args := rfl
  sql := by
    refine ⟨(List.range keys.length).map fun i => db.placeholder (i + 1), ?_, ?_, ?_⟩
    · rw [List.length_map, List.length_range, call, List.length_map]
    · simp
    · rw [call, sql, sqlHead]
      cases q.junction with
      | none => simp only [placeholders, String.append_assoc]
      | some junction => simp only [placeholders, String.append_assoc]

/-- What a fetch of a finite set of keys does after some earlier calls. -/
structure FetchesSet (q : RelationQuery) (db : Connection) (sent : List Call)
    (set keys : List Key) : Prop where
  ascending : Sorted.Ascending keys
  mem_iff : ∀ k, k ∈ keys ↔ k ∈ set
  /-- Without keys nothing is called. -/
  empty : set = [] → (q.fetch db keys).after sent = (.ok (Rows.ofRows [] []), sent)
  /-- The pieces are consecutive. -/
  flatten : (chunks maxBindParameters keys).flatten = keys
  bounded : ∀ piece ∈ chunks maxBindParameters keys, 0 < piece.length ∧ piece.length ≤ 999
  binds : ∀ piece ∈ chunks maxBindParameters keys, q.BindsKeys db piece (q.call db piece)
  /-- The fetch ends as the answers to the pieces tell, and in no other way. -/
  ends : ∀ outcome, (q.fetch db keys).after sent = outcome ↔
    Fetched q db sent (chunks maxBindParameters keys) outcome

/-- A fetch puts the answers together faithfully, whatever the connection answers. -/
theorem fetch_assembles (q : RelationQuery) (db : Connection) (sent : List Call)
    (set : List Key) : q.FetchesSet db sent set (Sorted.ofList set) where
  ascending := Sorted.ascending_ofList set
  mem_iff _ := Sorted.mem_ofList
  empty := by
    rintro rfl
    have hPieces : chunks maxBindParameters (Sorted.ofList ([] : List Key)) = [] := chunks_nil
    have hEnd := Fetched.complete (@Reads.nil q db sent) sameWidth_nil
    rw [← hPieces] at hEnd
    rw [fetch_after_of_fetched hEnd, hPieces, List.map_nil, List.append_nil]
    rfl
  flatten := flatten_chunks (by decide) _
  bounded _ := length_of_mem_chunks
  binds piece _ := q.bindsKeys_call db piece
  ends outcome := by
    constructor
    · rintro rfl
      obtain ⟨outcome, hEnd⟩ :=
        exists_fetched q db sent (chunks maxBindParameters (Sorted.ofList set))
      rwa [fetch_after_of_fetched hEnd]
    · exact fetch_after_of_fetched

end RelationQuery

end TypedQuery
