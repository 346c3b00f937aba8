import TypedQuery.Proofs.Cursor.Visits
import TypedQuery.Proofs.Relation.Assembly

/-! A copy cannot be told from its source. What a cursor answers after a move depends on its
columns and the lines that are left to it, and a copy has those of its source. -/

namespace TypedQuery

namespace Rows

variable {Cell : Type} {c : Rows Cell}

/-- The end is met behind all rows, and there no row can be read. -/
theorem left_seek_length (c : Rows Cell) : (c.seek (some c.rows.length)).left = [] :=
  List.drop_eq_nil_of_le (Nat.le_succ _)

/-- Behind the last row there is nothing to read. -/
theorem cell_seek_length (c : Rows Cell) (index : Nat) :
    (c.seek (some c.rows.length)).cell index = .error .cursorPosition := by
  have hRow : (c.seek (some c.rows.length)).row? = none :=
    List.getElem?_eq_none (Nat.le_refl _)
  rw [cell, hRow]

end Rows

namespace Cursor

/-- A question that every cursor answers. -/
inductive Look where
  | next
  | value (index : Nat)
  | columnNames

inductive Reply where
  | moved (found : Bool)
  | value (read : Except DataError Value)
  | columnNames (names : List String)

def reply (c : Cursor) : Look → Reply
  | .next => .moved c.next.1
  | .value index => .value (c.value index)
  | .columnNames => .columnNames c.columns

/-- The cursor after a question. Only moving changes it. -/
def look (c : Cursor) : Look → Cursor
  | .next => c.next.2
  | .value _ | .columnNames => c

def looked (c : Cursor) (looks : List Look) : Cursor := looks.foldl look c

/-- The answers to some questions, one after the other. -/
def replies (c : Cursor) : List Look → List Reply
  | [] => []
  | question :: rest => c.reply question :: (c.look question).replies rest

/-- On rows of the same values, with the same rows to come. -/
structure Alike (a b : Cursor) : Prop where
  columns : a.columns = b.columns
  lines : a.lines = b.lines
  value : ∀ index, a.value index = b.value index

/-- A move behind the last row. -/
theorem next_of_end {c : Cursor} (h : c.lines = []) : c.next.1 = false ∧ c.next.2.lines = [] ∧
    c.next.2.columns = c.columns ∧ ∀ index, c.next.2.value index = .error .cursorPosition := by
  cases c with
  | source c =>
      have hNext := Rows.next_of_left_nil (List.map_eq_nil_iff.mp h)
      refine ⟨by rw [next, hNext], ?_, by rw [next, hNext]; rfl, fun index => ?_⟩
      · rw [next, hNext, lines, Rows.left_seek_length, List.map_nil]
      · rw [next, hNext]
        change Source.value _ index = _
        rw [Source.value, Rows.cell_seek_length]
        rfl
  | snapshot c =>
      have hNext := Rows.next_of_left_nil (List.map_eq_nil_iff.mp h)
      refine ⟨by rw [next, hNext], ?_, by rw [next, hNext]; rfl, fun index => ?_⟩
      · rw [next, hNext, lines, Rows.left_seek_length, List.map_nil]
      · rw [next, hNext]
        exact Rows.cell_seek_length c index

theorem seek_columns (c : Cursor) (position : Option Nat) :
    (c.seek position).columns = c.columns := by
  cases c <;> rfl

/-- A move is answered by what is left, and leaves nothing else to be told apart. -/
theorem alike_next {a b : Cursor} (hColumns : a.columns = b.columns) (hLines : a.lines = b.lines) :
    a.next.1 = b.next.1 ∧ Alike a.next.2 b.next.2 := by
  cases hLeft : b.lines with
  | nil =>
      obtain ⟨hFound, hRest, hNames, hValue⟩ := next_of_end (hLines.trans hLeft)
      obtain ⟨hFound', hRest', hNames', hValue'⟩ := next_of_end hLeft
      refine ⟨hFound.trans hFound'.symm, ?_, hRest.trans hRest'.symm, fun index => ?_⟩
      · rw [hNames, hNames', hColumns]
      · rw [hValue, hValue']
  | cons line rest =>
      obtain ⟨position, hNext, hRest, hValue⟩ := next_of_lines_cons (hLines.trans hLeft)
      obtain ⟨position', hNext', hRest', hValue'⟩ := next_of_lines_cons hLeft
      rw [hNext, hNext']
      refine ⟨rfl, ?_, hRest.trans hRest'.symm, fun index => ?_⟩
      · rw [seek_columns, seek_columns, hColumns]
      · rw [hValue, hValue']

/-- Cursors that are alike answer alike, and stay alike. -/
theorem Alike.look {a b : Cursor} (h : Alike a b) (question : Look) :
    a.reply question = b.reply question ∧ Alike (a.look question) (b.look question) := by
  cases question with
  | next =>
      obtain ⟨hFound, hNext⟩ := alike_next h.columns h.lines
      exact ⟨congrArg Reply.moved hFound, hNext⟩
  | value index => exact ⟨congrArg Reply.value (h.value index), h⟩
  | columnNames => exact ⟨congrArg Reply.columnNames h.columns, h⟩

/-- So they answer alike to all that is asked one after the other. -/
theorem Alike.replies {a b : Cursor} (h : Alike a b) (looks : List Look) :
    a.replies looks = b.replies looks := by
  induction looks generalizing a b with
  | nil => rfl
  | cons question rest ih =>
      obtain ⟨hReply, hRest⟩ := h.look question
      rw [Cursor.replies, Cursor.replies, hReply, ih hRest]

/-- After a first move, cursors with the same columns and lines answer alike. -/
theorem replies_after_next {a b : Cursor} (hColumns : a.columns = b.columns)
    (hLines : a.lines = b.lines) (looks : List Look) :
    a.replies (.next :: looks) = b.replies (.next :: looks) := by
  obtain ⟨hFound, hNext⟩ := alike_next hColumns hLines
  rw [replies, replies, reply, reply, hFound, Cursor.look, Cursor.look, hNext.replies]

/-- Nothing is found any more behind the last row. -/
theorem looked_of_end {c : Cursor} (h : c.lines = []) (looks : List Look) :
    (c.looked looks).lines = [] := by
  induction looks generalizing c with
  | nil => exact h
  | cons question rest ih =>
      cases question with
      | next => exact ih (next_of_end h).2.1
      | value | columnNames => exact ih h

/-- Questions leave a snapshot as it is but for its position. -/
theorem looked_snapshot (c : Snapshot) (looks : List Look) :
    ∃ position, (snapshot c).looked looks = snapshot (c.seek position) := by
  have hStep (c : Snapshot) (question : Look) :
      ∃ position, (snapshot c).look question = snapshot (c.seek position) := by
    cases question with
    | next =>
        refine ⟨c.next.2.position, ?_⟩
        rw [look, next, Rows.next]
        split <;> rfl
    | value | columnNames => exact ⟨c.position, rfl⟩
  induction looks generalizing c with
  | nil => exact ⟨c.position, rfl⟩
  | cons question rest ih =>
      obtain ⟨position, hLook⟩ := hStep c question
      obtain ⟨last, hLast⟩ := ih (c.seek position)
      exact ⟨last, by rw [looked, List.foldl_cons, hLook]; exact hLast⟩

end Cursor

namespace Source

/-- Where all rows can be read, copying goes on to the end. -/
theorem copyRest_drains {count : Nat} {read : List (List Value)} {c : Source} {s : Snapshot}
    (hCount : c.remaining = count) (h : (copyRest count read c).1 = .ok s) :
    (copyRest count read c).2 = c.seek (some c.rows.length) := by
  induction count generalizing read c with
  | zero =>
      rw [← Rows.left_length, List.length_eq_zero_iff] at hCount
      rw [copyRest, Rows.next_of_left_nil hCount]
  | succ count ih =>
      rw [← Rows.left_length] at hCount
      obtain ⟨row, rest, hLeft⟩ := List.exists_cons_of_length_eq_add_one hCount
      obtain ⟨hNext, hLater, -⟩ := Rows.next_of_left_cons hLeft
      rw [copyRest, hNext] at h ⊢
      dsimp only at h ⊢
      cases hRow : Source.values (c.seek (some c.upcoming)) with
      | error e =>
          rw [hRow] at h
          cases h
      | ok values =>
          rw [hRow] at h
          have hRemaining : (c.seek (some c.upcoming)).remaining = count := by
            rw [← Rows.left_length, hLater]
            rw [hLeft, List.length_cons] at hCount
            omega
          exact ih hRemaining h

/-- The values that copying reads, row by row. -/
def cells (c : Source) : List (Except DataError Value) :=
  (Cursor.source c).lines.flatMap fun line => (List.range c.columns.length).map line

end Source

namespace Snapshot

/-- All rows are as wide as the columns. -/
def Rectangular (c : Snapshot) : Prop := ∀ row ∈ c.rows, row.length = c.columns.length

/-- The snapshots that there can be: new ones, copies of other cursors, and what becomes of them by
calls and by copying them. -/
inductive Reachable : Snapshot → Prop where
  | new (columns : List String) : Reachable (Rows.ofRows columns [])
  | copy {source : Cursor} {copied : Snapshot} (made : source.copy.1 = .ok copied) :
      Reachable copied
  | perform {c : Snapshot} (prior : Reachable c) (call : Operation) : Reachable (c.perform call)
  | drained {c d : Snapshot} (prior : Reachable c)
      (left : (Cursor.snapshot c).copy.2 = .snapshot d) : Reachable d

/-- No call makes a row of another width. -/
theorem Rectangular.perform {c : Snapshot} (h : c.Rectangular) (call : Operation) :
    (c.perform call).Rectangular := by
  obtain ⟨more, position, hWidths, hRun⟩ := perform_grows c call
  rw [hRun]
  intro row hRow
  rcases List.mem_append.mp hRow with hOld | hNew
  · exact h row hOld
  · exact hWidths row hNew

/-- A copy has rows of one width, whatever its source has. -/
theorem rectangular_of_copy {source : Source} {copied : Snapshot}
    (h : source.copy.1 = .ok copied) : copied.Rectangular := by
  rw [Source.copy_eq] at h
  obtain ⟨rows, hRows, rfl⟩ := map_eq_ok_iff.mp h
  exact Source.readRows_width hRows

/-- Every snapshot that can be made has rows of one width. -/
theorem Reachable.rectangular {c : Snapshot} (h : c.Reachable) : c.Rectangular := by
  induction h with
  | new columns => exact nofun
  | @copy source copied made =>
      cases source with
      | source s => exact rectangular_of_copy made
      | snapshot s => exact @rectangular_of_copy s.toSource _ made
  | perform prior call ih => exact ih.perform call
  | drained prior left ih =>
      cases left
      exact ih

section Copy

variable {c : Snapshot}

/-- A snapshot has the same lines as an answer. -/
theorem lines_toSource (c : Snapshot) :
    (Cursor.source c.toSource).lines = (Cursor.snapshot c).lines := by
  rw [Cursor.lines, Cursor.lines, Rows.left, Rows.left, toSource, ← List.map_drop, List.map_map]
  refine List.map_congr_left fun row _ => funext fun index => ?_
  change (Rows.cellIn c.columns (row.map .ok) index >>= id) = _
  rw [Rows.cellIn, Rows.cellIn, List.getElem?_map]
  cases row[index]? <;> rfl

/-- A snapshot can be read as a source, without failure. -/
theorem readRows_toSource (h : c.Rectangular) : c.toSource.readRows = .ok c.left := by
  have hLines : c.toSource.left.map c.toSource.line =
      c.left.map fun row index => Rows.cellIn c.columns row index := lines_toSource c
  have hRead : c.toSource.readRows =
      (c.toSource.left.map c.toSource.line).mapM (List.range c.columns.length).mapM := by
    rw [List.mapM_map]
    rfl
  rw [hRead, hLines, mapM_eq_ok_iff, List.forall₂_map_left_iff, List.forall₂_same]
  intro row hRow
  have hWidth : row.length = c.columns.length := h row (List.mem_of_mem_drop hRow)
  rw [mapM_eq_ok_iff, List.forall₂_iff_get]
  refine ⟨by rw [List.length_range, hWidth], fun index _ hIndex => ?_⟩
  rw [Rows.cellIn]
  simp [List.getElem?_eq_getElem hIndex]

/-- A snapshot is copied from the row after the current one, and met at its end then. -/
theorem copy_of_rectangular (h : c.Rectangular) : (Cursor.snapshot c).copy =
    (.ok (Rows.ofRows c.columns c.left), .snapshot (c.seek (some c.rows.length))) := by
  have hCopied : c.toSource.copy.1 = .ok (Rows.ofRows c.columns c.left) := by
    rw [Source.copy_eq, readRows_toSource h]
    rfl
  have hLeft : c.toSource.copy.2 = c.toSource.seek (some c.toSource.rows.length) :=
    Source.copyRest_drains rfl hCopied
  rw [Cursor.copy, hCopied, hLeft]
  simp [Rows.seek, toSource]

end Copy

end Snapshot

section Conversion

variable {reader : Reader} {db : Connection} {a b : Cursor}

/-- Without relation fields preparation depends on the names of the columns only. -/
theorem Row.prepared_congr {row : Row} (hPlain : row.relations = [])
    (hColumns : a.columns = b.columns) :
    row.prepared reader db a = row.prepared reader db b := by
  have hIndex := Cursor.columnIndex_congr hColumns
  cases row with
  | scalar type column =>
      cases column with
      | none => rfl
      | some column => rw [prepared, prepared, hIndex]
  | entity e =>
      obtain ⟨path, fields, relations⟩ := e
      obtain rfl : relations = [] := hPlain
      rw [prepared, prepared, EntityRow.prepared, EntityRow.prepared, EntityRow.preparedRelations,
        EntityRow.preparedRelations]
      simp only [hIndex]

namespace Shape

variable {s : Shape}

/-- Without relation fields the result depends on the columns, the lines and the copy. -/
theorem meaning_congr (hPlain : ∀ row ∈ s.parts, row.relations = [])
    (hColumns : a.columns = b.columns) (hLines : a.lines = b.lines)
    (hCopy : a.copy.1 = b.copy.1) : s.meaning reader db a = s.meaning reader db b := by
  have hPart {row? : Option Row} (h : ∀ row ∈ row?, row.relations = []) :
      Row.converter? reader db a row? = Row.converter? reader db b row? := by
    cases row? with
    | none => rfl
    | some row => rw [Row.converter?, Row.converter?, Row.prepared_congr (h row rfl) hColumns]
  have hAssemble (key value : Converter) :
      s.assemble reader key value a = s.assemble reader key value b := by
    cases s <;> simp only [assemble, hLines, hCopy]
  rw [meaning, meaning, hPart fun row hRow => hPlain row (by simp_all [parts]),
    hPart fun row hRow => hPlain row (by simp_all [parts])]
  simp only [hAssemble]

/-- The result of the code of a shape for the cursor of a generated function, and the queries that
were sent until then. -/
def outcomeOn (s : Shape) (reader : Reader) (db : Connection) (env : Env) (c : Cursor)
    (earlier : List Call) : Except Fault Datum × List Call :=
  let cursor := Var.temporary "cursor" 0
  let out := Var.temporary "out" 1
  Run.outcomeAfter (do
    let _ ← Run.stmts reader db ((s.emit out cursor).run 2).1
    Run.result out) (env.put cursor (.cursor c)) earlier

theorem outcomeOn_eq (hPlain : ∀ row ∈ s.parts, row.relations = []) (env : Env) (c : Cursor)
    (earlier : List Call) : s.outcomeOn reader db env c earlier =
      (((s.meaning reader db c).after earlier).1.mapError Fault.failed,
        ((s.meaning reader db c).after earlier).2) := by
  let cursor := Var.temporary "cursor" 0
  let out := Var.temporary "out" 1
  have hRuns : Run.Runs reader db ((s.emit out cursor).run 2).1 (env.put cursor (.cursor c))
      (s.meaning reader db c) fun d left => Run.Yields (Run.result out) left d :=
    s.emit_runs (Env.lookup_put_self env _ (.cursor c)) (Var.older_temporary (by decide))
      (Var.older_temporary (by decide)) (by decide) fun row hRow => Or.inl (hPlain row hRow)
  refine Run.Simulates.outcomeAfter (hRuns.simulates.seq fun d _ left hLeft sent => ?_) earlier
  rw [hLeft sent]
  exact Run.Matches.done rfl

end Shape

end Conversion

namespace Snapshot

/-- What a snapshot, its copy and the snapshot after copying have to do with each other. -/
structure CopiesAs (c copied drained : Snapshot) : Prop where
  /-- From a first move on the copy answers as the snapshot would have done. -/
  replies : ∀ looks, (Cursor.snapshot copied).replies (.next :: looks) =
    (Cursor.snapshot c).replies (.next :: looks)
  /-- Copying leaves nothing to be met, or to be copied. -/
  exhausted : ∀ looks, ((Cursor.snapshot drained).looked looks).next.1 = false
  emptied : (Cursor.snapshot drained).copy.1 = .ok (Rows.ofRows c.columns [])
  /-- A copy of the copy is the copy as it was. -/
  again : ∃ left, (Cursor.snapshot copied).copy = (.ok copied, .snapshot left) ∧
    left.reset = copied
  /-- Whatever was asked, a reset gives the copy back as it was. -/
  rewound : ∀ looks, ∃ left, (Cursor.snapshot copied).looked looks = .snapshot left ∧
    left.reset = copied
  /-- Generated code without relation fields makes the same of the copy, of the snapshot and of an
  answer with its rows. -/
  conversion : ∀ s : Shape, (∀ row ∈ s.parts, row.relations = []) →
    ∀ reader db env earlier, ∀ primary ∈ [Cursor.snapshot c, .source c.toSource],
      s.outcomeOn reader db env primary earlier =
        s.outcomeOn reader db env (.snapshot copied) earlier

theorem Rectangular.copiesAs {c : Snapshot} (h : c.Rectangular) :
    c.CopiesAs (Rows.ofRows c.columns c.left) (c.seek (some c.rows.length)) := by
  have hColumns : (Cursor.snapshot (Rows.ofRows c.columns c.left)).columns =
      (Cursor.snapshot c).columns := rfl
  have hLines : (Cursor.snapshot (Rows.ofRows c.columns c.left)).lines =
      (Cursor.snapshot c).lines := rfl
  have hCopied : Rectangular (Rows.ofRows c.columns c.left) :=
    fun row hRow => h row (List.mem_of_mem_drop hRow)
  have hEnd : (c.seek (some c.rows.length)).left = [] := Rows.left_seek_length c
  refine ⟨fun looks => ?_, fun looks => ?_, ?_, ?_, fun looks => ?_, ?_⟩
  · exact Cursor.replies_after_next hColumns hLines looks
  · refine (Cursor.next_of_end (Cursor.looked_of_end ?_ looks)).1
    rw [Cursor.lines, hEnd, List.map_nil]
  · have hDrained : Rectangular (c.seek (some c.rows.length)) := h
    rw [copy_of_rectangular hDrained, hEnd]
    rfl
  · exact ⟨_, copy_of_rectangular hCopied, rfl⟩
  · obtain ⟨position, hLooked⟩ := Cursor.looked_snapshot (Rows.ofRows c.columns c.left) looks
    exact ⟨_, hLooked, rfl⟩
  · intro s hPlain reader db env earlier primary hPrimary
    have hSame : primary.columns = c.columns ∧ primary.lines = (Cursor.snapshot c).lines ∧
        primary.copy.1 = (Cursor.snapshot c).copy.1 := by
      rcases List.mem_pair.mp hPrimary with rfl | rfl
      · exact ⟨rfl, rfl, rfl⟩
      · exact ⟨rfl, lines_toSource c, rfl⟩
    obtain ⟨hPrimaryColumns, hPrimaryLines, hPrimaryCopy⟩ := hSame
    have hMeaning : s.meaning reader db primary =
        s.meaning reader db (.snapshot (Rows.ofRows c.columns c.left)) := by
      refine Shape.meaning_congr hPlain hPrimaryColumns (hPrimaryLines.trans hLines.symm) ?_
      rw [hPrimaryCopy, copy_of_rectangular h, copy_of_rectangular hCopied]
      rfl
    rw [Shape.outcomeOn_eq hPlain, Shape.outcomeOn_eq hPlain, hMeaning]

end Snapshot

/-- Copying a cursor fails as the first value does that cannot be read. -/
theorem Source.copy_eq_error_iff {c : Source} {e : DataError} :
    c.copy.1 = .error e ↔ firstFailure c.cells = some e := by
  have hCells : c.cells = c.left.flatMap fun row =>
      (List.range c.columns.length).map (c.line row) := by
    rw [cells, lines_eq, List.flatMap_map]
  rw [copy_eq, map_eq_error_iff, readRows, ← failure?_eq_some_iff, failure?_mapM_mapM, hCells]

/-- Every snapshot that there can be is copied, and after a first move nothing tells the copy from
the snapshot as it was. Another cursor is copied unless one of its values cannot be read. -/
theorem Cursor.copy_indistinguishable :
    (∀ c : Snapshot, c.Reachable → ∃ copied drained,
      (Cursor.snapshot c).copy = (.ok copied, .snapshot drained) ∧ c.CopiesAs copied drained) ∧
    ∀ (c : Source) (e : DataError), c.copy.1 = .error e ↔ firstFailure c.cells = some e :=
  ⟨fun _ h => ⟨_, _, Snapshot.copy_of_rectangular h.rectangular, h.rectangular.copiesAs⟩,
    fun _ _ => Source.copy_eq_error_iff⟩

/-- On its first row a snapshot is copied from the second one. -/
theorem Cursor.second_row_indistinguishable :
    let c : Snapshot := ((Snapshot.perform (Rows.ofRows ["x"] []) (.push [.integer 1])).perform
      (.push [.null])).perform .next
    c.Reachable ∧ c.row? = some [.integer 1] ∧
      ∃ copied drained, (Cursor.snapshot c).copy = (.ok copied, .snapshot drained) ∧
        c.CopiesAs copied drained := by
  intro c
  have hReachable : c.Reachable := (((Snapshot.Reachable.new ["x"]).perform _).perform _).perform _
  exact ⟨hReachable, rfl, Cursor.copy_indistinguishable.1 c hReachable⟩

end TypedQuery
