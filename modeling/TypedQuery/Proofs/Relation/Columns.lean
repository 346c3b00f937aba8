import TypedQuery.Example.Authors
import TypedQuery.Data.ColumnType
import TypedQuery.Proofs.Relation.Answers
import TypedQuery.Proofs.Relation.Assembly

/-! Under which columns the rows of a fetch stand. Rows of several answers are joined by their width
alone, so each value keeps its place in the row. It keeps its name as well where the answer has this
name at the same place, and only the connection can see to that. -/

namespace TypedQuery

theorem Rows.cellIn_congr {Cell : Type} {columns other : List String}
    (h : columns.length = other.length) : @cellIn Cell columns = cellIn other := by
  funext row index
  rw [cellIn, cellIn, h]

namespace Cursor

/-- The value that a line has under a name of the columns. -/
def under (c : Cursor) (name : String) (line : Line) : Except DataError Value := do
  line (← c.columnIndex name)

/-- Lines of the same values have the same value under a name that stands at the same place. -/
theorem under_congr {c other : Cursor} {line line' : Line} {name : String}
    (hPlace : c.columnIndex name = other.columnIndex name)
    (hSame : line.SameBelow c.columns.length line') :
    c.under name line = other.under name line' := by
  rw [under, under, ← hPlace]
  cases hFound : c.columnIndex name with
  | error e => rfl
  | ok index => exact hSame index (lt_of_columnIndex hFound)

end Cursor

/-- The rows of some answers, each with the answer that it is a row of. -/
def origins (answers : List Source) : List (Source × Line) :=
  answers.flatMap fun answer => (Cursor.source answer).lines.map fun line => (answer, line)

/-- Every row of a fetch comes from one of its answers. -/
theorem mem_origins {answers : List Source} {origin : Source × Line}
    (h : origin ∈ origins answers) : origin.1 ∈ answers ∧ origin.1.left ≠ [] := by
  obtain ⟨answer, hAnswer, hOrigin⟩ := List.mem_flatMap.mp h
  obtain ⟨line, hLine, rfl⟩ := List.mem_map.mp hOrigin
  obtain ⟨row, hRow, -⟩ := List.mem_map.mp hLine
  exact ⟨hAnswer, List.ne_nil_of_mem hRow⟩

/-- A row of a fetch has the values of a row of an answer, place by place. -/
structure ReadFrom (result : Snapshot) (line : Line) (origin : Source × Line) : Prop where
  width : origin.1.columns.length = result.columns.length
  place : line.SameBelow result.columns.length origin.2

/-- The value under a name is the one that the answer has under it, if the name stands at the same
place there. -/
theorem ReadFrom.under {result : Snapshot} {line : Line} {origin : Source × Line}
    (h : ReadFrom result line origin) {name : String}
    (hPlace : (Cursor.snapshot result).columnIndex name =
      (Cursor.source origin.1).columnIndex name) :
    (Cursor.snapshot result).under name line = (Cursor.source origin.1).under name origin.2 :=
  Cursor.under_congr hPlace h.place

/-- The rows of all answers, in their order, under the columns of the first answer that has rows, or
of the first answer if none has any. -/
structure Joins (answers : List Source) (result : Snapshot) : Prop where
  columns : result.columns =
    ((answers.filter (!·.left.isEmpty)).head?.or answers.head?).elim [] (·.columns)
  rows : List.Forall₂ (ReadFrom result) (Cursor.snapshot result).lines (origins answers)

namespace Joins

variable {answers : List Source} {result : Snapshot}

/-- Answers with rows are as wide as the result. -/
theorem width (h : Joins answers result) {answer : Source} (hAnswer : answer ∈ answers)
    (hRows : answer.left ≠ []) : answer.columns.length = result.columns.length := by
  obtain ⟨row, hRow⟩ := List.exists_mem_of_ne_nil _ hRows
  have hOrigin : (answer, answer.line row) ∈ origins answers := by
    refine List.mem_flatMap.mpr ⟨answer, hAnswer, List.mem_map.mpr ⟨_, ?_, rfl⟩⟩
    exact List.mem_map_of_mem hRow
  obtain ⟨line, -, hRead⟩ := exists_of_forall₂_right h.rows hOrigin
  exact hRead.width

/-- If all answers with rows have the columns of the result, every value is read under its name. -/
theorem under (h : Joins answers result)
    (hColumns : ∀ answer ∈ answers, answer.left ≠ [] → answer.columns = result.columns)
    (name : String) :
    List.Forall₂ (fun line origin => (Cursor.snapshot result).under name line =
      (Cursor.source origin.1).under name origin.2)
      (Cursor.snapshot result).lines (origins answers) := by
  have hOrigins : ∀ origin ∈ origins answers, origin.1.columns = result.columns := by
    intro origin hOrigin
    obtain ⟨hAnswer, hRows⟩ := mem_origins hOrigin
    exact hColumns origin.1 hAnswer hRows
  have hEach := (List.forall₂_and_left _ _).mpr ⟨hOrigins, h.rows.flip⟩
  refine hEach.flip.imp fun line origin hRead => hRead.2.under ?_
  have hNames : (Cursor.snapshot result).columns = (Cursor.source origin.1).columns := hRead.1.symm
  exact Cursor.columnIndex_congr hNames name

end Joins

namespace Snapshot

variable {read : List Snapshot}

/-- Of the answers those with rows are kept. -/
theorem mem_withRows {a : Snapshot} : a ∈ withRows read ↔ a ∈ read ∧ a.rows ≠ [] := by
  simp [withRows]

/-- All answers with rows are as wide as the result. -/
theorem length_columns_assembled (hSame : SameWidth read) {a : Snapshot}
    (h : a ∈ withRows read) : (assembled read).columns.length = a.columns.length := by
  cases hFirst : (withRows read).head? with
  | none =>
      rw [List.head?_eq_none_iff.mp hFirst] at h
      cases h
  | some first =>
      rw [assembled_columns hFirst]
      exact hSame first (List.mem_of_head? hFirst) a h

/-- Rows of one width are the same lines in their answers and in the assembly. -/
theorem lines_assembled (hSame : SameWidth read) (hStart : ∀ a ∈ read, a.position = none) :
    (Cursor.snapshot (assembled read)).lines =
      read.flatMap fun a => (Cursor.snapshot a).lines := by
  have hRows : (assembled read).rows = read.flatMap (·.rows) := rfl
  rw [lines_of_start rfl, hRows, List.map_flatMap]
  refine List.flatMap_congr fun a ha => ?_
  rw [lines_of_start (hStart a ha)]
  by_cases hNone : a.rows = []
  · rw [hNone, List.map_nil, List.map_nil]
  · rw [Rows.cellIn_congr (length_columns_assembled hSame (mem_withRows.mpr ⟨ha, hNone⟩))]

variable {answers : List Source} {result a : Snapshot} {answer : Source}

/-- A copy has no rows exactly if its source has none left. -/
theorem rows_eq_nil_of_copy (h : answer.copy.1 = .ok a) : a.rows = [] ↔ answer.left = [] := by
  obtain ⟨-, hStart, hLines⟩ := Source.copy_ok h
  rw [← lines_eq_nil_iff hStart, ← List.length_eq_zero_iff, ← hLines.length_eq,
    List.length_eq_zero_iff, Source.lines_eq, List.map_eq_nil_iff]

/-- The lines of a copy are read from those of the answer, under columns of the same number. -/
theorem readFrom_of_copy (h : answer.copy.1 = .ok a)
    (hWidth : a.rows ≠ [] → a.columns.length = result.columns.length) :
    List.Forall₂ (ReadFrom result) (Cursor.snapshot a).lines
      ((Cursor.source answer).lines.map fun line => (answer, line)) := by
  obtain ⟨hColumns, hStart, hLines⟩ := Source.copy_ok h
  rw [List.forall₂_map_right_iff]
  by_cases hRows : a.rows = []
  · have hNone : (Cursor.snapshot a).lines = [] := (lines_eq_nil_iff hStart).mpr hRows
    rw [hNone, List.forall₂_nil_right_iff] at hLines
    rw [hNone, hLines]
    exact .nil
  · have hAnswer : answer.columns.length = result.columns.length :=
      hColumns ▸ hWidth hRows
    refine hLines.flip.imp fun line origin hSame => ⟨hAnswer, ?_⟩
    rw [← hAnswer]
    exact fun index hIndex => (hSame index hIndex).symm

/-- Copies of answers are assembled into the rows of the answers. -/
theorem joins_assembled (hSame : SameWidth read)
    (hCopies : List.Forall₂ (fun a answer => (Source.copy answer).1 = .ok a) read answers) :
    Joins answers (assembled read) where
  columns := by
    have hKept : List.Forall₂ (fun a answer => (Source.copy answer).1 = .ok a) (withRows read)
        (answers.filter (!·.left.isEmpty)) := by
      refine List.rel_filter (fun a answer h => ?_) hCopies
      simp only [Bool.not_eq_true', List.isEmpty_eq_false_iff, ne_eq, rows_eq_nil_of_copy h]
    -- On both sides the columns are those of the first element with rows, then of the first one.
    have hBoth : List.Forall₂ _ (withRows read ++ read)
        (answers.filter (!·.left.isEmpty) ++ answers) := List.rel_append hKept hCopies
    rw [assembled, ← List.head?_append, ← List.head?_append]
    generalize withRows read ++ read = copies at hBoth
    generalize answers.filter (!·.left.isEmpty) ++ answers = originals at hBoth
    cases hBoth with
    | nil => rfl
    | cons hFirst _ => exact (Source.copy_ok hFirst).1
  rows := by
    have hStart : ∀ a ∈ read, a.position = none := by
      intro a ha
      obtain ⟨answer, -, hCopy⟩ := exists_of_forall₂_left hCopies ha
      exact (Source.copy_ok hCopy).2.1
    rw [lines_assembled hSame hStart]
    have hEach := (List.forall₂_and_left _ _).mpr ⟨fun a (ha : a ∈ read) => ha, hCopies⟩
    refine List.rel_flatMap hEach fun a answer h => readFrom_of_copy h.2 fun hRows => ?_
    exact (length_columns_assembled hSame (mem_withRows.mpr ⟨h.1, hRows⟩)).symm

end Snapshot

namespace RelationQuery

open Snapshot

/-- The connection gives some answers to some pieces of the keys, each knowing all earlier calls. -/
inductive Gives (q : RelationQuery) (db : Connection) :
    List Call → List (List Key) → List Source → Prop
  | nil {sent : List Call} : Gives q db sent [] []
  | cons {sent : List Call} {piece : List Key} {pieces : List (List Key)} {answer : Source}
      {answers : List Source} (hAnswer : db.answer sent (q.call db piece) = .ok answer)
      (hLater : Gives q db (sent ++ [q.call db piece]) pieces answers) :
      Gives q db sent (piece :: pieces) (answer :: answers)

variable {q : RelationQuery} {db : Connection} {sent : List Call} {pieces : List (List Key)}
  {answers : List Source}

/-- A connection gives one answer to each call. -/
theorem Gives.unique {others : List Source} (h : Gives q db sent pieces answers)
    (h' : Gives q db sent pieces others) : answers = others := by
  induction h generalizing others with
  | nil => cases h'; rfl
  | cons hAnswer _ ih =>
      cases h' with
      | cons hOther hLater =>
          obtain rfl := Except.ok.inj (hAnswer.symm.trans hOther)
          rw [ih hLater]

/-- The answer to one more piece depends on all calls before it. -/
theorem Gives.append {piece : List Key} {answer : Source} (h : Gives q db sent pieces answers)
    (hAnswer : db.answer (sent ++ pieces.map (q.call db)) (q.call db piece) = .ok answer) :
    Gives q db sent (pieces ++ [piece]) (answers ++ [answer]) := by
  induction h with
  | nil =>
      rw [List.map_nil, List.append_nil] at hAnswer
      exact .cons hAnswer .nil
  | cons hFirst _ ih =>
      rw [List.map_cons, List.append_cons] at hAnswer
      exact .cons hFirst (ih hAnswer)

/-- What was read of a snapshot is a copy of an answer. -/
theorem Reads.exists_answers {read : List Snapshot} (h : Reads q db sent pieces read) :
    ∃ answers, Gives q db sent pieces answers ∧
      List.Forall₂ (fun a answer => (Source.copy answer).1 = .ok a) read answers := by
  induction h with
  | nil => exact ⟨[], .nil, .nil⟩
  | @append pieces read piece answer rows _ hAnswer hRows ih =>
      obtain ⟨answers, hGives, hCopies⟩ := ih
      refine ⟨answers ++ [answer], hGives.append hAnswer, List.rel_append hCopies (.cons ?_ .nil)⟩
      rw [Source.copy_eq, hRows]
      rfl

/-- The rows of a fetch are those of the answers to its pieces, place by place. Each value is read
under its name if the answers with rows have the columns of the result; answers with rows of
different widths make the fetch fail. -/
theorem fetch_keeps_places (q : RelationQuery) (db : Connection) (sent : List Call)
    (keys : List Key) :
    (∀ result calls, (q.fetch db keys).after sent = (.ok result, calls) →
      ∃ answers, Gives q db sent (chunks maxBindParameters keys) answers ∧ Joins answers result ∧
        ((∀ answer ∈ answers, answer.left ≠ [] → answer.columns = result.columns) → ∀ name,
          List.Forall₂ (fun line origin => (Cursor.snapshot result).under name line =
            (Cursor.source origin.1).under name origin.2)
            (Cursor.snapshot result).lines (origins answers))) ∧
    ∀ answers, Gives q db sent (chunks maxBindParameters keys) answers →
      (∃ a ∈ answers, a.left ≠ [] ∧ ∃ b ∈ answers, b.left ≠ [] ∧
        a.columns.length ≠ b.columns.length) →
      ∃ e, ((q.fetch db keys).after sent).1 = .error e := by
  have hFetched (result : Snapshot) (calls : List Call)
      (h : (q.fetch db keys).after sent = (.ok result, calls)) :
      ∃ answers, Gives q db sent (chunks maxBindParameters keys) answers ∧
        Joins answers result := by
    obtain ⟨outcome, hEnd⟩ := exists_fetched q db sent (chunks maxBindParameters keys)
    rw [fetch_after_of_fetched hEnd] at h
    subst h
    cases hEnd with
    | complete hRead hSame =>
        obtain ⟨answers, hGives, hCopies⟩ := hRead.exists_answers
        exact ⟨answers, hGives, joins_assembled hSame hCopies⟩
  refine ⟨fun result calls h => ?_, fun answers hGives hWidths => ?_⟩
  · obtain ⟨answers, hGives, hJoins⟩ := hFetched result calls h
    exact ⟨answers, hGives, hJoins, hJoins.under⟩
  · obtain ⟨a, ha, haRows, b, hb, hbRows, hOther⟩ := hWidths
    match hEnd : (q.fetch db keys).after sent with
    | (.error e, calls) => exact ⟨e, rfl⟩
    | (.ok result, calls) =>
        obtain ⟨others, hOthers, hJoins⟩ := hFetched result calls hEnd
        obtain rfl := hGives.unique hOthers
        -- A result would be as wide as either answer.
        exact absurd ((hJoins.width ha haRows).trans (hJoins.width hb hbRows).symm) hOther

/-- More keys than one call can bind. -/
def manyKeys : List Key := (List.range 1000).map fun n => .integer (Int64.ofNat n)

theorem ascending_manyKeys : Sorted.Ascending manyKeys := by
  refine List.pairwise_map.mpr (List.pairwise_lt_range.imp_of_mem fun {a b} ha hb hLess => ?_)
  rw [List.mem_range] at ha hb
  change compare (Int64.ofNat a) (Int64.ofNat b) = .lt
  rw [Std.compare_eq_lt, Int64.ofNat_lt_iff_lt (by omega) (by omega)]
  exact hLess

/-- A thousand keys need two calls. -/
theorem chunks_manyKeys :
    chunks maxBindParameters manyKeys = [manyKeys.take 999, manyKeys.drop 999] := by
  have hLength : manyKeys.length = 1000 := by rw [manyKeys, List.length_map, List.length_range]
  have hMore : manyKeys ≠ [] := List.ne_nil_of_length_pos (by omega)
  have hLast : manyKeys.drop 999 ≠ [] := List.ne_nil_of_length_pos (by rw [List.length_drop]; omega)
  have hNone : (manyKeys.drop 999).drop 999 = [] := by
    rw [List.drop_eq_nil_iff, List.length_drop]
    omega
  have hTake : (manyKeys.drop 999).take 999 = manyKeys.drop 999 := by
    rw [List.take_of_length_le]
    rw [List.length_drop]
    omega
  rw [maxBindParameters, chunks_of_ne_nil (by decide) hMore, chunks_of_ne_nil (by decide) hLast,
    hNone, hTake, chunks_nil]

/-- A connection with one answer to the first call and another one to later calls. -/
def answering (first later : Source) : Connection where
  answer sent _ := .ok (if sent.isEmpty then first else later)
  placeholder := Example.placeholder

theorem gives_answering (q : RelationQuery) (first later : Source) :
    Gives q (answering first later) [] (chunks maxBindParameters manyKeys) [first, later] := by
  rw [chunks_manyKeys]
  exact .cons rfl (.cons rfl .nil)

theorem fetch_answering (q : RelationQuery) (first later : Source) {rows more : List (List Value)}
    (hFirst : first.readRows = .ok rows) (hLater : later.readRows = .ok more)
    (hWidth : first.columns.length = later.columns.length) :
    ∃ calls, (q.fetch (answering first later) manyKeys).after [] =
      (.ok (assembled [Rows.ofRows first.columns rows, Rows.ofRows later.columns more]),
        calls) := by
  have hReads : Reads q (answering first later) [] (chunks maxBindParameters manyKeys)
      [Rows.ofRows first.columns rows, Rows.ofRows later.columns more] := by
    rw [chunks_manyKeys]
    exact .append (.append .nil rfl hFirst) rfl hLater
  refine ⟨_, fetch_after_of_fetched (.complete hReads ?_)⟩
  have hAll : ∀ a ∈ [Rows.ofRows first.columns rows, Rows.ofRows later.columns more],
      a.columns.length = first.columns.length := by
    simpa [Rows.ofRows] using hWidth.symm
  intro a ha b hb
  exact (hAll a (mem_withRows.mp ha).1).trans (hAll b (mem_withRows.mp hb).1).symm

/-- Related rows with their columns the other way around. -/
def reversedTitles (rows : List (Int64 × String)) : Source :=
  .ofRows ["title", keyColumn]
    (rows.map fun (key, title) => [.ok (.text title), .ok (.integer key)])

theorem ordered_answers_keep_names :
    ∃ result calls, (Example.bookQuery.fetch
        (answering (Example.titles [(0, "Emma")]) (Example.titles [(999, "Persuasion")]))
        manyKeys).after [] = (.ok result, calls) ∧
      ∀ name, List.Forall₂ (fun line origin => (Cursor.snapshot result).under name line =
        (Cursor.source origin.1).under name origin.2) (Cursor.snapshot result).lines
        (origins [Example.titles [(0, "Emma")], Example.titles [(999, "Persuasion")]]) := by
  obtain ⟨calls, hFetch⟩ := fetch_answering Example.bookQuery (Example.titles [(0, "Emma")])
    (Example.titles [(999, "Persuasion")]) rfl rfl rfl
  obtain ⟨answers, hGives, -, hNames⟩ := (fetch_keeps_places _ _ _ _).1 _ _ hFetch
  obtain rfl := (gives_answering _ _ _).unique hGives
  refine ⟨_, calls, hFetch, hNames fun answer hAnswer _ => ?_⟩
  rcases List.mem_pair.mp hAnswer with rfl | rfl <;> rfl

/-- If the answers have the same columns in another order, the fetch succeeds and a title is read
under the name of the key. -/
theorem reversed_answer_is_misread :
    ∃ result calls, Sorted.Ascending manyKeys ∧ (Example.bookQuery.fetch
        (answering (Example.titles [(0, "Emma")]) (reversedTitles [(999, "Persuasion")]))
        manyKeys).after [] = (.ok result, calls) ∧
      (Cursor.snapshot result).lines.map ((Cursor.snapshot result).under keyColumn) =
        [.ok (.integer 0), .ok (.text "Persuasion")] ∧
      (origins [Example.titles [(0, "Emma")], reversedTitles [(999, "Persuasion")]]).map
        (fun origin => (Cursor.source origin.1).under keyColumn origin.2) =
          [.ok (.integer 0), .ok (.integer 999)] := by
  obtain ⟨calls, hFetch⟩ := fetch_answering Example.bookQuery (Example.titles [(0, "Emma")])
    (reversedTitles [(999, "Persuasion")]) rfl rfl rfl
  exact ⟨_, calls, ascending_manyKeys, hFetch, rfl, rfl⟩

end RelationQuery

end TypedQuery
