import TypedQuery.Proofs.Relation.Fetch

namespace TypedQuery

/-- The key of a value that can be read. -/
def Line.key? (line : Line) (index : Nat) : Option Key :=
  match line index with
  | .ok v => v.toKey
  | .error _ => none

/-- The parent key that a line of some columns carries. -/
def Line.parentKey? (line : Line) (columns : List String) : Option Key :=
  (columns.findIdx? (· == RelationQuery.keyColumn)).bind line.key?

/-- Lines of the same values carry the same parent key. -/
theorem Line.SameBelow.parentKey? {line other : Line} {columns : List String}
    (h : line.SameBelow columns.length other) :
    line.parentKey? columns = other.parentKey? columns := by
  unfold Line.parentKey?
  cases hFound : columns.findIdx? (· == RelationQuery.keyColumn) with
  | none => rfl
  | some index =>
      obtain ⟨hIndex, -⟩ := List.findIdx?_eq_some_iff_getElem.mp hFound
      rw [Option.bind_some, Option.bind_some, Line.key?, Line.key?, h index hIndex]

namespace Source

/-- The lines that belong to one of some keys. -/
def linesWith (all : Source) (keys : List Key) : List Line :=
  (Cursor.source all).lines.filter fun line => (line.parentKey? all.columns).any (· ∈ keys)

/-- The lines that belong to a key. Without a key there are none. -/
def matching (all : Source) : Option Key → List Line
  | none => []
  | some k => (Cursor.source all).lines.filter fun line => line.parentKey? all.columns = some k

/-- If no key stands in two pieces, then the lines of all pieces have those of each key as they
stand in the list. -/
theorem matching_of_pieces (all : Source) {pieces : List (List Key)} {k : Key}
    (hNodup : pieces.flatten.Nodup) (hKey : k ∈ pieces.flatten) :
    (pieces.flatMap all.linesWith).filter (fun line => line.parentKey? all.columns = some k) =
      all.matching (some k) := by
  have hPiece (piece : List Key) :
      (all.linesWith piece).filter (fun line => line.parentKey? all.columns = some k) =
        if k ∈ piece then all.matching (some k) else [] := by
    rw [linesWith, List.filter_filter, matching]
    by_cases hMem : k ∈ piece
    · rw [if_pos hMem]
      apply List.filter_congr
      intro line _
      by_cases hLine : line.parentKey? all.columns = some k
      · simp [hLine, hMem]
      · simp [hLine]
    · rw [if_neg hMem, List.filter_eq_nil_iff]
      intro line _ hBoth
      simp only [Bool.and_eq_true, decide_eq_true_eq] at hBoth
      rw [hBoth.1, Option.any_some, decide_eq_true_eq] at hBoth
      exact hMem hBoth.2
  have hNone (rest : List (List Key)) (hRest : k ∉ rest.flatten) :
      (rest.flatMap all.linesWith).filter (fun line => line.parentKey? all.columns = some k) =
        [] := by
    rw [List.filter_flatMap, List.flatMap_eq_nil_iff]
    intro piece hMem
    rw [hPiece, if_neg fun hIn => hRest (List.mem_flatten.mpr ⟨piece, hMem, hIn⟩)]
  induction pieces with
  | nil => cases hKey
  | cons piece rest ih =>
      rw [List.flatten_cons, List.nodup_append] at hNodup
      obtain ⟨-, hRest, hDisjoint⟩ := hNodup
      rw [List.flatMap_cons, List.filter_append, hPiece]
      by_cases hMem : k ∈ piece
      · rw [if_pos hMem, hNone rest fun hLater => hDisjoint k hMem k hLater rfl, List.append_nil]
      · rw [List.flatten_cons, List.mem_append] at hKey
        rw [if_neg hMem, List.nil_append, ih hRest (hKey.resolve_left hMem)]

end Source

/-- The connection answers the queries of a relation field from fixed rows: with those whose parent
key is bound, in their order. An empty answer may come without columns. -/
structure Connection.AnswersFrom (db : Connection) (query : RelationQuery) (all : Source) :
    Prop where
  rows : ∀ (earlier : List Call) (keys : List Key) (answer : Source),
    db.answer earlier ⟨query.sql db keys.length, keys.map Key.toValue⟩ = .ok answer →
    answer.left = all.left.filter fun row =>
      ((all.line row).parentKey? all.columns).any (· ∈ keys)
  columns : ∀ (earlier : List Call) (keys : List Key) (answer : Source),
    db.answer earlier ⟨query.sql db keys.length, keys.map Key.toValue⟩ = .ok answer →
    answer.columns = all.columns ∨ answer.left = [] ∧ answer.columns = []

namespace Connection.AnswersFrom

variable {db : Connection} {q : RelationQuery} {all answer : Source} {earlier : List Call}
  {keys : List Key}

/-- The lines of an answer are those that belong to its keys. -/
theorem lines (h : db.AnswersFrom q all)
    (hSent : db.answer earlier ⟨q.sql db keys.length, keys.map Key.toValue⟩ = .ok answer) :
    (Cursor.source answer).lines = all.linesWith keys := by
  rw [Source.linesWith, Source.lines_eq, Source.lines_eq, List.filter_map]
  have hRows := h.rows earlier keys answer hSent
  rcases h.columns earlier keys answer hSent with hColumns | ⟨hNone, -⟩
  · have hLine : answer.line = all.line := by
      funext row index
      rw [Source.line, Source.line, Rows.cellIn, Rows.cellIn, hColumns]
    rw [hRows, hLine]
    rfl
  · rw [hNone] at hRows
    rw [hNone, List.map_nil, eq_comm, List.map_eq_nil_iff]
    exact hRows.symm

end Connection.AnswersFrom

namespace Snapshot

/-- The lines of a snapshot before its first row. -/
theorem lines_of_start {c : Snapshot} (h : c.position = none) :
    (Cursor.snapshot c).lines = c.rows.map (Rows.cellIn c.columns) := by
  rw [Cursor.lines, Rows.left, Rows.upcoming, h, List.drop_zero]

theorem lines_eq_nil_iff {c : Snapshot} (h : c.position = none) :
    (Cursor.snapshot c).lines = [] ↔ c.rows = [] := by
  rw [lines_of_start h, List.map_eq_nil_iff]

end Snapshot

namespace RelationQuery

variable {q : RelationQuery} {db : Connection} {all : Source}

/-- A snapshot before its first row has collected the lines, with the columns of the related rows
if there are any. -/
structure Collected (all : Source) (lines : List Line) (rows : Snapshot) : Prop where
  position : rows.position = none
  columns : rows.rows = [] ∨ rows.columns = all.columns
  lines : List.Forall₂ (Line.SameBelow all.columns.length) lines (Cursor.snapshot rows).lines

namespace Collected

variable {lines more : List Line} {rows added : Snapshot}

theorem eq_nil_iff (h : Collected all lines rows) : lines = [] ↔ rows.rows = [] := by
  rw [← Snapshot.lines_eq_nil_iff h.position, ← List.length_eq_zero_iff, h.lines.length_eq,
    List.length_eq_zero_iff]

theorem empty (all : Source) : Collected all [] (Rows.ofRows [] []) :=
  ⟨rfl, Or.inl rfl, List.Forall₂.nil⟩

/-- Joined rows have collected the lines of both sides. -/
theorem append (h : Collected all lines rows) (hMore : Collected all more added)
    (hRows : rows.rows ≠ []) (hAdded : added.rows ≠ []) :
    Collected all (lines ++ more) { rows with rows := rows.rows ++ added.rows } := by
  have hColumns := h.columns.resolve_left hRows
  have hAddedColumns := hMore.columns.resolve_left hAdded
  refine ⟨h.position, Or.inr hColumns, ?_⟩
  have hLines := h.lines
  have hAddedLines := hMore.lines
  have hStart : (⟨rows.columns, rows.rows ++ added.rows, rows.position⟩ : Snapshot).position =
      none := h.position
  rw [Snapshot.lines_of_start h.position, hColumns] at hLines
  rw [Snapshot.lines_of_start hMore.position, hAddedColumns] at hAddedLines
  rw [Snapshot.lines_of_start hStart, List.map_append, hColumns]
  exact List.rel_append hLines hAddedLines

end Collected

/-- The copy of an answer has collected the lines that belong to its keys. -/
theorem Answered.collected {keys : List Key} {answer : Source} {copied : Snapshot}
    (h : q.Answered db keys answer copied) (hAnswers : db.AnswersFrom q all) :
    Collected all (all.linesWith keys) copied := by
  obtain ⟨earlier, hSent⟩ := h.sent
  obtain ⟨hColumns, hPosition, hLines⟩ := Source.copy_ok h.copy
  rw [hAnswers.lines hSent] at hLines
  rcases hAnswers.columns earlier keys answer hSent with hSame | ⟨hNone, -⟩
  · rw [hSame] at hColumns hLines
    exact ⟨hPosition, Or.inr hColumns, hLines⟩
  · have hEmpty : all.linesWith keys = [] := by
      rw [← hAnswers.lines hSent, Source.lines_eq, hNone, List.map_nil]
    rw [hEmpty] at hLines ⊢
    have hNil := List.forall₂_nil_left_iff.mp hLines
    refine ⟨hPosition, Or.inl ((Snapshot.lines_eq_nil_iff hPosition).mp hNil), ?_⟩
    rw [hNil]
    exact List.Forall₂.nil

/-- A fetch collects the lines of its keys, piece by piece. -/
theorem fetch_collects (hAnswers : db.AnswersFrom q all) (keys : List Key) :
    (q.fetch db keys).Ensures
      (Collected all ((chunks maxBindParameters keys).flatMap all.linesWith)) := by
  let Inv (done : List (List Key)) (joined : Option Snapshot) : Prop :=
    Collected all (done.flatMap all.linesWith) (joined.getD (Rows.ofRows [] []))
  have hStep (done : List (List Key)) (chunk : List Key) (earlier : Option Snapshot)
      (answer : Source) (copied joined : Snapshot) (_ : chunk ∈ chunks maxBindParameters keys)
      (hInv : Inv done earlier) (hAnswered : q.Answered db chunk answer copied)
      (hJoined : joinAnswer earlier copied = .ok joined) : Inv (done ++ [chunk]) (some joined) := by
    have hCopied := hAnswered.collected hAnswers
    have hSplit : (done ++ [chunk]).flatMap all.linesWith =
        done.flatMap all.linesWith ++ all.linesWith chunk := by
      rw [List.flatMap_append, List.flatMap_singleton]
    change Collected all ((done ++ [chunk]).flatMap all.linesWith) joined
    rw [hSplit]
    cases earlier with
    | none =>
        cases hJoined
        rw [hInv.eq_nil_iff.mpr rfl]
        exact hCopied
    | some rows =>
        rcases joinAnswer_ok hJoined with ⟨hNone, rfl⟩ | ⟨hNone, rfl⟩ | ⟨hAdded, hRows, rfl⟩
        · rw [hCopied.eq_nil_iff.mpr hNone, List.append_nil]
          exact hInv
        · rw [hInv.eq_nil_iff.mpr hNone]
          exact hCopied
        · exact hInv.append hCopied hRows hAdded
  refine (fetch_ensures (Collected.empty all) hStep).mono fun rows hRows => ?_
  obtain ⟨joined, hInv, rfl⟩ := hRows
  exact hInv

end RelationQuery

end TypedQuery
