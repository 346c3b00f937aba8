import TypedQuery.Example.Authors
import TypedQuery.Proofs.Cursor.Copies

/-! Rows of one width. However a snapshot came about, all its rows are as wide as its columns. So on
a row exactly the indices of the columns can be read, and the rows of another snapshot are added
all or not at all although they are added one by one. -/

namespace TypedQuery

/-- A kind of cursor: what can be asked of its states, and how they move. -/
structure Traversal (σ : Type) where
  columns : σ → List String
  next : σ → Bool × σ
  value : σ → Nat → Except DataError Value

namespace Traversal

variable {σ : Type}

/-- How copying ends. It goes on while moves find rows, and reads as many values of each row as
there were columns at first; a value that cannot be read stops it. -/
inductive Copies (t : Traversal σ) (columns : List String) :
    List (List Value) → σ → Except DataError Snapshot → σ → Prop where
  | finished {read : List (List Value)} {s s' : σ} (hNext : t.next s = (false, s')) :
      Copies t columns read s (.ok (Rows.ofRows columns read)) s'
  | row {read : List (List Value)} {s s' last : σ} {row : List Value}
      {result : Except DataError Snapshot} (hNext : t.next s = (true, s'))
      (hRow : (List.range columns.length).mapM (t.value s') = .ok row)
      (hRest : Copies t columns (read ++ [row]) s' result last) :
      Copies t columns read s result last
  | failed {read : List (List Value)} {s s' : σ} {e : DataError} (hNext : t.next s = (true, s'))
      (hRow : (List.range columns.length).mapM (t.value s') = .error e) :
      Copies t columns read s (.error e) s'

/-- Whatever the cursor answers, the rows of a copy are as wide as its columns. -/
theorem Copies.rectangular {t : Traversal σ} {columns : List String} {read : List (List Value)}
    {s last : σ} {copied : Snapshot} (h : t.Copies columns read s (.ok copied) last)
    (hRead : ∀ row ∈ read, row.length = columns.length) : copied.Rectangular := by
  generalize hResult : Except.ok copied = result at h
  induction h with
  | finished =>
      cases hResult
      exact hRead
  | @row read s s' last row result _ hRow _ ih =>
      refine ih (fun row hMem => ?_) hResult
      rcases List.mem_append.mp hMem with hOld | hNew
      · exact hRead row hOld
      · rw [List.mem_singleton.mp hNew, ← (mapM_eq_ok_iff.mp hRow).length_eq, List.length_range]
  | failed => cases hResult

/-- The answers of queries. -/
def answer : Traversal Source := ⟨Rows.columns, Rows.next, Source.value⟩

/-- The copy of an answer is a copy in this sense, with the same end. -/
theorem copies_answer (c : Source) : answer.Copies c.columns [] c c.copy.1 c.copy.2 := by
  have hRest (count : Nat) (read : List (List Value)) (c : Source) (hCount : c.remaining = count) :
      answer.Copies c.columns read c (c.copyRest count read).1 (c.copyRest count read).2 := by
    induction count generalizing read c with
    | zero =>
        rw [← Rows.left_length, List.length_eq_zero_iff] at hCount
        refine .finished (?_ : c.next = (false, c.next.2))
        rw [Rows.next_of_left_nil hCount]
    | succ count ih =>
        rw [← Rows.left_length] at hCount
        obtain ⟨row, rest, hLeft⟩ := List.exists_cons_of_length_eq_add_one hCount
        obtain ⟨hNext, hLater, -⟩ := Rows.next_of_left_cons hLeft
        have hRemaining : (c.seek (some c.upcoming)).remaining = count := by
          rw [← Rows.left_length, hLater]
          rw [hLeft, List.length_cons] at hCount
          omega
        rw [Source.copyRest, hNext]
        dsimp only
        cases hValues : Source.values (c.seek (some c.upcoming)) with
        | error e => exact .failed hNext hValues
        | ok values => exact .row hNext hValues (ih _ _ hRemaining)
  exact hRest _ [] c rfl

end Traversal

namespace RelationQuery

/-- A new answer is left out, takes the place of the earlier ones, or is appended to them. -/
theorem joinAnswer_cases {earlier answer joined : Snapshot}
    (h : joinAnswer (some earlier) answer = .ok joined) :
    joined = earlier ∨ joined = answer ∨ joined = earlier.perform (.append answer) := by
  rw [joinAnswer] at h
  split at h
  · exact Or.inl (Except.ok.inj h).symm
  · split at h
    · exact Or.inr (Or.inl (Except.ok.inj h).symm)
    · split at h
      · rename_i hRun
        rw [← Except.ok.inj h]
        exact Or.inr (Or.inr (congrArg Prod.snd hRun).symm)
      · cases h

/-- Fetched rows are as wide as their columns, whatever the widths of the answers were. -/
theorem fetch_rectangular (q : RelationQuery) (db : Connection) (keys : List Key) :
    (q.fetch db keys).Ensures Snapshot.Rectangular := by
  let Inv (_ : List (List Key)) (joined : Option Snapshot) : Prop :=
    ∀ rows ∈ joined, Snapshot.Rectangular rows
  have hStep (done : List (List Key)) (chunk : List Key) (earlier : Option Snapshot)
      (answer : Source) (copied joined : Snapshot) (_ : chunk ∈ chunks maxBindParameters keys)
      (hInv : Inv done earlier) (hAnswered : q.Answered db chunk answer copied)
      (hJoined : joinAnswer earlier copied = .ok joined) : Inv (done ++ [chunk]) (some joined) := by
    rintro _ ⟨⟩
    have hCopied := Snapshot.rectangular_of_copy hAnswered.copy
    cases earlier with
    | none =>
        cases hJoined
        exact hCopied
    | some rows =>
        rcases joinAnswer_cases hJoined with rfl | rfl | rfl
        · exact hInv _ rfl
        · exact hCopied
        · exact (hInv rows rfl).perform _
  have hInit : Inv [] none := fun _ h => nomatch h
  refine (fetch_ensures hInit hStep).mono fun rows hRows => ?_
  obtain ⟨joined, hInv, rfl⟩ := hRows
  cases joined with
  | none => exact nofun
  | some rows => exact hInv rows rfl

end RelationQuery

namespace Snapshot

/-- The snapshots that there can be: new ones, also without columns, those made of given rows,
copies of cursors of any kind, fetched rows, and what becomes of them by calls that succeed or
fail. Rows are added from other such snapshots. -/
inductive Produced : Snapshot → Prop where
  | new (columns : List String) : Produced (Rows.ofRows columns [])
  | build {columns : List String} {rows : List (List Value)} {c : Snapshot}
      (made : build columns rows = .ok c) : Produced c
  | copy {σ : Type} {t : Traversal σ} {s last : σ} {c : Snapshot}
      (made : t.Copies (t.columns s) [] s (.ok c) last) : Produced c
  | fetch {q : RelationQuery} {db : Connection} {keys : List Key} {calls sent : List Call}
      {c : Snapshot} (made : (q.fetch db keys).after calls = (.ok c, sent)) : Produced c
  | next {c : Snapshot} (prior : Produced c) : Produced (c.perform .next)
  | reset {c : Snapshot} (prior : Produced c) : Produced (c.perform .reset)
  | copied {c d : Snapshot} (prior : Produced c)
      (left : (Cursor.snapshot c).copy.2 = .snapshot d) : Produced d
  | push {c : Snapshot} (prior : Produced c) (row : List Value) : Produced (c.perform (.push row))
  | append {c other : Snapshot} (prior : Produced c) (priorOther : Produced other) :
      Produced (c.perform (.append other))

/-- The copy of an answer is one of them. -/
theorem Produced.of_answer {answer : Source} {c : Snapshot} (h : answer.copy.1 = .ok c) :
    c.Produced := by
  have hCopies := Traversal.copies_answer answer
  rw [h] at hCopies
  exact .copy hCopies

theorem rectangular_of_build {columns : List String} {rows : List (List Value)} {c : Snapshot}
    (h : build columns rows = .ok c) : c.Rectangular := by
  have hNew : Rectangular (Rows.ofRows columns []) := nofun
  have hFilled : Rectangular ((pushAll rows).run (Rows.ofRows columns [])).2 :=
    hNew.perform (.append (Rows.ofRows columns rows))
  rw [build] at h
  split at h
  · rename_i hRun
    cases h
    rwa [hRun] at hFilled
  · cases h

theorem Produced.rectangular {c : Snapshot} (h : c.Produced) : c.Rectangular := by
  induction h with
  | new => exact nofun
  | build made => exact rectangular_of_build made
  | copy made => exact made.rectangular nofun
  | @fetch q db keys calls sent c made => exact q.fetch_rectangular db keys calls c sent made
  | next prior ih => exact ih.perform _
  | reset prior ih => exact ih.perform _
  | copied prior left ih =>
      cases left
      exact ih
  | push prior row ih => exact ih.perform _
  | append prior _ ih _ => exact ih.perform _

/-- On a row the values below the width of the columns can be read, and no others. -/
theorem Rectangular.value_iff {c : Snapshot} (h : c.Rectangular) {row : List Value}
    (hRow : c.row? = some row) (index : Nat) :
    (index < c.columns.length → ∃ v, row[index]? = some v ∧ c.value index = .ok v) ∧
      (c.columns.length ≤ index →
        c.value index = .error (.columnIndex index c.columns.length)) := by
  obtain ⟨position, -, hAt⟩ := Option.bind_eq_some_iff.mp hRow
  have hWidth : row.length = c.columns.length := h row (List.mem_of_getElem? hAt)
  have hValue : c.value index = Rows.cellIn c.columns row index := by
    rw [value, Rows.cell, hRow]
    rfl
  rw [hValue, Rows.cellIn]
  constructor
  · intro hIndex
    have hFound : row[index]? = some row[index] := List.getElem?_eq_getElem (by omega)
    exact ⟨_, hFound, by rw [hFound]⟩
  · intro hIndex
    rw [List.getElem?_eq_none (by omega)]

/-- The change adds some rows of this width behind the others if they fit, and otherwise it fails
and leaves columns, rows and position as they were. -/
def AddsWhole (change : Edit Unit) (rows : List (List Value)) (width : Nat) (c : Snapshot) : Prop :=
  change.run.run c =
    if rows = [] ∨ width = c.columns.length then (.ok (), { c with rows := c.rows ++ rows })
    else (.error (.rowWidth c.columns.length width), c)

/-- However a snapshot came about, its rows are as wide as its columns. So on a row a value is read
exactly at the indices of the columns, and a row, or the rows of another such snapshot, are added
all or not at all. -/
theorem Produced.rows_whole {c : Snapshot} (h : c.Produced) :
    (∀ row ∈ c.rows, row.length = c.columns.length) ∧
      (∀ row, c.row? = some row → ∀ index,
        (index < c.columns.length → ∃ v, row[index]? = some v ∧ c.value index = .ok v) ∧
        (c.columns.length ≤ index →
          c.value index = .error (.columnIndex index c.columns.length))) ∧
      (∀ row, AddsWhole (Snapshot.push row) [row] row.length c) ∧
      ∀ other : Snapshot, other.Produced →
        AddsWhole (Snapshot.append other) other.rows other.columns.length c := by
  refine ⟨h.rectangular, fun row hRow => h.rectangular.value_iff hRow, fun row => ?_,
    fun other hOther => pushAll_run hOther.rectangular c⟩
  rw [AddsWhole, push_run]
  simp only [List.cons_ne_nil, false_or]

/-- A snapshot of titles refuses books of two columns and keeps none of them, but takes its own
titles once more. -/
theorem titles_rows_whole :
    let c := (perform (Rows.ofRows ["title"] []) (.push [.text "Emma"])).perform .next
    ∃ books : Snapshot, Example.bookRows.copy.1 = .ok books ∧ c.Produced ∧ books.Produced ∧
      c.row? = some [.text "Emma"] ∧ c.value 0 = .ok (.text "Emma") ∧
      c.value 1 = .error (.columnIndex 1 1) ∧
      (append books).run.run c = (.error (.rowWidth 1 2), c) ∧
      (append c).run.run c =
        (.ok (), { c with rows := [[.text "Emma"], [.text "Emma"]] }) := by
  intro c
  have hTitles : c.Produced := ((Produced.new ["title"]).push [.text "Emma"]).next
  refine ⟨_, rfl, hTitles, ?_⟩
  have hBooks := @Produced.of_answer Example.bookRows _ rfl
  obtain ⟨-, hValue, -, hAppend⟩ := hTitles.rows_whole
  obtain ⟨v, hFound, hRead⟩ := (hValue [.text "Emma"] rfl 0).1 (by decide)
  cases hFound
  exact ⟨hBooks, rfl, hRead, (hValue _ rfl 1).2 (by decide), hAppend _ hBooks, hAppend _ hTitles⟩

end Snapshot

end TypedQuery
