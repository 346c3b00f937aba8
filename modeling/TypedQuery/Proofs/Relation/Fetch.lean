import TypedQuery.Proofs.Cursor.Lines
import TypedQuery.Proofs.Session

namespace TypedQuery

section Chunks

variable {α β : Type} {size : Nat}

theorem chunks_nil : chunks size ([] : List α) = [] := by
  simp [chunks]

theorem chunks_of_ne_nil {xs : List α} (hSize : 0 < size) (h : xs ≠ []) :
    chunks size xs = xs.take size :: chunks size (xs.drop size) := by
  rw [chunks, if_neg]
  simp only [List.isEmpty_iff, not_or]
  exact ⟨h, Nat.ne_of_gt hSize⟩

/-- Nothing is lost between the pieces, and nothing stands in two of them. -/
theorem flatten_chunks (hSize : 0 < size) (xs : List α) : (chunks size xs).flatten = xs := by
  fun_induction chunks size xs with
  | case1 xs hEnd =>
      rcases hEnd with hEmpty | hZero
      · exact (List.isEmpty_iff.mp hEmpty).symm
      · exact absurd hZero (Nat.ne_of_gt hSize)
  | case2 xs _ ih => rw [List.flatten_cons, ih, List.take_append_drop]

theorem chunks_map (hSize : 0 < size) (f : α → β) (xs : List α) :
    chunks size (xs.map f) = (chunks size xs).map (List.map f) := by
  fun_induction chunks size xs with
  | case1 xs hEnd =>
      rcases hEnd with hEmpty | hZero
      · rw [List.isEmpty_iff.mp hEmpty]
        exact chunks_nil
      · exact absurd hZero (Nat.ne_of_gt hSize)
  | case2 xs hMore ih =>
      have hCons : xs.map f ≠ [] := by
        rintro hNil
        exact hMore (Or.inl (List.isEmpty_iff.mpr (List.map_eq_nil_iff.mp hNil)))
      rw [chunks_of_ne_nil hSize hCons, List.map_cons, List.map_take, ← List.map_drop, ih]

/-- All pieces are full but perhaps the last, and none is empty. -/
theorem chunks_full {xs last : List α} {front : List (List α)}
    (h : chunks size xs = front ++ [last]) :
    (∀ piece ∈ front, piece.length = size) ∧ 0 < last.length ∧ last.length ≤ size := by
  induction hChunks : chunks size xs generalizing xs front with
  | nil =>
      rw [hChunks] at h
      simp at h
  | cons piece pieces ih =>
      have hMore : ¬ (xs.isEmpty ∨ size = 0) := by
        intro hEnd
        rw [chunks, if_pos hEnd] at hChunks
        cases hChunks
      have hSome : xs ≠ [] ∧ size ≠ 0 := by simpa using hMore
      have hPositive := List.length_pos_iff.mpr hSome.1
      rw [chunks, if_neg hMore, List.cons.injEq] at hChunks
      obtain ⟨rfl, hRest⟩ := hChunks
      rw [chunks, if_neg hMore] at h
      cases front with
      | nil =>
          obtain ⟨rfl, -⟩ := List.cons.inj h
          rw [List.length_take]
          exact ⟨nofun, by omega, by omega⟩
      | cons first others =>
          obtain ⟨rfl, hOthers⟩ := List.cons.inj h
          obtain ⟨hFull, hLast⟩ := ih hOthers hRest
          have hLeft : xs.drop size ≠ [] := by
            intro hNone
            rw [hNone, chunks_nil] at hOthers
            simp at hOthers
          have hLong : size < xs.length := by
            simpa [List.drop_eq_nil_iff] using hLeft
          refine ⟨List.forall_mem_cons.mpr ⟨?_, hFull⟩, hLast⟩
          rw [List.length_take]
          omega

theorem length_of_mem_chunks {xs piece : List α} (h : piece ∈ chunks size xs) :
    0 < piece.length ∧ piece.length ≤ size := by
  fun_induction chunks size xs with
  | case1 xs _ => cases h
  | case2 xs hMore ih =>
      rcases List.mem_cons.mp h with rfl | hLater
      · have hPositive : 0 < xs.length := List.length_pos_iff.mpr (by simp_all)
        rw [List.length_take]
        omega
      · exact ih hLater

/-- As many pieces as are needed. -/
theorem length_chunks (hSize : 0 < size) (xs : List α) :
    (chunks size xs).length = (xs.length + size - 1) / size := by
  fun_induction chunks size xs with
  | case1 xs hEnd =>
      obtain rfl := List.isEmpty_iff.mp (hEnd.resolve_right (Nat.ne_of_gt hSize))
      rw [List.length_nil, List.length_nil, Nat.zero_add]
      exact (Nat.div_eq_of_lt (Nat.sub_lt hSize Nat.one_pos)).symm
  | case2 xs hMore ih =>
      have hPositive : 0 < xs.length := List.length_pos_iff.mpr (by simp_all)
      rw [List.length_cons, ih, List.length_drop]
      rcases Nat.lt_or_ge xs.length size with hShort | hLong
      · rw [Nat.sub_eq_zero_of_le (Nat.le_of_lt hShort), Nat.zero_add,
          Nat.div_eq_of_lt (Nat.sub_lt hSize Nat.one_pos)]
        exact (Nat.div_eq_of_lt_le (by omega) (by omega)).symm
      · rw [Nat.sub_add_cancel hLong, ← Nat.add_div_right _ hSize]
        congr 1
        omega

end Chunks

namespace Snapshot

/-- A row is added behind the others, if it is as wide as the columns. -/
theorem push_run (row : List Value) (c : Snapshot) :
    (push row).run.run c =
      if row.length = c.columns.length then (.ok (), { c with rows := c.rows ++ [row] })
      else (.error (.rowWidth c.columns.length row.length), c) := by
  by_cases hWidth : row.length = c.columns.length
  · simp only [hWidth, ↓reduceIte]
    change (if row.length = c.columns.length then _ else _ : Edit Unit).run.run c = _
    rw [if_pos hWidth]
    rfl
  · simp only [hWidth, ↓reduceIte]
    change (if row.length = c.columns.length then _ else _ : Edit Unit).run.run c = _
    rw [if_neg hWidth]
    rfl

theorem pushAll_ok {rows : List (List Value)} {c joined : Snapshot}
    (h : (pushAll rows).run.run c = (.ok (), joined)) :
    joined = { c with rows := c.rows ++ rows } := by
  induction rows generalizing c with
  | nil =>
      cases h
      rw [List.append_nil]
  | cons row rows ih =>
      change (ExceptT.bindCont (fun _ => pushAll rows) ((push row).run.run c).1).run
        ((push row).run.run c).2 = _ at h
      rw [push_run] at h
      by_cases hWidth : row.length = c.columns.length
      · rw [if_pos hWidth] at h
        rw [ih h]
        simp
      · rw [if_neg hWidth] at h
        cases h

end Snapshot

namespace RelationQuery

/-- Later rows stand behind earlier ones. Where one side is empty, the other one is all there is. -/
theorem joinAnswer_ok {earlier answer joined : Snapshot}
    (h : joinAnswer (some earlier) answer = .ok joined) :
    (answer.rows = [] ∧ joined = earlier) ∨ (earlier.rows = [] ∧ joined = answer) ∨
      (answer.rows ≠ [] ∧ earlier.rows ≠ [] ∧
        joined = { earlier with rows := earlier.rows ++ answer.rows }) := by
  rw [joinAnswer] at h
  by_cases hAnswer : answer.rows = []
  · rw [if_pos (List.isEmpty_iff.mpr hAnswer)] at h
    exact Or.inl ⟨hAnswer, (Except.ok.inj h).symm⟩
  · rw [if_neg (fun hEmpty => hAnswer (List.isEmpty_iff.mp hEmpty))] at h
    by_cases hEarlier : earlier.rows = []
    · rw [if_pos (List.isEmpty_iff.mpr hEarlier)] at h
      exact Or.inr (Or.inl ⟨hEarlier, (Except.ok.inj h).symm⟩)
    · rw [if_neg (fun hEmpty => hEarlier (List.isEmpty_iff.mp hEmpty))] at h
      rcases hRun : (Snapshot.append answer).run earlier with ⟨_ | _, result⟩
      · rw [hRun] at h
        cases h
      · rw [hRun] at h
        cases h
        exact Or.inr (Or.inr ⟨hAnswer, hEarlier, Snapshot.pushAll_ok hRun⟩)

variable {q : RelationQuery} {db : Connection}

/-- An answer that was given for a piece of the keys, and its copy. -/
structure Answered (q : RelationQuery) (db : Connection) (keys : List Key) (answer : Source)
    (copied : Snapshot) : Prop where
  sent : ∃ earlier, db.answer earlier ⟨q.sql db keys.length, keys.map Key.toValue⟩ = .ok answer
  copy : answer.copy.1 = .ok copied

theorem fetchChunk_ensures (keys : List Key) :
    (q.fetchChunk db (keys.map Key.toValue)).Ensures fun copied =>
      ∃ answer, q.Answered db keys answer copied := by
  rw [fetchChunk, List.length_map]
  refine (db.query_ensures _ _).bind fun answer hSent => ?_
  exact Session.ensures_liftM.mono fun copied hCopy => ⟨answer, hSent, hCopy⟩

/-- What holds after each piece of the keys holds of all that is fetched. -/
theorem fetch_ensures {keys : List Key} {Inv : List (List Key) → Option Snapshot → Prop}
    (hInit : Inv [] none)
    (hStep : ∀ done chunk earlier answer copied joined, chunk ∈ chunks maxBindParameters keys →
      Inv done earlier → q.Answered db chunk answer copied →
      joinAnswer earlier copied = .ok joined → Inv (done ++ [chunk]) (some joined)) :
    (q.fetch db keys).Ensures fun rows => ∃ joined,
      Inv (chunks maxBindParameters keys) joined ∧ rows = joined.getD (Rows.ofRows [] []) := by
  rw [fetch, chunks_map (by decide), List.foldlM_map]
  have hScan (step : Option Snapshot → List Key → Session (Option Snapshot))
      (h : ∀ done chunk earlier, chunk ∈ chunks maxBindParameters keys → Inv done earlier →
        (step earlier chunk).Ensures (Inv (done ++ [chunk]))) :
      ((chunks maxBindParameters keys).foldlM step none).Ensures
        (Inv ([] ++ chunks maxBindParameters keys)) := Session.Ensures.foldlM hInit h
  refine (hScan _ fun done chunk earlier hChunk hInv => ?_).bind fun joined hInv =>
    Session.Ensures.pure ⟨joined, hInv, rfl⟩
  refine located_ensures q ((fetchChunk_ensures chunk).bind fun copied hAnswered => ?_)
  obtain ⟨answer, hAnswered⟩ := hAnswered
  refine Session.ensures_liftM.bind fun joined hJoined => Session.Ensures.pure ?_
  exact hStep done chunk earlier answer copied joined hChunk hInv hAnswered hJoined

/-- Fetched rows start before the first one. -/
theorem fetch_position (q : RelationQuery) (db : Connection) (keys : List Key) :
    (q.fetch db keys).Ensures fun rows => rows.position = none := by
  let Inv (_ : List (List Key)) (joined : Option Snapshot) : Prop :=
    ∀ rows, joined = some rows → rows.position = none
  have hStep (done : List (List Key)) (chunk : List Key) (earlier : Option Snapshot)
      (answer : Source) (copied joined : Snapshot) (_ : chunk ∈ chunks maxBindParameters keys)
      (hInv : Inv done earlier) (hAnswered : q.Answered db chunk answer copied)
      (hJoined : joinAnswer earlier copied = .ok joined) : Inv (done ++ [chunk]) (some joined) := by
    rintro _ ⟨⟩
    obtain ⟨-, hCopied, -⟩ := Source.copy_ok hAnswered.copy
    cases earlier with
    | none =>
        cases hJoined
        exact hCopied
    | some rows =>
        rcases joinAnswer_ok hJoined with ⟨-, rfl⟩ | ⟨-, rfl⟩ | ⟨-, -, rfl⟩
        · exact hInv _ rfl
        · exact hCopied
        · exact hInv rows rfl
  have hInit : Inv [] none := fun _ h => nomatch h
  refine (fetch_ensures hInit hStep).mono fun rows hRows => ?_
  obtain ⟨joined, hInv, rfl⟩ := hRows
  cases joined with
  | none => rfl
  | some rows => exact hInv rows rfl

end RelationQuery

end TypedQuery
