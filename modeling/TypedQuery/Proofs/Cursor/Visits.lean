import TypedQuery.Proofs.Relation.Fetch

/-! Going over the rows of a snapshot that may grow meanwhile. A move that meets the end leaves the
snapshot at the number of its rows, and that is where the next row to be added will stand. So rows
are met in order and none is left out as long as no row is added after the end was met, and
otherwise exactly the rows that were added at such places are passed over. -/

namespace TypedQuery

namespace Snapshot

/-- A call that moves a snapshot or adds rows to it. -/
inductive Operation where
  | next
  | reset
  | push (row : List Value)
  | append (other : Snapshot)

/-- The snapshot after a call. A change that fails keeps what it had done before. -/
def perform (c : Snapshot) : Operation → Snapshot
  | .next => c.next.2
  | .reset => c.reset
  | .push row => ((push row).run.run c).2
  | .append other => ((append other).run.run c).2

/-- Added rows stand behind those that were there, and are as wide as the columns. -/
theorem push_grows (row : List Value) (c : Snapshot) :
    ∃ more, (∀ new ∈ more, new.length = c.columns.length) ∧
      ((push row).run.run c).2 = { c with rows := c.rows ++ more } := by
  rw [push_run]
  by_cases hWidth : row.length = c.columns.length
  · exact ⟨[row], by simpa using hWidth, by rw [if_pos hWidth]⟩
  · exact ⟨[], nofun, by rw [if_neg hWidth, List.append_nil]⟩

/-- Rows are added behind the others, even if one of them is refused. -/
theorem pushAll_grows (rows : List (List Value)) (c : Snapshot) :
    ∃ more, (∀ new ∈ more, new.length = c.columns.length) ∧
      ((pushAll rows).run.run c).2 = { c with rows := c.rows ++ more } := by
  induction rows generalizing c with
  | nil => exact ⟨[], nofun, by rw [List.append_nil]; rfl⟩
  | cons row rows ih =>
      have hRun : (pushAll (row :: rows)).run.run c =
          (ExceptT.bindCont (fun _ => pushAll rows) ((push row).run.run c).1).run
            ((push row).run.run c).2 := rfl
      rw [hRun, push_run]
      by_cases hWidth : row.length = c.columns.length
      · obtain ⟨more, hWidths, hMore⟩ := ih { c with rows := c.rows ++ [row] }
        refine ⟨row :: more, List.forall_mem_cons.mpr ⟨hWidth, hWidths⟩, ?_⟩
        rw [if_pos hWidth]
        rw [List.append_assoc] at hMore
        exact hMore
      · exact ⟨[], nofun, by rw [if_neg hWidth, List.append_nil]; rfl⟩

/-- Rows are only ever added behind the others, also where adding them fails. -/
theorem perform_grows (c : Snapshot) (call : Operation) :
    ∃ more position, (∀ new ∈ more, new.length = c.columns.length) ∧
      c.perform call = { c with rows := c.rows ++ more, position } := by
  cases call with
  | next =>
      rcases hNext : c.next with ⟨found, moved⟩
      refine ⟨[], moved.position, nofun, ?_⟩
      rw [perform, hNext, List.append_nil]
      rw [Rows.next] at hNext
      split at hNext <;> cases hNext <;> rfl
  | reset => exact ⟨[], none, nofun, by rw [List.append_nil]; rfl⟩
  | push row =>
      obtain ⟨more, hWidths, hMore⟩ := push_grows row c
      exact ⟨more, c.position, hWidths, hMore⟩
  | append other =>
      obtain ⟨more, hWidths, hMore⟩ := pushAll_grows other.rows c
      exact ⟨more, c.position, hWidths, hMore⟩

/-- A snapshot together with what was seen of it. -/
structure Tour where
  cursor : Snapshot
  /-- The rows after the moves that found one, since the start or the last reset. -/
  seen : List (List Value)
  /-- The numbers of rows at the moves that met the end since then, the latest first. -/
  ends : List Nat
  /-- The latest of start, reset and moves was a move that found a row. -/
  onRow : Bool

namespace Tour

def start (c : Snapshot) : Tour := ⟨c, [], [], false⟩

def step (t : Tour) : Operation → Tour
  | .next =>
    match t.cursor.next with
    | (true, c) => ⟨c, t.seen ++ c.row?.toList, t.ends, true⟩
    | (false, c) => ⟨c, t.seen, t.cursor.rows.length :: t.ends, false⟩
  | .reset => start t.cursor.reset
  | .push row => { t with cursor := t.cursor.perform (.push row) }
  | .append other => { t with cursor := t.cursor.perform (.append other) }

def after (t : Tour) (calls : List Operation) : Tour := calls.foldl step t

/-- A tour only watches. -/
theorem after_cursor (t : Tour) (calls : List Operation) :
    (t.after calls).cursor = calls.foldl perform t.cursor := by
  have hStep (t : Tour) (call : Operation) : (t.step call).cursor = t.cursor.perform call := by
    cases call with
    | next =>
        rw [step, perform]
        rcases t.cursor.next with ⟨_ | _, c⟩ <;> rfl
    | reset | push | append => rfl
  induction calls generalizing t with
  | nil => rfl
  | cons call calls ih => exact (ih (t.step call)).trans (by rw [hStep, List.foldl_cons])

/-- The rows below an index, but for those that stand where the end was met. -/
def rowsBelow (t : Tour) (count : Nat) : List (List Value) :=
  (List.range count).filterMap fun i => if i ∈ t.ends then none else t.cursor.rows[i]?

/-- One place more adds its row, unless an end was met there. -/
theorem rowsBelow_succ (t : Tour) (count : Nat) : t.rowsBelow (count + 1) =
    t.rowsBelow count ++ (if count ∈ t.ends then none else t.cursor.rows[count]?).toList := by
  rw [rowsBelow, List.range_succ, List.filterMap_append, rowsBelow]
  refine congrArg _ ?_
  rw [List.filterMap_cons]
  cases (if count ∈ t.ends then none else t.cursor.rows[count]?) <;> rfl

/-- What every call preserves. -/
structure Sound (t : Tour) : Prop where
  seen : t.seen = t.rowsBelow t.cursor.upcoming
  ended : ∀ n ∈ t.ends, n ≤ t.cursor.rows.length ∧ n < t.cursor.upcoming
  bounded : ∀ i < t.cursor.upcoming, i ∈ t.ends ∨ i < t.cursor.rows.length
  position : t.onRow = false → t.cursor.position = t.ends.head?

theorem Sound.start {c : Snapshot} (h : c.position = none) : (start c).Sound := by
  have hUpcoming : c.upcoming = 0 := by rw [Rows.upcoming, h]
  refine ⟨?_, nofun, ?_, fun _ => h⟩
  · simp [Tour.start, rowsBelow, hUpcoming]
  · intro i hi
    rw [Tour.start, hUpcoming] at hi
    exact absurd hi (Nat.not_lt_zero i)

variable {t : Tour}

/-- Rows behind the last one do not change what has been seen. -/
theorem Sound.grow (h : t.Sound) (more : List (List Value)) :
    Sound { t with cursor := { t.cursor with rows := t.cursor.rows ++ more } } := by
  refine ⟨?_, ?_, ?_, h.position⟩
  · rw [h.seen, rowsBelow, rowsBelow]
    refine List.filterMap_congr fun i hi => ?_
    rcases h.bounded i (List.mem_range.mp hi) with hEnd | hRow
    · rw [if_pos hEnd, if_pos hEnd]
    · rw [List.getElem?_append_left hRow]
  · intro n hn
    have hLength := (h.ended n hn).1
    exact ⟨by rw [List.length_append]; omega, (h.ended n hn).2⟩
  · intro i hi
    rcases h.bounded i hi with hEnd | hRow
    · exact Or.inl hEnd
    · exact Or.inr (by rw [List.length_append]; omega)

/-- A move to a row sees the row at the upcoming index. -/
theorem Sound.found (h : t.Sound) (hMore : t.cursor.upcoming < t.cursor.rows.length) :
    Sound ⟨t.cursor.seek (some t.cursor.upcoming),
      t.seen ++ (t.cursor.rows[t.cursor.upcoming]?).toList, t.ends, true⟩ := by
  have hNew : t.cursor.upcoming ∉ t.ends := fun hEnd => Nat.lt_irrefl _ (h.ended _ hEnd).2
  refine ⟨?_, ?_, ?_, nofun⟩
  · refine .trans ?_ (rowsBelow_succ _ t.cursor.upcoming).symm
    rw [if_neg hNew, h.seen]
    rfl
  · intro n hn
    exact ⟨(h.ended n hn).1, Nat.lt_succ_of_lt (h.ended n hn).2⟩
  · intro i hi
    rcases Nat.lt_succ_iff_lt_or_eq.mp hi with hBefore | rfl
    · exact h.bounded i hBefore
    · exact Or.inr hMore

/-- There are no rows from their number on. -/
theorem rowsBelow_of_length_le {count : Nat} (h : t.cursor.rows.length ≤ count) :
    t.rowsBelow count = t.rowsBelow t.cursor.rows.length := by
  obtain ⟨more, rfl⟩ := Nat.exists_eq_add_of_le h
  rw [rowsBelow, List.range_add, List.filterMap_append]
  refine (congrArg _ (List.filterMap_eq_nil_iff.mpr ?_)).trans (List.append_nil _)
  intro i hi
  obtain ⟨offset, -, rfl⟩ := List.mem_map.mp hi
  rw [List.getElem?_eq_none (Nat.le_add_right _ _), ite_self]

/-- A move that meets the end sees nothing, and leaves nothing behind. -/
theorem Sound.missed (h : t.Sound) (hEnd : t.cursor.rows.length ≤ t.cursor.upcoming) :
    Sound ⟨t.cursor.seek (some t.cursor.rows.length), t.seen, t.cursor.rows.length :: t.ends,
      false⟩ := by
  refine ⟨?_, ?_, ?_, fun _ => rfl⟩
  · refine (h.seen.trans (rowsBelow_of_length_le hEnd)).trans (.trans ?_
      (rowsBelow_of_length_le (Nat.le_succ _)).symm)
    refine List.filterMap_congr fun i hi => ?_
    have hOther : i ≠ t.cursor.rows.length := Nat.ne_of_lt (List.mem_range.mp hi)
    simp only [List.mem_cons, hOther, false_or]
    rfl
  · intro n hn
    rcases List.mem_cons.mp hn with rfl | hn
    · exact ⟨Nat.le_refl _, Nat.lt_succ_self _⟩
    · exact ⟨(h.ended n hn).1, Nat.lt_succ_of_le (h.ended n hn).1⟩
  · intro i hi
    rcases Nat.lt_succ_iff_lt_or_eq.mp hi with hBefore | rfl
    · exact Or.inr hBefore
    · exact Or.inl List.mem_cons_self

/-- Every call keeps the tour sound. -/
theorem Sound.step (h : t.Sound) (call : Operation) : (t.step call).Sound := by
  cases call with
  | next =>
      by_cases hMore : t.cursor.upcoming < t.cursor.rows.length
      · have hNext : t.cursor.next = (true, t.cursor.seek (some t.cursor.upcoming)) := by
          rw [Rows.next, if_pos hMore]
          rfl
        rw [Tour.step, hNext]
        exact h.found hMore
      · have hNext : t.cursor.next = (false, t.cursor.seek (some t.cursor.rows.length)) := by
          rw [Rows.next, if_neg hMore]
          rfl
        rw [Tour.step, hNext]
        exact h.missed (Nat.le_of_not_lt hMore)
  | reset => exact .start rfl
  | push row =>
      obtain ⟨more, -, hMore⟩ := push_grows row t.cursor
      rw [Tour.step, perform, hMore]
      exact h.grow more
  | append other =>
      obtain ⟨more, -, hMore⟩ := pushAll_grows other.rows t.cursor
      rw [Tour.step, perform, append, hMore]
      exact h.grow more

/-- So do all calls one after the other. -/
theorem Sound.after (h : t.Sound) (calls : List Operation) : (t.after calls).Sound := by
  induction calls generalizing t with
  | nil => exact h
  | cons call calls ih => exact ih (h.step call)

/-- No row was added since the end was met. -/
def Steady (t : Tour) : Prop := ∀ n ∈ t.ends, n = t.cursor.rows.length

instance (t : Tour) : Decidable t.Steady :=
  inferInstanceAs (Decidable (∀ n ∈ t.ends, n = t.cursor.rows.length))

/-- All rows are visited in order, and values are read on visited rows only. -/
structure InOrder (t : Tour) : Prop where
  seen : t.seen = t.cursor.rows.take t.seen.length
  all : t.cursor.next.1 = false → t.seen = t.cursor.rows
  placed : t.onRow = false → ∀ index, t.cursor.value index = .error .cursorPosition

/-- Where no move found a row, there is the row that was added at the place of the latest end. -/
theorem Sound.row? (h : t.Sound) (hOff : t.onRow = false) :
    t.cursor.row? = t.ends.head?.bind (t.cursor.rows[·]?) := by
  rw [Rows.row?, h.position hOff]

/-- The end is met exactly if no row stands at the upcoming index. -/
theorem next_eq_false_iff {c : Snapshot} : c.next.1 = false ↔ c.rows.length ≤ c.upcoming := by
  rw [Rows.next, ← Nat.not_lt]
  by_cases hMore : c.upcoming < c.rows.length
  · simp [hMore]
  · simp [hMore]

/-- A move that meets the end has left out the rows where the end was met before, and no others. -/
theorem Sound.seen_of_end (h : t.Sound) (hEnd : t.cursor.next.1 = false) :
    t.seen = t.rowsBelow t.cursor.rows.length :=
  h.seen.trans (rowsBelow_of_length_le (next_eq_false_iff.mp hEnd))

/-- If no end was met too early, all rows in front are met. -/
theorem rowsBelow_of_steady (hSteady : t.Steady) (count : Nat) :
    t.rowsBelow count = t.cursor.rows.take count := by
  induction count with
  | zero => rfl
  | succ count ih =>
      have hPlace : (if count ∈ t.ends then none else t.cursor.rows[count]?) =
          t.cursor.rows[count]? := by
        split
        · next hEnd => rw [hSteady count hEnd, List.getElem?_eq_none (Nat.le_refl _)]
        · rfl
      rw [rowsBelow_succ, hPlace, ih, List.take_add_one]

/-- A steady tour meets the rows in their order. -/
theorem Sound.inOrder (h : t.Sound) (hSteady : t.Steady) : t.InOrder := by
  have hSeen : t.seen = t.cursor.rows.take t.cursor.upcoming :=
    h.seen.trans (rowsBelow_of_steady hSteady _)
  refine ⟨?_, fun hEnd => ?_, fun hOff index => ?_⟩
  · rw [hSeen, List.length_take, ← List.take_eq_take_min]
  · rw [hSeen, List.take_of_length_le (next_eq_false_iff.mp hEnd)]
  · have hRow : t.cursor.row? = none := by
      rw [h.row? hOff]
      cases hEnds : t.ends.head? with
      | none => rfl
      | some n =>
          rw [hSteady n (List.mem_of_head? hEnds)]
          exact List.getElem?_eq_none (Nat.le_refl _)
    rw [value, Rows.cell, hRow]

/-- Whatever calls are made on a new snapshot, the rows seen are the first ones in their order but
for rows that were added where the end was met, and these are what is read without a move to them.
If no row was added after the end was met, each row is seen once and in order, the end is met after
all of them, and nothing is read off the rows. -/
theorem rows_visited (columns : List String) (rows : List (List Value)) (calls : List Operation) :
    let t := (start (Rows.ofRows columns rows)).after calls
    t.cursor = calls.foldl perform (Rows.ofRows columns rows) ∧
      t.seen = t.rowsBelow t.cursor.upcoming ∧
      (t.cursor.next.1 = false → t.seen = t.rowsBelow t.cursor.rows.length) ∧
      (t.onRow = false → t.cursor.row? = t.ends.head?.bind (t.cursor.rows[·]?)) ∧
      (t.Steady → t.InOrder) := by
  intro t
  have hSound : t.Sound := (Sound.start rfl).after calls
  exact ⟨after_cursor _ calls, hSound.seen, hSound.seen_of_end, hSound.row?, hSound.inOrder⟩

/-- A row that is added before the end is met is seen in its turn. -/
theorem rows_visited_growing :
    let t := (start (Rows.ofRows ["x"] [[.integer 1]])).after
      [.next, .push [.integer 2], .next, .next]
    t.Steady ∧ t.onRow = false ∧ t.cursor.next.1 = false ∧ t.InOrder ∧
      t.seen = t.rowsBelow t.cursor.rows.length ∧
      t.cursor.row? = t.ends.head?.bind (t.cursor.rows[·]?) := by
  intro t
  obtain ⟨-, -, hAll, hOff, hInOrder⟩ := rows_visited ["x"] [[.integer 1]]
    [.next, .push [.integer 2], .next, .next]
  have hSteady : t.Steady := by decide
  exact ⟨hSteady, rfl, rfl, hInOrder hSteady, hAll rfl, hOff rfl⟩

/-- A row that is added after the end was met is read without a move to it, the next move says that
there is no row, and if there is another one it goes to that one. -/
theorem row_added_at_end_is_lost :
    let t := (start (Rows.ofRows ["x"] [])).after [.next, .push [.integer 1]]
    (t.onRow = false ∧ t.cursor.value 0 = .ok (.integer 1)) ∧
      (t.cursor.next.1 = false ∧ t.seen = [] ∧ t.cursor.rows = [[.integer 1]]) ∧
      (t.after [.push [.integer 2], .next]).seen = [[.integer 2]] ∧ ¬ t.InOrder := by
  refine ⟨⟨rfl, rfl⟩, ⟨rfl, rfl, rfl⟩, rfl, fun h => ?_⟩
  have hValue := h.placed rfl 0
  cases hValue

end Tour

end Snapshot

end TypedQuery
