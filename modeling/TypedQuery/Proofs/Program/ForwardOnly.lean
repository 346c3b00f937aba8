import TypedQuery.Example.Authors
import TypedQuery.Proofs.Program.Passes
import TypedQuery.Proofs.Program.Written

/-! The answer of a query is a cursor that only moves forward. Generated code moves over it once,
and where relation fields need two passes, it copies the answer and goes back in the copy. -/

namespace TypedQuery

open Stmt CursorUse Tokens

def CursorUse.sent? : CursorUse → Option Var
  | sends out => some out
  | _ => none

/-- Names of temporaries with these stems differ in their third character. -/
theorem Var.related_name_ne_cursor (i j : Nat) :
    (temporary "related" i).name ≠ (temporary "cursor" j).name := by
  intro h
  have hChars := congrArg String.toList h
  simp [Var.name, String.toList_append] at hChars

theorem Var.copy_name_ne_cursor : (temporary "cursor" 1).name ≠ (temporary "cursor" 0).name := by
  decide

section KeepsTo

variable {code : List Stmt} {v : Var}

theorem Stmt.KeepsTo.fetched {cursor : Var} (h : KeepsTo cursor code) {q : RelationQuery}
    (hFetch : fetches v q ∈ usesAll code) : ∃ i, v = .temporary "related" i := by
  rcases h _ hFetch with ⟨i, _, hSame⟩ | ⟨_, hSame | hSame, -⟩
  · cases hSame
    exact ⟨i, rfl⟩
  · cases hSame
  · cases hSame

/-- Code that keeps to a copy has its hands off the cursor that was copied. -/
theorem Stmt.KeepsTo.name_ne (h : KeepsTo (.temporary "cursor" 1) code)
    (hMove : walks v ∈ usesAll code ∨ rewinds v ∈ usesAll code) :
    v.name ≠ (Var.temporary "cursor" 0).name ∧
      (v = .temporary "cursor" 1 ∨ ∃ q, fetches v q ∈ usesAll code) := by
  have hOwn : v = .temporary "cursor" 1 ∨ ∃ q, fetches v q ∈ usesAll code := by
    rcases hMove with hMove | hMove
    · rcases h _ hMove with ⟨_, _, hSame⟩ | ⟨w, hSame | hSame, hOwn⟩ <;> cases hSame
      exact hOwn
    · rcases h _ hMove with ⟨_, _, hSame⟩ | ⟨w, hSame | hSame, hOwn⟩ <;> cases hSame
      exact hOwn
  refine ⟨?_, hOwn⟩
  rcases hOwn with rfl | ⟨q, hFetch⟩
  · exact Var.copy_name_ne_cursor
  · obtain ⟨i, rfl⟩ := h.fetched hFetch
    exact Var.related_name_ne_cursor i 0

theorem Stmt.KeepsTo.sent?_eq_nil {cursor : Var} (h : KeepsTo cursor code) :
    (usesAll code).filterMap sent? = [] := by
  rw [List.filterMap_eq_nil_iff]
  intro u hu
  rcases h u hu with ⟨_, _, rfl⟩ | ⟨_, rfl | rfl, -⟩ <;> rfl

end KeepsTo

/-- The code sends one query, treats only snapshots as snapshots, and moves over the answer of the
query at most once. -/
structure QueryBody.ForwardOnly (body : QueryBody) (cursor : Var) : Prop where
  sends : (usesAll body.stmts).filterMap sent? = [cursor]
  rewinds : ∀ v, CursorUse.rewinds v ∈ usesAll body.stmts →
    v.name ≠ cursor.name ∧ ∃ u ∈ usesAll body.stmts, u.snapshot? = some v
  advances : ((usesAll body.stmts).filterMap advanced?).countP (fun v => v.name = cursor.name) ≤ 1

namespace QueryDeclaration

variable (q : QueryDeclaration) {schema : Schema} {shape : Shape}

/-- Without relation fields the code passes once over the answer. -/
theorem body_direct_passes (h : q.shape schema = .ok shape) (hDirect : shape.copiesCursor = false) :
    ∃ pass, (q.body shape).stmts = q.sending :: pass ∧ PassesOver (.temporary "cursor" 0) pass := by
  rw [q.body_of_direct hDirect]
  refine ⟨_, rfl, (shape.emit_converts _ _ _).passesOver fun row hPart => ?_⟩
  rcases List.mem_append.mp hPart with hKey | hValue
  · exact Schema.relations_eq_nil_of_key h (Option.mem_toList.mp hKey)
  · have hRow : shape.row? = some row := Option.mem_toList.mp hValue
    simpa [Shape.copiesCursor, hRow, Row.hasRelations] using hDirect

/-- With relation fields the code copies the answer and keeps to the copy. -/
theorem body_copied_keepsTo (hCopied : shape.copiesCursor = true) :
    ∃ ready pass, (q.body shape).stmts =
        q.sending :: .copy (.temporary "cursor" 1) (.temporary "cursor" 0) true :: (ready ++ pass) ∧
      KeepsTo (.temporary "cursor" 1) ready ∧ PassesOver (.temporary "cursor" 1) pass := by
  rw [q.body_of_copied hCopied]
  obtain ⟨ready, pass, hCode, hReady, hPass⟩ :=
    (shape.emit_converts (.temporary "out" 2) (.temporary "cursor" 1) 3).keepsTo
  exact ⟨ready, pass, by rw [hCode], hReady, hPass⟩

theorem body_direct_forwardOnly (h : q.shape schema = .ok shape)
    (hDirect : shape.copiesCursor = false) :
    (q.body shape).ForwardOnly (.temporary "cursor" 0) := by
  obtain ⟨pass, hCode, hPass⟩ := q.body_direct_passes h hDirect
  have hUses : usesAll (q.body shape).stmts = sends (.temporary "cursor" 0) :: usesAll pass := by
    rw [hCode, usesAll_cons]
    rfl
  constructor
  · rw [hUses]
    rcases hPass with hPass | ⟨out, hPass⟩ <;> simp [hPass, sent?]
  · rw [hUses]
    rcases hPass with hPass | ⟨out, hPass⟩ <;> simp [hPass]
  · rw [hUses]
    rcases hPass with hPass | ⟨out, hPass⟩ <;> simp [hPass, advanced?, List.filterMap_cons]

theorem body_copied_forwardOnly (hCopied : shape.copiesCursor = true) :
    (q.body shape).ForwardOnly (.temporary "cursor" 0) := by
  obtain ⟨ready, pass, hCode, hReady, hPass⟩ := q.body_copied_keepsTo hCopied
  have hUses : usesAll (q.body shape).stmts = sends (.temporary "cursor" 0) ::
      copies (.temporary "cursor" 1) (.temporary "cursor" 0) true ::
        (usesAll ready ++ usesAll pass) := by
    rw [hCode, usesAll_cons, usesAll_cons, usesAll_append]
    rfl
  have hPassed : (usesAll pass).filterMap sent? = [] ∧
      (usesAll pass).filterMap advanced? = [.temporary "cursor" 1] ∧
      ∀ v, rewinds v ∉ usesAll pass := by
    rcases hPass with hPass | ⟨out, hPass⟩ <;> simp [hPass, sent?, advanced?, List.filterMap_cons]
  obtain ⟨hSent, hAdvanced, hRewound⟩ := hPassed
  constructor
  · rw [hUses]
    simp [sent?, List.filterMap_cons, hReady.sent?_eq_nil, hSent]
  · intro v hv
    rw [hUses] at hv ⊢
    simp only [List.mem_cons, List.mem_append, reduceCtorEq, false_or, hRewound, or_false] at hv
    obtain ⟨hName, rfl | ⟨r, hFetch⟩⟩ := hReady.name_ne (Or.inr hv)
    · exact ⟨hName, _, List.mem_cons_of_mem _ List.mem_cons_self, rfl⟩
    · refine ⟨hName, fetches v r, ?_, rfl⟩
      simp [hFetch]
  · have hOther : ∀ v ∈ (usesAll ready).filterMap advanced?,
        v.name ≠ (Var.temporary "cursor" 0).name := by
      intro v hv
      obtain ⟨u, hu, hSome⟩ := List.mem_filterMap.mp hv
      refine (hReady.name_ne (v := v) (Or.inl ?_)).1
      rcases hReady u hu with ⟨_, _, rfl⟩ | ⟨_, rfl | rfl, -⟩ <;> cases hSome
      exact hu
    have hNone : ((usesAll ready).filterMap advanced?).countP
        (fun v => v.name = (Var.temporary "cursor" 0).name) = 0 := by
      rw [List.countP_eq_zero]
      simpa using hOther
    rw [hUses]
    simp only [List.filterMap_cons, advanced?, List.filterMap_append, hAdvanced, List.countP_cons,
      List.countP_append, hNone]
    simp [Var.copy_name_ne_cursor]

/-- A query with an accepted result never rewinds the answer of the connection. -/
theorem body_forwardOnly (h : q.shape schema = .ok shape) :
    (q.body shape).ForwardOnly (.temporary "cursor" 0) := by
  cases hCopies : shape.copiesCursor with
  | false => exact q.body_direct_forwardOnly h hCopies
  | true => exact q.body_copied_forwardOnly hCopies

/-- The answer is copied to be moved over twice exactly if the shape says so. -/
theorem copies_iff (h : q.shape schema = .ok shape) :
    (∃ copy, copies copy (.temporary "cursor" 0) true ∈ usesAll (q.body shape).stmts) ↔
      shape.copiesCursor = true := by
  constructor
  · rintro ⟨copy, hCopy⟩
    cases hCopies : shape.copiesCursor with
    | true => rfl
    | false =>
        obtain ⟨pass, hCode, hPass⟩ := q.body_direct_passes h hCopies
        rw [hCode, usesAll_cons] at hCopy
        rcases hPass with hPass | ⟨out, hPass⟩ <;> simp [hPass, sending, uses, ownUses] at hCopy
  · intro hCopies
    obtain ⟨ready, pass, hCode, -, -⟩ := q.body_copied_keepsTo hCopies
    refine ⟨.temporary "cursor" 1, ?_⟩
    rw [hCode, usesAll_cons, usesAll_cons]
    simp [uses, ownUses]

end QueryDeclaration

/-- In some code the variable of this name is bound to a snapshot: to a copy of a cursor, or to
related rows that were fetched. -/
def Tokens.BindsSnapshot (code runtime : Tokens) (x : String) : Prop :=
  (∃ mutable cursor, (copying runtime mutable x cursor).Within code) ∨
    ∃ args, (fetching runtime x args).Within code

/-- Whether the cursor of this name is moved to later rows, or a cursor that is not known. -/
def Reading.advances (x : String) : Reading → Bool
  | moves cursor | copies cursor => cursor = none ∨ cursor = some x
  | rewinds _ | names _ => false

/-- The tokens of a function call the methods of snapshots on names of snapshots alone, and at most
one construct moves over the answer of the query. -/
structure Tokens.MovesForward (n : Names) (copied : List Tokens) (answer : String)
    (function : Tokens) : Prop where
  rewinds : ∀ cursor, Reading.rewinds cursor ∈ function.ownReadings copied →
    ∃ x, cursor = some x ∧ x ≠ answer ∧ function.BindsSnapshot n.runtime x
  advances : (function.ownReadings copied).countP (Reading.advances answer) ≤ 1

/-- The tokens of a function send the query, and right behind this statement they copy the answer,
or they do not. No other statement makes a copy, unless a copy is the result. -/
def Tokens.CopiesFirst (n : Names) (copied : List Tokens) (answer : String) (copies : Bool)
    (isResult : Prop) (function : Tokens) : Prop :=
  ∃ (front preamble args : Tokens) (copy : String) (rest : Tokens), function =
      front ++ [.group .brace (preamble ++ sending n.db answer args ++
        (if copies then copying n.runtime true copy answer else []) ++ rest)] ∧
    ∀ cursor, Reading.copies cursor ∈ rest.ownReadings copied → copies = false ∧ isResult

section Seen

variable {uses : List CursorUse} {c : Option String}

theorem CursorUse.rewinds_of_seen (h : Reading.rewinds c ∈ uses.flatMap seen) :
    ∃ v : Var, c = some v.name ∧ CursorUse.rewinds v ∈ uses := by
  obtain ⟨u, hu, hSeen⟩ := List.mem_flatMap.mp h
  cases u <;> simp [seen] at hSeen
  exact ⟨_, hSeen, hu⟩

theorem CursorUse.copies_of_seen (h : Reading.copies c ∈ uses.flatMap seen) :
    ∃ out cursor mutable, CursorUse.copies out cursor mutable ∈ uses := by
  obtain ⟨u, hu, hSeen⟩ := List.mem_flatMap.mp h
  cases u <;> simp [seen] at hSeen
  exact ⟨_, _, _, hu⟩

/-- The readings count the moves over a cursor. -/
theorem CursorUse.countP_seen (x : String) (uses : List CursorUse) :
    (uses.flatMap seen).countP (Reading.advances x) =
      (uses.filterMap advanced?).countP (fun v => v.name = x) := by
  induction uses with
  | nil => rfl
  | cons u rest ih =>
      rw [List.flatMap_cons, List.countP_append, ih]
      cases u <;> simp [seen, advanced?, Reading.advances, List.filterMap_cons, List.countP_cons,
        Nat.add_comm]

end Seen

section Printed

variable {n : Names} {q : QueryDeclaration} {body : QueryBody}

/-- A body that moves forward is printed so. -/
theorem QueryBody.ForwardOnly.movesForward {cursor : Var} (h : body.ForwardOnly cursor) :
    (Print.function n q body).MovesForward n (q.copied n body) cursor.name := by
  constructor
  · intro c hc
    rw [Print.ownReadings_function] at hc
    obtain ⟨v, rfl, hRewinds⟩ := rewinds_of_seen (List.mem_of_mem_filter hc)
    obtain ⟨hName, u, hUse, hSnapshot⟩ := h.rewinds v hRewinds
    refine ⟨v.name, rfl, hName, ?_⟩
    have hStands : u.Stands n (Print.function n q body) := Print.stands_function hUse
    cases u with
    | copies out source mutable =>
        obtain rfl := Option.some.inj hSnapshot
        exact Or.inl ⟨mutable, source.name, hStands⟩
    | fetches out query =>
        obtain rfl := Option.some.inj hSnapshot
        exact Or.inr (hStands.imp fun _ => And.left)
    | _ => cases hSnapshot
  · rw [Print.ownReadings_function]
    refine (List.filter_sublist.countP_le).trans ?_
    rw [countP_seen]
    exact h.advances

/-- Of all shapes only a cursor of rows is the copy itself. -/
theorem Shape.eq_rows_of_copies {shape : Shape} {out cursor x y : Var} {mutable : Bool} {i : Nat}
    (h : CursorUse.copies x y mutable ∈ usesAll ((shape.emit out cursor).run i).1) :
    shape = .rows := by
  have hReady (row : Row) (j : Nat) :
      CursorUse.copies x y mutable ∉ usesAll ((row.prepare cursor).run j).1.2 := by
    intro hCopy
    rcases row.prepare_keepsTo cursor j _ hCopy with ⟨_, _, hSame⟩ | ⟨_, hSame | hSame, -⟩ <;>
      cases hSame
  have hFirst (row : Row) (result : FirstRow) :
      CursorUse.copies x y mutable ∉ usesAll ((emitFirst row result out cursor).run i).1 := by
    simp [emitFirst_run, uses, hReady]
  have hList (row : Row) (into : Var) (j : Nat) :
      CursorUse.copies x y mutable ∉ usesAll ((emitList row into cursor).run j).1 := by
    simp [emitList_run, uses, ownUses, hReady]
  cases shape with
  | rows => rfl
  | single row => exact absurd h (hFirst row _)
  | optional row flattened => exact absurd h (hFirst row _)
  | list row => exact absurd h (hList row out i)
  | stream row => simp [emit_stream_run, uses, ownUses, hList] at h
  | map kind key value => simp [emit, emitMap_run, uses, ownUses, hReady] at h
  | multimap kind key value => simp [emit, emitMap_run, uses, ownUses, hReady] at h
  | rowCount => simp [emit_rowCount_run, uses, ownUses] at h

variable {schema : Schema} {shape : Shape}

/-- Behind the driver, only a function whose result is a cursor of rows makes a copy. -/
theorem QueryDeclaration.copies_result (h : q.shape schema = .ok shape) {copied : List Tokens}
    {out cursor : Var} {i : Nat} (hRuntime : n.runtime ∈ copied)
    (hTypes : typesIn ((shape.emit out cursor).run i).1 ⊆ copied) (c : Option String)
    (hCopy : Reading.copies c ∈ (Print.stmts n ((shape.emit out cursor).run i).1 ++
      Print.outcome out).ownReadings copied) :
    shape.copiesCursor = false ∧ q.output.Applies "MemoryCursor" [] := by
  rw [Print.ownReadings_stmts hRuntime hTypes] at hCopy
  obtain ⟨_, _, _, hUse⟩ := copies_of_seen (List.mem_of_mem_filter hCopy)
  obtain rfl := Shape.eq_rows_of_copies hUse
  cases (schema.shape_ok_iff q.columns).mp h with
  | rows hLine => exact ⟨rfl, hLine⟩

theorem QueryDeclaration.typesIn_subset_copied (n : Names) (q : QueryDeclaration)
    (front : List Stmt) {code : List Stmt} (h : body.stmts = front ++ code) :
    typesIn code ⊆ q.copied n body := by
  rw [copied, h, typesIn_append]
  exact List.subset_append_of_subset_right _ (List.subset_append_right _ _)

/-- The code of a function copies the answer first or not at all. -/
theorem QueryDeclaration.copiesFirst (h : q.shape schema = .ok shape) :
    (Print.function n q (q.body shape)).CopiesFirst n (q.copied n (q.body shape))
      (Var.temporary "cursor" 0).name shape.copiesCursor (q.output.Applies "MemoryCursor" []) := by
  obtain ⟨signature, hFunction⟩ := Print.function_eq n q (q.body shape)
  obtain ⟨args, hSend⟩ := Print.stmt_query n (.temporary "cursor" 0) q.query.sql
    (q.arguments.map (·.1))
  have hRuntime : n.runtime ∈ q.copied n (q.body shape) := by simp [copied]
  by_cases hCopies : shape.copiesCursor = true
  · have hBody := q.body_of_copied hCopies
    let copy := Var.temporary "cursor" 1
    have hTypes := typesIn_subset_copied n q [q.sending, .copy copy (.temporary "cursor" 0) true]
      (congrArg QueryBody.stmts hBody)
    refine ⟨signature, Print.preamble n, args, copy.name, _, hFunction.trans ?_,
      q.copies_result h hRuntime hTypes⟩
    rw [hBody, Print.stmts, Print.stmts, sending, hSend, Print.stmt_copy]
    simp [Print.brace, hCopies, copy]
  · have hBody := q.body_of_direct (Bool.eq_false_of_not_eq_true hCopies)
    have hTypes := typesIn_subset_copied n q [q.sending] (congrArg QueryBody.stmts hBody)
    refine ⟨signature, Print.preamble n, args, "", _, hFunction.trans ?_,
      q.copies_result h hRuntime hTypes⟩
    rw [hBody, Print.stmts, sending, hSend]
    simp [Print.brace, hCopies]

end Printed

namespace Expansion

variable {schema : Schema} {q d : QueryDeclaration} {info : QueryInfo} {body : QueryBody}

/-- No generated function rewinds the answer of its query or moves over it twice. It copies the
answer, and its constant says so, exactly if the elements of its result have relation fields. The
tokens show it: what they do by themselves, and where each use of a cursor stands in them. -/
theorem answer_moves_forward (h : ofQuery schema q = .function d info body) :
    ∃ cursor, body.ForwardOnly cursor ∧
      ((∃ copy, copies copy cursor true ∈ usesAll body.stmts) ↔
        ∃ e, schema.Elements q.output e ∧ e.relations ≠ []) ∧
      (info.copiesCursor = true ↔ ∃ e, schema.Elements q.output e ∧ e.relations ≠ []) ∧
      ∀ options tokens, (ofQuery schema q).tokens? options = some tokens →
        ∃ constant function : Tokens, tokens = constant ++ function ∧
          constant.Informs info.relationTables info.copiesCursor ∧
          function.MovesForward options.names (q.copied options.names body) cursor.name ∧
          function.CopiesFirst options.names (q.copied options.names body) cursor.name
            info.copiesCursor (q.output.Applies "MemoryCursor" []) ∧
          ∀ u ∈ usesAll body.stmts, u.Stands options.names function := by
  obtain ⟨shape, hShape, rfl, rfl, rfl⟩ := ofQuery_eq_function_iff.mp h
  have hForward := d.body_forwardOnly hShape
  have hCopies := Schema.copiesCursor_iff hShape
  refine ⟨.temporary "cursor" 0, hForward, (d.copies_iff hShape).trans hCopies, hCopies,
    fun options tokens hTokens => ⟨_, _, tokens_of_function h hTokens, ?_, ?_, ?_, ?_⟩⟩
  · exact Print.informs_constant _ _ _ _
  · exact hForward.movesForward
  · exact d.copiesFirst hShape
  · exact fun u => Print.stands_function

theorem authors_answer_moves_forward :
    ∃ info body tokens cursor,
      ofQuery Example.authorSchema Example.authors = .function Example.authors info body ∧
      (ofQuery Example.authorSchema Example.authors).tokens? .default = some tokens ∧
      info.copiesCursor = true ∧ body.ForwardOnly cursor ∧
      (∃ copy, copies copy cursor true ∈ usesAll body.stmts) ∧
      ∃ constant function : Tokens, tokens = constant ++ function ∧
        constant.Informs ["book", "favourite"] true ∧
        function.MovesForward Options.default.names
          (Example.authors.copied Options.default.names body) cursor.name ∧
        function.CopiesFirst Options.default.names
          (Example.authors.copied Options.default.names body) cursor.name true
          (Example.authors.output.Applies "MemoryCursor" []) := by
  have hFunction : ofQuery Example.authorSchema Example.authors =
      .function Example.authors _ _ := rfl
  have hTokens : (ofQuery Example.authorSchema Example.authors).tokens? .default = some _ := rfl
  obtain ⟨cursor, hForward, hCopy, -, hCode⟩ := answer_moves_forward hFunction
  obtain ⟨constant, function, hParts, hInforms, hMoves, hFirst, -⟩ := hCode _ _ hTokens
  have hElements : Example.authorSchema.Elements Example.authors.output Example.authorEntity :=
    ⟨.named "Author", .item ⟨.angle _ _ _ _ _, rfl⟩, rfl⟩
  exact ⟨_, _, _, cursor, hFunction, hTokens, rfl, hForward,
    hCopy.mpr ⟨Example.authorEntity, hElements, List.cons_ne_nil _ _⟩,
    constant, function, hParts, hInforms, hMoves, hFirst⟩

end Expansion

end TypedQuery
