import TypedQuery.Example.Authors
import TypedQuery.Proofs.Program.Declared
import TypedQuery.Proofs.Program.Numbering
import TypedQuery.Proofs.Program.Scopes

namespace TypedQuery

open Stmt Tokens

namespace Print

/-- What stands in the body of a function in front of its statements. -/
def preamble (n : Names) : Tokens :=
  op "#" ++ [.group .bracket (word "allow" ++ paren (word "unused_imports"))] ++ word "use" ++
    n.runtime ++ op "::" ++ brace (word "Cursor" ++ word "as" ++ word "_" ++ op "," ++
      word "CursorExt" ++ word "as" ++ word "_") ++ op ";"

/-- The value of a function. -/
def outcome (out : Var) : Tokens := std ["result", "Result", "Ok"] ++ paren (var out)

/-- A function ends in the block with its statements and its value. -/
theorem function_eq (n : Names) (q : QueryDeclaration) (body : QueryBody) :
    ∃ signature, function n q body =
      signature ++ brace (preamble n ++ (stmts n body.stmts ++ outcome body.out)) := by
  refine ⟨_, (congrArg (_ ++ ·) (congrArg brace ?_))⟩
  simp only [preamble, outcome, List.append_assoc]

attribute [local simp] word op Token.operator Token.operatorChars paren brace below std var
  reserved_append_punct reserved_word Tokens.reserved_temporary in
theorem reserved_preamble {n : Names} (h : n.Unreserved) : reserved false (preamble n) = [] := by
  simp (disch := decide) [preamble, h.runtime.reserved]

attribute [local simp] word op Token.operator Token.operatorChars paren below std var
  reserved_word Tokens.reserved_temporary in
theorem reserved_outcome {out : Var} (h : Reserved out.name) :
    reserved false (outcome out) = [out.used] := by
  simp (disch := first | decide | assumption) [outcome, Var.used]

end Print

/-- The temporaries that were made for a function are well scoped in its body. The names are
different, also where blocks of the body do not meet, and the body names no other temporary. -/
structure WellScoped (made : List Var) (code : Tokens) : Prop where
  distinct : (made.map Var.name).Nodup
  once : ∀ v ∈ made, code.BindsOnce v.name
  known : ∀ name ∈ code.identifiers, Reserved name → ∃ v ∈ made, v.name = name

namespace QueryDeclaration

variable {q : QueryDeclaration} {shape : Shape}

/-- The body of a query binds the temporaries that were made for it, and these alone. -/
theorem numbers_body (q : QueryDeclaration) (shape : Shape) :
    Numbers 0 ((q.emission shape).run 0).2 (lets (q.body shape).stmts) := by
  cases hCopies : shape.copiesCursor with
  | false =>
      rw [q.emission_of_direct hCopies, q.body_of_direct hCopies]
      obtain ⟨own, hOwn, hPerm⟩ :=
        shape.numbered_emit (.temporary "out" 1) (.temporary "cursor" 0) 2
      refine ((Numbers.numbered 0 ["cursor", "out"] (by decide)).append hOwn).perm ?_
      simpa [sending, bound?, Stmt.body, Var.numbered] using hPerm
  | true =>
      rw [q.emission_of_copied hCopies, q.body_of_copied hCopies]
      obtain ⟨own, hOwn, hPerm⟩ :=
        shape.numbered_emit (.temporary "out" 2) (.temporary "cursor" 1) 3
      refine ((Numbers.numbered 0 ["cursor", "cursor", "out"] (by decide)).append hOwn).perm ?_
      simpa [sending, bound?, Stmt.body, Var.numbered] using hPerm

/-- Every variable of the body is bound before it is read, and so is its value. -/
theorem scoped_body (q : QueryDeclaration) (shape : Shape) :
    Scoped [] (q.body shape).stmts ∧ (q.body shape).out ∈ binds (q.body shape).stmts := by
  have hMine {v : Var} (bound : List Var) : v ∈ bound ++ [v] :=
    List.mem_append_right _ (List.mem_singleton.mpr rfl)
  cases hCopies : shape.copiesCursor with
  | false =>
      rw [q.body_of_direct hCopies]
      obtain ⟨hScoped, hOut⟩ := Shape.scoped_emit (hMine []) shape (.temporary "out" 1) 2
      exact ⟨.cons (List.nil_subset _) .nil (List.nil_subset _) hScoped,
        List.mem_cons_of_mem _ hOut⟩
  | true =>
      rw [q.body_of_copied hCopies]
      obtain ⟨hScoped, hOut⟩ := Shape.scoped_emit (hMine [.temporary "cursor" 0]) shape
        (.temporary "out" 2) 3
      refine ⟨.cons (List.nil_subset _) .nil (List.nil_subset _) ?_,
        List.mem_cons_of_mem _ (List.mem_cons_of_mem _ hOut)⟩
      exact .cons (List.Subset.refl _) .nil (List.nil_subset _) hScoped

/-- The variables that the body of a query binds are temporaries. -/
theorem reserved_lets {v : Var} (h : v ∈ lets (q.body shape).stmts) : Reserved v.name := by
  obtain ⟨stems, -, -, hPerm⟩ := q.numbers_body shape
  obtain ⟨stem, -, i, -, rfl⟩ := Var.mem_numbered (hPerm.subset h)
  exact reserved_temporary stem i

theorem reserved_vars (q : QueryDeclaration) (shape : Shape) :
    ∀ s ∈ deep (q.body shape).stmts, ∀ v ∈ s.vars, Reserved v.name := by
  intro s hs v hv
  have hLets : v ∈ lets (q.body shape).stmts := by
    simpa using (q.scoped_body shape).1.vars_subset hs hv
  exact reserved_lets hLets

theorem reserved_out (q : QueryDeclaration) (shape : Shape) : Reserved (q.body shape).out.name :=
  reserved_lets (binds_subset_lets _ (q.scoped_body shape).2)

/-- The temporaries of the body of a query are well scoped in it. -/
theorem wellScoped_body {n : Names} (hn : n.Unreserved) (hQuery : q.Unreserved)
    (hShape : shape.Unreserved) :
    ∃ stems : List String, stems.length = ((q.emission shape).run 0).2 ∧
      WellScoped (Var.numbered 0 stems) (Print.preamble n ++
        (Print.stmts n (q.body shape).stmts ++ Print.outcome (q.body shape).out)) := by
  obtain ⟨stems, hStems, hCount, hPerm⟩ := q.numbers_body shape
  obtain ⟨hScoped, hOut⟩ := q.scoped_body shape
  have hPrintable : Printable n (q.body shape).stmts :=
    ⟨hn, unreserved_body hQuery hShape, q.reserved_vars shape⟩
  have hValue : (Print.outcome (q.body shape).out).Reads (binds (q.body shape).stmts) := by
    intro o ho
    rw [Print.reserved_outcome (q.reserved_out shape), List.mem_singleton] at ho
    exact ⟨_, hOut, ho⟩
  have hDistinct := Var.nodup_names_numbered 0 hStems
  have hFront {name : String} (hName : Reserved name) : name ∉ (Print.preamble n).identifiers :=
    not_mem_identifiers hName (by simp [Print.reserved_preamble hn])
  refine ⟨stems, by omega, hDistinct, fun v hv => ?_, fun name hName hReserved => ?_⟩
  · have hv := hPerm.symm.subset hv
    refine (bindsOnce_stmts hPrintable hScoped hValue ?_ hv).prepend (hFront (reserved_lets hv))
    exact (hPerm.map Var.name).nodup_iff.mpr hDistinct
  · rw [identifiers_append, List.mem_append] at hName
    have hCode := hName.resolve_left (hFront hReserved)
    obtain ⟨isBound, ho⟩ := (mem_identifiers_iff hReserved).mp hCode
    obtain ⟨v, hv, hSame⟩ := hPrintable.exists_var hScoped hValue ho
    exact ⟨v, hPerm.subset hv, hSame⟩

/-- The temporaries of a generated function: the tokens of a query end in the body of its function,
and in that body the temporaries are well scoped. `stems` are the stems of all calls that made
temporaries, in their order. -/
theorem temporaries_well_scoped {schema : Schema} {options : Options} {tokens : Tokens}
    (hShape : q.shape schema = .ok shape)
    (hTokens : (Expansion.ofQuery schema q).tokens? options = some tokens)
    (hRuntime : Tokens.Unreserved options.runtime) (hSchema : ∀ e ∈ schema, e.Unreserved)
    (hQuery : q.Unreserved) :
    ∃ head code stems, tokens = head ++ Print.brace code ∧
      stems.length = ((q.emission shape).run 0).2 ∧ WellScoped (Var.numbered 0 stems) code := by
  have hConnection : ¬Reserved connectionName := by decide
  have hNames : (⟨options.runtime, connectionName⟩ : Names).Unreserved := ⟨hRuntime, hConnection⟩
  have hUnreserved := Schema.unreserved_of_shape hSchema hShape hQuery.output
  obtain ⟨stems, hCount, hScoped⟩ := wellScoped_body hNames hQuery hUnreserved
  obtain ⟨signature, hFunction⟩ :=
    Print.function_eq ⟨options.runtime, connectionName⟩ q (q.body shape)
  rw [Expansion.ofQuery_eq_function_iff.mpr ⟨shape, hShape, rfl, rfl, rfl⟩] at hTokens
  simp only [Expansion.tokens?, Option.ite_none_right_eq_some, Option.some.injEq] at hTokens
  rw [hFunction, ← List.append_assoc] at hTokens
  exact ⟨_, _, stems, hTokens.2.symm, hCount, hScoped⟩

theorem authors_temporaries_well_scoped :
    ∃ tokens head code stems,
      (Expansion.ofQuery Example.authorSchema Example.authors).tokens? .default = some tokens ∧
        tokens = head ++ Print.brace code ∧ stems.length = 21 ∧
        WellScoped (Var.numbered 0 stems) code := by
  have hShape : Example.authors.shape Example.authorSchema = .ok Example.authorShape := by
    with_unfolding_all rfl
  have hTokens :
      (Expansion.ofQuery Example.authorSchema Example.authors).tokens? .default = some _ := rfl
  have hRuntime : Tokens.Unreserved Options.default.runtime := by decide
  have hAuthor : Example.authorEntity.Unreserved := ⟨by decide, by decide⟩
  have hBook : Example.bookEntity.Unreserved := ⟨by decide, by decide⟩
  have hSchema : ∀ e ∈ Example.authorSchema, e.Unreserved :=
    List.forall_mem_cons.mpr ⟨hAuthor, List.forall_mem_singleton.mpr hBook⟩
  have hQuery : Example.authors.Unreserved := ⟨nofun, by decide⟩
  obtain ⟨head, code, stems, hCode, hCount, hScoped⟩ :=
    temporaries_well_scoped hShape hTokens hRuntime hSchema hQuery
  have hAll : ((Example.authors.emission Example.authorShape).run 0).2 = 21 := by
    with_unfolding_all rfl
  exact ⟨_, head, code, stems, hTokens, hCode, hCount.trans hAll, hScoped⟩

end QueryDeclaration

end TypedQuery
