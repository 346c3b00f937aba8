import TypedQuery.Proofs.Run.Preparation

namespace TypedQuery

open Run

variable {β : Type} {reader : Reader} {db : Connection} {rest : List Stmt} {env : Env}
  {cursor out : Var} {line : Line} {b : Bindings} {p : Prepared}

namespace Row

/-- A scalar has the index of its column. -/
def Fits (b : Bindings) : Row → Prop
  | scalar .. => b.columns.length = 1
  | entity _ => True

theorem prepare_scalar_run (type : TypeExpr) (column : Option String) (n : Nat) :
    ((scalar type column).prepare cursor).run n =
      ((⟨[.temporary "index" n], []⟩, [match column with
        | some column => Stmt.columnIndex (.temporary "index" n) cursor column
        | none => .firstColumn (.temporary "index" n)]), n + 1) := by
  cases column <;> rfl

theorem prepare_fits (row : Row) (cursor : Var) (n : Nat) :
    row.Fits ((row.prepare cursor).run n).1.1 := by
  cases row with
  | scalar type column =>
      rw [prepare_scalar_run]
      rfl
  | entity e => trivial

theorem prepare_within (row : Row) (cursor : Var) (n : Nat) :
    n ≤ ((row.prepare cursor).run n).2 ∧
      ((row.prepare cursor).run n).1.1.Within n ((row.prepare cursor).run n).2 := by
  cases row with
  | scalar type column =>
      rw [prepare_scalar_run]
      refine ⟨Nat.le_succ n, fun v hv => ?_, fun r hr => nomatch hr⟩
      obtain rfl := List.mem_singleton.mp hv
      exact Var.between_temporary (Nat.le_refl n) (Nat.lt_succ_self n)
  | entity e => exact EntityRow.prepare_within cursor e n

/-- Every row is prepared for as it should be. A cursor that relation fields pass over must be a
snapshot before its first row. -/
theorem prepare_runs (row : Row) {n : Nat} {c : Cursor}
    (hCursor : env.lookup cursor = some (.cursor c)) (hOlder : cursor.Older n)
    (hStart : row.relations = [] ∨ ∃ rows, c = .snapshot rows ∧ rows.position = none) :
    Runs reader db ((row.prepare cursor).run n).1.2 env (row.prepared reader db c) fun p left =>
      ((row.prepare cursor).run n).1.1.Hold p left ∧
        env.SameOutside n ((row.prepare cursor).run n).2 left := by
  cases row with
  | scalar type column =>
      have hNew : (Var.temporary "index" n).Between n (n + 1) :=
        Var.between_temporary (Nat.le_refl n) (Nat.lt_succ_self n)
      have hBound (i : Nat) : (⟨[.temporary "index" n], []⟩ : Bindings).Hold ⟨[i], []⟩
            (env.put (.temporary "index" n) (.index i)) ∧
          env.SameOutside n (n + 1) (env.put (.temporary "index" n) (.index i)) :=
        ⟨⟨List.Forall₂.cons (Env.lookup_put_self _ _ _) List.Forall₂.nil, List.Forall₂.nil⟩,
          (Env.SameOutside.refl _ _ env).put hNew _⟩
      rw [prepare_scalar_run]
      cases column with
      | none => exact Runs.set_const rfl (Runs.nil (hBound 0))
      | some column => exact Runs.columnIndex hCursor fun i => Runs.nil (hBound i)
  | entity e => exact e.prepare_runs n hCursor hOlder hStart

/-- A scalar is read at one index. -/
theorem Fits.scalar {type : TypeExpr} {column : Option String}
    (hFits : (scalar type column).Fits b) (hBound : b.Hold p env) :
    ∃ v index, b.columns = [v] ∧ p.columns = [index] ∧ env.lookup v = some (.index index) := by
  obtain ⟨v, hColumns⟩ := List.length_eq_one_iff.mp hFits
  obtain ⟨index, indices, hIndex, hNil, hIndices⟩ :=
    List.forall₂_cons_left_iff.mp (hColumns ▸ hBound.columns)
  obtain rfl := List.forall₂_nil_left_iff.mp hNil
  exact ⟨v, index, hColumns, hIndices, hIndex⟩

/-- The current row is converted. -/
theorem convert_runs {row : Row} (hCursor : env.Shows cursor line) (hBound : b.Hold p env)
    (hFits : row.Fits b) :
    Runs reader db (row.convert? b out cursor).toList env
      (liftM ((row.converter reader p).convert line)) fun d left =>
        left = env.put out (.datum d) := by
  cases row with
  | scalar type column =>
      obtain ⟨v, index, hColumns, hIndices, hIndex⟩ := hFits.scalar hBound
      have hCode : (scalar type column).convert? b out cursor = some (.read out cursor v type) := by
        simp [convert?, hColumns]
      have hTold : ((scalar type column).converter reader p).convert line =
          (line index >>= fun x => reader.read type x) := by
        simp only [converter, hIndices, List.headD_cons]
      rw [hCode, hTold]
      exact Runs.last (Runs.read hCursor hIndex fun d => Runs.nil rfl)
  | entity e => exact Runs.last (Runs.convert hCursor hBound fun d => Runs.nil rfl)

/-- Either there is no test, or its columns are those that tell whether the row has a value. -/
theorem nullCheck?_spec {row : Row} (hBound : b.Hold p env) (hFits : row.Fits b) (line : Line) :
    (row.nullCheck? b = none ∧ (row.converter reader p).isEmpty line = pure false) ∨
      ∃ check indices, row.nullCheck? b = some check ∧
        List.Forall₂ (fun v index => env.lookup v = some (.index index)) check.columns indices ∧
        (row.converter reader p).isEmpty line = line.allNull indices := by
  cases row with
  | scalar type column =>
      obtain ⟨v, index, hColumns, hIndices, hIndex⟩ := hFits.scalar hBound
      cases hNullable : isNullable type with
      | true => exact Or.inl ⟨by simp [nullCheck?, hNullable], by simp [converter, hNullable]⟩
      | false =>
          refine Or.inr ⟨⟨[v], false⟩, [index], ?_, ?_, ?_⟩
          · simp [nullCheck?, hNullable, hColumns]
          · exact List.Forall₂.cons hIndex List.Forall₂.nil
          · simp [converter, hNullable, hIndices]
  | entity e =>
      have hSame := hBound.columns.length_eq
      cases hColumns : b.columns with
      | nil =>
          have hNone : p.columns = [] := by
            rwa [hColumns, List.length_nil, eq_comm, List.length_eq_zero_iff] at hSame
          refine Or.inl ⟨?_, ?_⟩
          · simp [nullCheck?, EntityRow.nullCheck?, hColumns]
          · simp [converter, hNone]
      | cons v others =>
          have hSome : p.columns ≠ [] := by
            rintro hNone
            rw [hColumns, hNone] at hSame
            cases hSame
          refine Or.inr ⟨⟨b.columns, true⟩, p.columns, ?_, hBound.columns, ?_⟩
          · simp [nullCheck?, EntityRow.nullCheck?, hColumns]
          · simp [converter, hSome]

/-- A row without a value is left to the test, which ends the round of the loop, and the other rows
to the code behind it. -/
theorem simulates_skipNulls {row : Row} {map keyVar : Var} {k : Datum} {es : List (Datum × Datum)}
    {told : Except DataError β} {skipped : β} {post : β → Env → Prop}
    (hCursor : env.Shows cursor line) (hBound : b.Hold p env) (hFits : row.Fits b)
    (hKey : env.lookup keyVar = some (.datum k)) (hMap : env.lookup map = some (.entries es))
    (hSkip : post skipped (env.put map (.entries (reader.alter k (.list []) id es))))
    (hRest : Simulates (stmts reader db rest) env (liftM told) fun b _ left => post b left) :
    Simulates (stmts reader db
        ((row.nullCheck? b).toList.map (Stmt.skipNulls map keyVar cursor ·) ++ rest)) env
      (liftM (do
        if ← (row.converter reader p).isEmpty line then return skipped else told :
          Except DataError β)) fun b _ left => post b left := by
  obtain ⟨hNone, hValue⟩ | ⟨check, indices, hSome, hColumns, hValue⟩ :=
    nullCheck?_spec hBound hFits line
  · rw [hNone, hValue]
    exact hRest
  · rw [hSome, hValue, Option.toList_some, List.map_singleton, List.singleton_append, stmts_cons]
    change Simulates ((allNull cursor check.columns >>= fun isNull =>
      if isNull then alterEntry reader map keyVar (.list []) id >>= fun _ => pure true
      else pure false) >>= _) env _ _
    rw [bind_assoc, liftM_bind]
    apply (computes_allNull hCursor hColumns).bind
    intro isNull
    cases isNull with
    | false => exact hRest
    | true =>
        simp only [↓reduceIte, alterEntry, bind_assoc, pure_bind]
        refine (yields_datum hKey).simulates ((yields_entries hMap).simulates ?_)
        exact simulates_assign _ _ _ (Simulates.pure hSkip)

end Row

end TypedQuery
