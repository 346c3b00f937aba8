import TypedQuery.Proofs.Program.Variables
import Mathlib.Data.List.Basic

/-! The variables of statements in printed code. Printing keeps their order, and so their scopes:
where variables are bound before they are read and have different names, one `let` binds each name.
Tokens from declarations may be anything but names of temporaries. -/

namespace TypedQuery

open Tokens

/-- The occurrence of a variable in the `let` that binds it. -/
def Var.atLet (v : Var) : Occurrence := ⟨v.name, true⟩

/-- An occurrence of a variable that was bound before. -/
def Var.used (v : Var) : Occurrence := ⟨v.name, false⟩

/-- Printing is given no names of temporaries. -/
structure Names.Unreserved (n : Names) : Prop where
  runtime : Tokens.Unreserved n.runtime
  db : ¬Reserved n.db

/-- What a statement takes from declarations has no names of temporaries. -/
def Stmt.Unreserved : Stmt → Prop
  | query _ _ args => ∀ a ∈ args, ¬Reserved a
  | read _ _ _ type => Tokens.Unreserved type.tokens
  | build _ _ path fields relations =>
    Tokens.Unreserved path ∧
      (∀ f ∈ fields, ¬Reserved f.name ∧ Tokens.Unreserved f.type.tokens) ∧
        ∀ g ∈ relations, ¬Reserved g.name
  | newGroups _ element => Tokens.Unreserved element
  | _ => True

namespace Print

section Pieces

attribute [local simp] word var op Token.operator Token.operatorChars paren brace text below std
  Names.path commas Parser.joined generic call question await field Var.used
  reserved_append_punct reserved_append_group reserved_ident_punct reserved_word
  Tokens.reserved_temporary

variable {n : Names} {rest : Tokens} {cursor index : Var}

theorem reserved_flatMap {α : Type} {as : List α} {print : α → Tokens} {vs : α → List Var}
    (h : ∀ a ∈ as, ∀ rest,
      reserved false (print a ++ rest) = (vs a).map Var.used ++ reserved false rest) :
    reserved false (as.flatMap print ++ rest) =
      (as.flatMap vs).map Var.used ++ reserved false rest := by
  induction as with
  | nil => rfl
  | cons a as ih =>
      rw [List.forall_mem_cons] at h
      rw [List.flatMap_cons, List.append_assoc, h.1, ih h.2, List.flatMap_cons, List.map_append,
        List.append_assoc]

theorem reserved_joined {first : Char} {joint : Bool} {others : Tokens} {separator : String}
    (hSeparator : Token.operator separator = .punct first joint :: others)
    (hOthers : ∀ rest, reserved false (others ++ rest) = reserved false rest)
    (items : List Tokens) :
    reserved false (Parser.joined separator (items, false)) = items.flatMap (reserved false) := by
  induction items with
  | nil => simp
  | cons item more ih =>
      cases more with
      | nil => simp
      | cons next more =>
          rw [Parser.joined, List.append_assoc, hSeparator, List.cons_append,
            reserved_append_punct, hOthers, ih]
          · rfl
          · exact List.cons_ne_nil next more

theorem reserved_commas (items : List Tokens) :
    reserved false (commas items) = items.flatMap (reserved false) :=
  reserved_joined rfl (fun _ => rfl) items

theorem reserved_relationQuery (hn : n.Unreserved) (q : RelationQuery) :
    reserved false (relationQuery n q) = [] := by
  have hJunction : reserved false (junction n q.junction) = [] := by
    cases q.junction <;>
      simp (disch := decide) [junction, noneValue, someOf, hn.runtime.reserved]
  simp (disch := decide) [relationQuery, hn.runtime.reserved, hJunction]

theorem reserved_keyOf (hCursor : Reserved cursor.name) (hIndex : Reserved index.name) :
    reserved false (keyOf cursor index) = [cursor, index].map Var.used := by
  simp (disch := first | assumption | decide) [keyOf]

theorem reserved_groupRead {g : GroupRead} (hCursor : Reserved cursor.name)
    (hIndex : Reserved g.keyIndex.name) (hGroups : Reserved g.groups.name) :
    reserved false (groupRead cursor g) = [cursor, g.keyIndex, g.groups].map Var.used := by
  unfold groupRead
  cases g.quantity <;> simp (disch := first | assumption | decide) [reserved_keyOf]

theorem reserved_read {type : TypeExpr} (hCursor : Reserved cursor.name)
    (hIndex : Reserved index.name) (hType : Tokens.Unreserved type.tokens) :
    reserved false (Print.read cursor index type) = [cursor, index].map Var.used := by
  simp (disch := first | assumption | decide) [Print.read, hType.reserved]

theorem reserved_nullCheck {check : NullCheck}
    (hVars : ∀ v ∈ check.columns.flatMap fun index => [cursor, index], Reserved v.name) :
    reserved false (nullCheck cursor check) =
      (check.columns.flatMap fun index => [cursor, index]).map Var.used := by
  have hTests : reserved false (Parser.joined "&&" (check.columns.map fun index =>
      question (call (var cursor) "is_null" [var index]), false)) =
      (check.columns.flatMap fun index => [cursor, index]).map Var.used := by
    rw [reserved_joined rfl (fun _ => rfl), List.flatMap_map, List.map_flatMap]
    apply List.flatMap_congr
    intro index hMem
    have hOwn (v : Var) (hv : v ∈ [cursor, index]) : Reserved v.name :=
      hVars v (List.mem_flatMap.mpr ⟨index, hMem, hv⟩)
    simp (disch := first | decide | (apply hOwn; simp))
  unfold nullCheck
  cases check.parenthesized with
  | false => exact hTests
  | true => exact (reserved_group _ _).trans (by rw [hTests, reserved_nil, List.append_nil])

theorem reserved_fieldReads {fields : List FieldRead}
    (hFields : ∀ f ∈ fields, ¬Reserved f.name ∧ Tokens.Unreserved f.type.tokens)
    (hVars : ∀ v ∈ fields.flatMap fun f => [cursor, f.index], Reserved v.name) (rest : Tokens) :
    reserved false (fields.flatMap (fieldRead cursor) ++ rest) =
      (fields.flatMap fun f => [cursor, f.index]).map Var.used ++ reserved false rest := by
  apply reserved_flatMap
  intro f hMem rest
  obtain ⟨hName, hType⟩ := hFields f hMem
  have hOwn (v : Var) (hv : v ∈ [cursor, f.index]) : Reserved v.name :=
    hVars v (List.mem_flatMap.mpr ⟨f, hMem, hv⟩)
  have hRead := reserved_read (hOwn cursor (by simp)) (hOwn f.index (by simp)) hType
  simp (disch := assumption) [fieldRead, hRead]

theorem reserved_groupReads {relations : List GroupRead}
    (hNames : ∀ g ∈ relations, ¬Reserved g.name)
    (hVars : ∀ v ∈ relations.flatMap fun g => [cursor, g.keyIndex, g.groups], Reserved v.name)
    (rest : Tokens) :
    reserved false ((relations.flatMap fun g => field g.name (groupRead cursor g)) ++ rest) =
      (relations.flatMap fun g => [cursor, g.keyIndex, g.groups]).map Var.used ++
        reserved false rest := by
  apply reserved_flatMap
  intro g hMem rest
  have hName := hNames g hMem
  have hOwn (v : Var) (hv : v ∈ [cursor, g.keyIndex, g.groups]) : Reserved v.name :=
    hVars v (List.mem_flatMap.mpr ⟨g, hMem, hv⟩)
  have hRead := reserved_groupRead (hOwn cursor (by simp)) (hOwn g.keyIndex (by simp))
    (hOwn g.groups (by simp))
  simp (disch := assumption) [hRead]

end Pieces

section Statements

attribute [local simp] word var op Token.operator Token.operatorChars paren brace text below std
  Names.path commas Parser.joined generic call question await field letVar letMut borrowMut newList
  noneValue someOf ifKey nextRow entry groupOf mapName firstValue otherwise StringLiteral.token
  Stmt.bound? Stmt.reads Stmt.body Stmt.result? Stmt.vars stmt stmts Var.used Var.atLet
  reserved_append_punct reserved_append_group reserved_ident_punct reserved_word
  reserved_keyOf Tokens.reserved_temporary

variable {n : Names} {s : Stmt} {rest : Tokens}

/-- A printed statement names what it binds, what it reads, the variables of its block, and the
value of the block. -/
theorem reserved_stmt (hn : n.Unreserved) (hs : s.Unreserved)
    (hVars : ∀ v ∈ s.vars, Reserved v.name)
    (hBody : ∀ rest, reserved false (stmts n s.body ++ rest) =
      reserved false (stmts n s.body) ++ reserved false rest) (rest : Tokens) :
    reserved false (stmt n s ++ rest) =
      s.bound?.toList.map Var.atLet ++ s.reads.map Var.used ++ reserved false (stmts n s.body) ++
        s.result?.toList.map Var.used ++ reserved false rest := by
  have hRuntime : reserved false n.runtime = [] := hn.runtime.reserved
  have hDb := hn.db
  cases s with
  | query out sql args =>
      have hValues : reserved false (commas (args.map fun a =>
          Names.path n ["Value", "from"] ++ paren (word a))) = [] := by
        rw [reserved_commas, List.flatMap_map, List.flatMap_eq_nil_iff]
        intro a hMem
        have hName := hs a hMem
        simp (disch := first | decide | assumption) [hRuntime, reserved_ident]
      simp only [stmt]
      generalize commas (args.map fun a => _) = values at hValues ⊢
      simp (disch := first | decide | assumption | (apply hVars; simp) | simp) [hValues]
  | build out cursor path fields relations =>
      obtain ⟨hPath, hFields, hRelations⟩ := hs
      have hRead (v : Var) (hv : v ∈ (Stmt.build out cursor path fields relations).reads) :
          Reserved v.name := hVars v (List.mem_append_left _ (List.mem_append_right _ hv))
      have hValues : reserved false (fields.flatMap (fieldRead cursor) ++
          relations.flatMap fun g => field g.name (groupRead cursor g)) =
            (Stmt.build out cursor path fields relations).reads.map Var.used := by
        have hGroups := reserved_groupReads hRelations
          (fun v hv => hRead v (List.mem_append_right _ hv)) []
        rw [List.append_nil] at hGroups
        rw [reserved_fieldReads hFields fun v hv => hRead v (List.mem_append_left _ hv), hGroups]
        simp
      rw [← hValues]
      simp only [stmt]
      generalize fields.flatMap (fieldRead cursor) ++ relations.flatMap (fun g => _) = values
      simp (disch := first | decide | (apply hVars; simp)) [hPath.reserved]
  | skipNulls map key cursor check =>
      have hCheck : reserved false (nullCheck cursor check) = _ := reserved_nullCheck fun v hv =>
        hVars v (List.mem_append_left _ (List.mem_append_right _ (List.mem_append_left _ hv)))
      simp (disch := first | decide | (apply hVars; simp) | simp) [hCheck]
  | read out cursor index type =>
      have hType : Tokens.Unreserved type.tokens := hs
      simp (disch := first | decide | assumption | (apply hVars; simp) | simp) [reserved_read]
  | newGroups out element =>
      have hElement : reserved false element = [] := Tokens.Unreserved.reserved hs
      simp (disch := first | decide | (apply hVars; simp) | simp) [hRuntime, hElement]
  | fetch out keys query =>
      have hQuery := reserved_relationQuery hn query
      simp (disch := first | decide | assumption | (apply hVars; simp) | simp) [hRuntime, hQuery]
  | copy out cursor mutable =>
      cases mutable <;> simp (disch := first | decide | (apply hVars; simp)) [hRuntime]
  | newMap out kind =>
      cases kind <;> simp (disch := first | decide | (apply hVars; simp))
  | firstRow out cursor item body result =>
      simp only [Stmt.body] at hBody
      cases result <;>
        simp (disch := first | decide | (apply hVars; simp) | simp) [hBody, hRuntime]
  | _ => simp (disch := first | decide | (apply hVars; simp) | simp) [hRuntime]

/-- What binds a variable is printed as a `let`. -/
theorem stmt_eq_let {v : Var} (h : s.bound? = some v) :
    ∃ mutable value, stmt n s = letStatement mutable v.name value := by
  cases s with
  | copy out cursor mutable =>
      obtain rfl := Option.some.inj h
      cases mutable with
      | false => exact ⟨false, _, rfl⟩
      | true => exact ⟨true, _, rfl⟩
  | _ =>
      first
        | cases h; done
        | obtain rfl := Option.some.inj h; exact ⟨false, _, rfl⟩
        | obtain rfl := Option.some.inj h; exact ⟨true, _, rfl⟩

theorem stmt_eq_nested (hn : n.Unreserved) (hVars : ∀ v ∈ s.vars, Reserved v.name)
    (hBody : s.body ≠ []) :
    ∃ head tail foot, stmt n s = head ++ brace (stmts n s.body ++ tail) ++ foot ∧
      reserved false head = s.bound?.toList.map Var.atLet ++ s.reads.map Var.used ∧
        reserved false tail = s.result?.toList.map Var.used ∧ reserved false foot = [] := by
  have hRuntime : reserved false n.runtime = [] := hn.runtime.reserved
  cases s with
  | whileRows cursor body =>
      refine ⟨word "while" ++ nextRow cursor, [], [], by simp, ?_, rfl, rfl⟩
      simp (disch := first | decide | (apply hVars; simp) | simp)
  | block body => exact ⟨[], [], [], by simp, rfl, rfl, rfl⟩
  | unlessEmpty cursor body =>
      refine ⟨word "if" ++ op "!" ++ call (var cursor) "is_empty" [], [], [], by simp, ?_, rfl, rfl⟩
      simp (disch := first | decide | (apply hVars; simp) | simp)
  | firstRow out cursor item body result =>
      refine ⟨word "let" ++ var out ++ op "=" ++ word "if" ++ nextRow cursor,
        firstValue item result, word "else" ++ brace (otherwise n result) ++ op ";", by simp,
        ?_, ?_, ?_⟩
      · simp (disch := first | decide | (apply hVars; simp) | simp)
      · cases result <;> simp (disch := first | decide | (apply hVars; simp) | simp)
      · cases result <;> simp (disch := first | decide | simp) [hRuntime]
  | _ => exact absurd rfl hBody

end Statements

end Print

end TypedQuery
