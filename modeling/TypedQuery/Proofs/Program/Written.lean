import TypedQuery.Proofs.Program.CursorUse
import TypedQuery.Proofs.Program.Spliced
import TypedQuery.Proofs.Program.Temporaries

/-! What code does with cursors and tables as it is printed. Every use of a cursor stands in the
printed code by its tokens; and apart from the tokens that are copied into the code from
declarations nothing else is read off it. -/

namespace TypedQuery

open Tokens Token Stmt

namespace Tokens

/-- A call of a method without arguments. -/
def calling (x method : String) : Tokens :=
  [.ident x, .punct '.' false, .ident method, .group .parenthesis []]

/-- The statement that sends the query: `let mut x = db.query(..).await?;`. -/
def sending (db x : String) (args : Tokens) : Tokens :=
  [.ident "let", .ident "mut", .ident x, .punct '=' false, .ident db, .punct '.' false,
    .ident "query", .group .parenthesis args, .punct '.' false, .ident "await", .punct '?' false,
    .punct ';' false]

/-- The statement `let x = runtime::copy_cursor(&mut cursor)?;`, where `mut` may be in front of the
name. -/
def copying (runtime : Tokens) (mutable : Bool) (x cursor : String) : Tokens :=
  let copied : Tokens := [.punct ':' true, .punct ':' false, .ident "copy_cursor",
    .group .parenthesis [.punct '&' false, .ident "mut", .ident cursor], .punct '?' false,
    .punct ';' false]
  .ident "let" :: ((if mutable then [.ident "mut"] else []) ++
    .ident x :: .punct '=' false :: (runtime ++ copied))

/-- The statement `let mut x = runtime::relation::fetch(..).await?;`. -/
def fetching (runtime : Tokens) (x : String) (args : Tokens) : Tokens :=
  let fetched : Tokens := [.punct ':' true, .punct ':' false, .ident "relation", .punct ':' true,
    .punct ':' false, .ident "fetch", .group .parenthesis args, .punct '.' false, .ident "await",
    .punct '?' false, .punct ';' false]
  .ident "let" :: .ident "mut" :: .ident x :: .punct '=' false :: (runtime ++ fetched)

/-- The constant of a query ends in a struct expression with the tables that relation fields read
and the word whether the answer is copied. -/
def Informs (tables : List String) (copies : Bool) (constant : Tokens) : Prop :=
  ∃ (front : Tokens) (name sql : StringLiteral) (literals : List StringLiteral),
    literals.map StringLiteral.value = tables ∧
      constant = front ++ [.group .brace [.ident "name", .punct ':' false, name.token,
        .punct ',' false, .ident "sql", .punct ':' false, sql.token, .punct ',' false,
        .ident "relation_tables", .punct ':' false, .punct '&' false, .group .bracket
          (List.intercalate [.punct ',' false] (literals.map fun table => [table.token])),
        .punct ',' false, .ident "copies_cursor", .punct ':' false,
        .ident (if copies then "true" else "false"), .punct ',' false], .punct ';' false]

end Tokens

namespace CursorUse

/-- What is read off the tokens of a use. -/
def seen : CursorUse → List Reading
  | sends _ => []
  | copies _ cursor _ => [.copies (some cursor.name)]
  | fetches _ q => q.tables.map .names
  | walks cursor => [.moves (some cursor.name)]
  | rewinds cursor => [.rewinds (some cursor.name)]

/-- The tokens of a use stand in some code. -/
def Stands (n : Names) (code : Tokens) : CursorUse → Prop
  | sends out => ∃ args, (sending n.db out.name args).Within code
  | copies out cursor mutable => (copying n.runtime mutable out.name cursor.name).Within code
  | fetches out q => ∃ args, (fetching n.runtime out.name args).Within code ∧
      ∀ t ∈ q.tables, .names t ∈ args.readings
  | walks cursor => (calling cursor.name "move_to_next").Within code
  | rewinds cursor => (calling cursor.name "reset").Within code ∨
      (calling cursor.name "is_empty").Within code

/-- A use that stands in some code stands in all code around it. -/
theorem Stands.mono {n : Names} {code all : Tokens} {u : CursorUse} (h : u.Stands n code)
    (hAll : ∀ ts : Tokens, ts.Within code → ts.Within all) : u.Stands n all := by
  cases u with
  | sends out => exact h.imp fun _ => hAll _
  | copies out cursor mutable => exact hAll _ h
  | fetches out q => exact h.imp fun _ => And.imp_left (hAll _)
  | walks cursor => exact hAll _ h
  | rewinds cursor => exact h.imp (hAll _) (hAll _)

/-- The tables of a fetch are written in the code in which it stands. -/
theorem Stands.writesTable {n : Names} {code : Tokens} {out : Var} {q : RelationQuery} {t : String}
    (h : (fetches out q).Stands n code) (hTable : t ∈ q.tables) : code.WritesTable t := by
  obtain ⟨args, hFetch, hNames⟩ := h
  have hCall : .group .parenthesis args ∈ fetching n.runtime out.name args := by simp [fetching]
  exact names_mem_readings_iff.mp (hFetch.readings_subset hCall (hNames t hTable))

end CursorUse

/-- A statement does what it does by itself, and then what its block does. -/
theorem Stmt.uses_eq (s : Stmt) : s.uses = s.ownUses ++ usesAll s.body := by
  cases s <;> simp [uses, ownUses, body]

/-- The tokens that are copied into the function of a query: those of its declaration, the path of
the library, which stands behind `use` as well, and the types that are needed to convert rows. -/
def QueryDeclaration.copied (q : QueryDeclaration) (n : Names) (body : QueryBody) : List Tokens :=
  [Attribute.tokensOf q.attributes ++ q.visibility, n.runtime, .ident "use" :: n.runtime,
    q.output.tokens] ++ q.arguments.map (·.2.tokens) ++ typesIn body.stmts

namespace Print

theorem stmts_append (n : Names) (code rest : List Stmt) :
    stmts n (code ++ rest) = stmts n code ++ stmts n rest := by
  induction code with
  | nil => rfl
  | cons s code ih => rw [List.cons_append, stmts, stmts, ih, List.append_assoc]

/-- A statement stands in the code that it is part of. -/
theorem infix_stmts {n : Names} {s : Stmt} {code : List Stmt} (h : s ∈ code) :
    stmt n s <:+: stmts n code := by
  obtain ⟨front, back, rfl⟩ := List.append_of_mem h
  rw [stmts_append, stmts, ← List.append_assoc]
  exact List.infix_append _ _ _

section Pieces

attribute [local simp] word var op Token.operator Token.operatorChars paren brace text below std
  Names.path commas Parser.joined generic call question await field borrowMut letVar letMut
  kept_punct kept_append_punct kept_append_group Front.next Front.receiver? Front.borrowed?
  StringLiteral.value_quote

variable {P : Reading → Bool} {n : Names} {cursor index : Var}

/-- Pieces that do nothing, one after the other, do nothing. -/
theorem kept_flatMap {α : Type} {as : List α} {print : α → Tokens}
    (h : ∀ a ∈ as, ∀ rest, kept P .other (print a ++ rest) = kept P .other rest) (rest : Tokens) :
    kept P .other (as.flatMap print ++ rest) = kept P .other rest := by
  induction as with
  | nil => rfl
  | cons a as ih =>
      rw [List.forall_mem_cons] at h
      rw [List.flatMap_cons, List.append_assoc, h.1, ih h.2]

/-- Between items stand separators, which do nothing and close what is in front. -/
theorem kept_joined {first : Char} {joint : Bool} {others : Tokens} {separator : String}
    (hSeparator : Token.operator separator = .punct first joint :: others) (hDot : first ≠ '.')
    (hOthers : ∀ rest, kept P .other (others ++ rest) = kept P .other rest)
    (items : List Tokens) :
    kept P .other (Parser.joined separator (items, false)) = items.flatMap (kept P .other) := by
  induction items with
  | nil => simp
  | cons item more ih =>
      cases more with
      | nil => simp
      | cons next more =>
          rw [Parser.joined, List.append_assoc, hSeparator, List.cons_append,
            kept_append_punct hDot, hOthers, ih]
          · rfl
          · exact List.cons_ne_nil next more

theorem kept_commas (items : List Tokens) :
    kept P .other (commas items) = items.flatMap (kept P .other) :=
  kept_joined rfl (by decide) (fun _ => rfl) items

/-- A query of related rows names its tables. -/
theorem kept_relationQuery (hRuntime : kept P .other n.runtime = []) (q : RelationQuery) :
    kept P .other (relationQuery n q) = (q.tables.map Reading.names).filter P := by
  obtain ⟨table, entityColumn, junction⟩ := q
  cases junction with
  | none =>
      simp (disch := decide) [relationQuery, junction, noneValue, hRuntime, RelationQuery.tables]
  | some j =>
      simp (disch := decide) [relationQuery, junction, someOf, hRuntime, RelationQuery.tables]
      exact (List.filter_append _ _).symm

/-- Taking a group calls methods of values and maps only. -/
theorem kept_groupRead (g : GroupRead) : kept P .other (groupRead cursor g) = [] := by
  unfold groupRead
  cases g.quantity <;> simp (disch := decide) [keyOf]

/-- A column is read without a move, unless its type does one. -/
theorem kept_read {type : TypeExpr} (hType : kept P .other type.tokens = []) :
    kept P .other (Print.read cursor index type) = [] := by
  simp (disch := decide) [Print.read, hType]

/-- A test of columns moves over nothing, in parentheses or not. -/
theorem kept_nullCheck (check : NullCheck) :
    kept P (.name "if") (nullCheck cursor check) = [] := by
  let tests := Parser.joined "&&" (check.columns.map fun index =>
    question (call (var cursor) "is_null" [var index]), false)
  have hTests : kept P .other tests = [] := by
    rw [kept_joined rfl (by decide) (fun _ => by simp (disch := decide)), List.flatMap_map]
    simp (disch := decide)
  unfold nullCheck
  cases check.parenthesized with
  | false =>
      rw [← hTests]
      simp only [tests]
      cases check.columns with
      | nil => simp
      | cons index more => cases more <;> simp
  | true => exact (kept_group _ _).trans (by rw [hTests]; simp)

/-- The fields of a struct that is built from a row name no table. -/
theorem named_fields (cursor : Var) (fields : List FieldRead) (relations : List GroupRead) :
    Front.named (fields.flatMap (fieldRead cursor) ++
      relations.flatMap fun g => field g.name (groupRead cursor g)) = [] := by
  cases fields with
  | nil =>
      cases relations with
      | nil => rfl
      | cons g rest => cases hQuantity : g.quantity <;> simp [groupRead, hQuantity, keyOf]
  | cons f rest => simp [fieldRead, Print.read]

/-- The fields of a struct expression do nothing, unless their types do. -/
theorem kept_fields (cursor : Var) {fields : List FieldRead} (relations : List GroupRead)
    (hTypes : ∀ f ∈ fields, kept P .other f.type.tokens = []) :
    kept P .other (fields.flatMap (fieldRead cursor) ++
      relations.flatMap fun g => field g.name (groupRead cursor g)) = [] := by
  have hRelations : kept P .other (relations.flatMap (fun g =>
      field g.name (groupRead cursor g)) ++ []) = [] :=
    kept_flatMap (fun g _ rest => by simp (disch := decide) [kept_groupRead]) []
  rw [List.append_nil] at hRelations
  rw [kept_flatMap, hRelations]
  intro f hf rest
  simp (disch := decide) [fieldRead, kept_read (hTypes f hf)]

variable {s : Stmt}

attribute [local simp] stmt stmts ifKey keyOf nextRow entry groupOf newList someOf noneValue mapName
  firstValue otherwise ownUses CursorUse.seen Stmt.body

/-- The readings of a statement are those of its own uses and those of its block. -/
theorem kept_stmt (hRuntime : kept P .other n.runtime = [])
    (hTypes : ∀ ts ∈ s.types, kept P .other ts = [])
    (hBody : ∀ rest, kept P .other (stmts n s.body ++ rest) =
      kept P .other (stmts n s.body) ++ kept P .other rest) (rest : Tokens) :
    kept P .other (stmt n s ++ rest) =
      (s.ownUses.flatMap CursorUse.seen).filter P ++ kept P .other (stmts n s.body) ++
        kept P .other rest := by
  cases s with
  | query out sql args =>
      have hValues : kept P .other (commas (args.map fun a =>
          Names.path n ["Value", "from"] ++ paren (word a))) = [] := by
        rw [kept_commas, List.flatMap_map, List.flatMap_eq_nil_iff]
        intro a _
        simp (disch := decide) [hRuntime]
      simp only [stmt]
      generalize commas (args.map fun a => _) = values at hValues ⊢
      simp (disch := first | decide | simp) [hValues, StringLiteral.token]
  | build out cursor path fields relations =>
      obtain ⟨hPath, hFields⟩ := List.forall_mem_cons.mp hTypes
      have hValues := kept_fields cursor relations (List.forall_mem_map.mp hFields)
      have hNamed := named_fields cursor fields relations
      simp only [stmt]
      generalize fields.flatMap (fieldRead cursor) ++ relations.flatMap (fun g => _) = values at *
      simp (disch := decide) [hPath, hValues, Front.reads_brace hNamed]
  | skipNulls map key cursor check =>
      have hCheck : kept P (.name "if") (nullCheck cursor check) = [] := kept_nullCheck check
      simp (disch := first | decide | simp) [hCheck, Front.reads_brace]
  | read out cursor index type =>
      simp (disch := decide) [kept_read (hTypes _ (List.mem_singleton_self _))]
  | newGroups out element =>
      have hElement : kept P .other element = [] := hTypes _ (List.mem_singleton_self _)
      simp (disch := first | decide | simp) [hRuntime, hElement]
  | fetch out keys query =>
      simp (disch := first | decide | simp) [hRuntime, kept_relationQuery hRuntime]
  | copy out cursor mutable => cases mutable <;> simp (disch := decide) [hRuntime]
  | newMap out kind => cases kind <;> simp (disch := decide)
  | firstRow out cursor item body result =>
      simp only [Stmt.body] at hBody
      cases result <;> simp (disch := decide) [hRuntime, hBody]
  | _ => simp (disch := first | decide | simp) [hRuntime]

/-- The readings of code are those of its uses. -/
theorem kept_stmts {code : List Stmt} (hRuntime : kept P .other n.runtime = [])
    (hTypes : ∀ ts ∈ typesIn code, kept P .other ts = []) (rest : Tokens) :
    kept P .other (stmts n code ++ rest) =
      ((usesAll code).flatMap CursorUse.seen).filter P ++ kept P .other rest := by
  induction code using codeInduction generalizing rest with
  | nil => simp
  | cons s code ihBody ihRest =>
      simp only [typesIn_cons, List.forall_mem_append] at hTypes
      obtain ⟨hOwn, hInner, hLater⟩ := hTypes
      have hBody := ihBody hInner
      have hAlone := hBody []
      simp only [kept_nil, List.append_nil] at hAlone
      rw [stmts, List.append_assoc, kept_stmt hRuntime hOwn (fun rest => by rw [hBody, hAlone]),
        ihRest hLater, hAlone, usesAll_cons, uses_eq]
      simp only [List.flatMap_append, List.filter_append, List.append_assoc]

variable {q : QueryDeclaration} {body : QueryBody}

/-- The readings of a function are those of its uses, apart from those of the tokens that are copied
into it. -/
theorem kept_function (h : ∀ ts ∈ q.copied n body, kept P .other ts = []) :
    kept P .other (Print.function n q body) =
      ((usesAll body.stmts).flatMap CursorUse.seen).filter P := by
  simp only [QueryDeclaration.copied, List.forall_mem_append, List.forall_mem_cons,
    List.forall_mem_map] at h
  obtain ⟨⟨⟨hFront, hRuntime, hUse, hResult, -⟩, hArguments⟩, hTypes⟩ := h
  have hCommas {print : String × TypeExpr → Tokens}
      (hPrint : ∀ a ∈ q.arguments, kept P .other (print a) = []) :
      kept P .other (commas (q.arguments.map print)) = [] := by
    rw [kept_commas, List.flatMap_map, List.flatMap_eq_nil_iff]
    exact hPrint
  have hCode := kept_stmts hRuntime hTypes []
  rw [kept_nil, List.append_nil, List.append_nil] at hCode
  have hNamed : kept P (.name "use") n.runtime = [] := by
    rw [← hUse, kept_ident]
    rfl
  simp only [Print.function]
  generalize hPrinted : commas (q.arguments.map _) = arguments
  have hArgs : kept P .other arguments = [] := hPrinted ▸ hCommas fun a ha => by
    simp (disch := decide) [hArguments a ha]
  generalize Attribute.tokensOf q.attributes ++ q.visibility = front at hFront ⊢
  simp only [List.append_assoc]
  rw [kept_append, hFront]
  simp (disch := first | decide | simp) [hRuntime, hArgs, hResult, hNamed, hCode]

/-- Whatever the path of the library does, a query of related rows names its tables. -/
theorem names_relationQuery {q : RelationQuery} {t : String} (h : t ∈ q.tables) :
    .names t ∈ kept (fun _ => true) .other (relationQuery n q) := by
  obtain ⟨table, entityColumn, junction⟩ := q
  cases junction with
  | none =>
      obtain rfl := List.mem_singleton.mp h
      simp (disch := decide) [relationQuery, junction, noneValue]
  | some j =>
      rcases List.mem_pair.mp h with rfl | rfl <;>
        simp (disch := decide) [relationQuery, junction, someOf]

theorem stmt_query (n : Names) (out : Var) (sql : StringLiteral) (args : List String) :
    ∃ sent, stmt n (.query out sql args) = sending n.db out.name sent := by
  refine ⟨commas [[sql.token], op "&" ++ [.group .bracket (commas (args.map fun a =>
    Names.path n ["Value", "from"] ++ paren (word a)))]], ?_⟩
  simp [sending]

/-- A copy is printed as the one call of `copy_cursor`. -/
theorem stmt_copy (n : Names) (out cursor : Var) (mutable : Bool) :
    stmt n (.copy out cursor mutable) = copying n.runtime mutable out.name cursor.name := by
  cases mutable <;> simp [copying]

/-- A fetch has the query of the related rows among its arguments. -/
theorem stmt_fetch (n : Names) (out keys : Var) (q : RelationQuery) :
    ∃ args, stmt n (.fetch out keys q) = fetching n.runtime out.name args ∧
      ∀ t ∈ q.tables, .names t ∈ args.readings := by
  refine ⟨commas [word n.db, op "&" ++ relationQuery n q, var keys], by simp [fetching],
    fun t ht => ?_⟩
  rw [readings_eq_kept, kept_commas]
  refine List.mem_flatMap.mpr ⟨op "&" ++ relationQuery n q, by simp, ?_⟩
  simp (disch := decide) [names_relationQuery ht]

variable {u : CursorUse}

/-- What a statement does by itself stands in it. -/
theorem stands_stmt (hUse : u ∈ s.ownUses) : u.Stands n (stmt n s) := by
  cases s with
  | query out sql args =>
      obtain rfl := List.mem_singleton.mp hUse
      obtain ⟨sent, hSent⟩ := stmt_query n out sql args
      exact ⟨sent, .here (hSent ▸ List.infix_refl _)⟩
  | copy out cursor mutable =>
      obtain rfl := List.mem_singleton.mp hUse
      exact .here (stmt_copy n out cursor mutable ▸ List.infix_refl _)
  | fetch out keys query =>
      obtain rfl := List.mem_singleton.mp hUse
      obtain ⟨args, hFetch, hNames⟩ := stmt_fetch n out keys query
      exact ⟨args, .here (hFetch ▸ List.infix_refl _), hNames⟩
  | whileRows cursor body =>
      obtain rfl := List.mem_singleton.mp hUse
      exact .here ⟨word "while", brace (stmts n body), by simp [calling]⟩
  | firstRow out cursor item body result =>
      obtain rfl := List.mem_singleton.mp hUse
      exact .here ⟨word "let" ++ var out ++ op "=" ++ word "if", _, by simp [calling]; rfl⟩
  | reset cursor =>
      obtain rfl := List.mem_singleton.mp hUse
      exact Or.inl (.here ⟨[], op ";", by simp [calling]⟩)
  | unlessEmpty cursor body =>
      obtain rfl := List.mem_singleton.mp hUse
      exact Or.inr (.here ⟨word "if" ++ op "!", brace (stmts n body), by simp [calling]⟩)
  | _ => cases hUse

/-- Every use of a cursor in some code stands in the printed code. -/
theorem stands_stmts {code : List Stmt} (hUse : u ∈ usesAll code) : u.Stands n (stmts n code) := by
  induction code using codeInduction with
  | nil =>
      rw [usesAll_nil] at hUse
      cases hUse
  | cons s rest ihBody ihRest =>
      rw [usesAll_cons, uses_eq, List.append_assoc, List.mem_append, List.mem_append] at hUse
      rw [Print.stmts]
      rcases hUse with hOwn | hInner | hLater
      · exact (stands_stmt hOwn).mono fun ts h => h.mono (List.prefix_append _ _).isInfix
      · exact (ihBody hInner).mono fun ts h =>
          (within_block h).mono (List.prefix_append _ _).isInfix
      · exact (ihRest hLater).mono fun ts h => h.mono (List.suffix_append _ _).isInfix

/-- Every use of a cursor in the body stands in the printed function. -/
theorem stands_function (hUse : u ∈ usesAll body.stmts) :
    u.Stands n (Print.function n q body) := by
  obtain ⟨signature, hFunction⟩ := function_eq n q body
  have hBlock : .group .brace (preamble n ++ (stmts n body.stmts ++ outcome body.out)) ∈
      Print.function n q body := by
    rw [hFunction]
    exact List.mem_append_right _ (List.mem_singleton_self _)
  refine (stands_stmts hUse).mono fun ts h => .inside hBlock (h.mono ?_)
  exact (List.prefix_append _ _).isInfix.trans (List.suffix_append _ _).isInfix

section Own

variable {code : List Stmt} {copied : List Tokens}

/-- What code does by itself its uses do. -/
theorem ownReadings_stmts (hRuntime : n.runtime ∈ copied) (hTypes : typesIn code ⊆ copied)
    (out : Var) : (stmts n code ++ outcome out).ownReadings copied =
      ((usesAll code).flatMap CursorUse.seen).filter fun r =>
        ∀ ts ∈ copied, r ∉ ts.readings := by
  have hCode := kept_stmts (kept_of_copied hRuntime) (fun ts hts => kept_of_copied (hTypes hts))
    (outcome out)
  have hOutcome : kept (fun r => ∀ ts ∈ copied, r ∉ ts.readings) .other (outcome out) = [] := by
    simp (disch := decide) [outcome]
  rw [hOutcome, List.append_nil] at hCode
  exact hCode

/-- What a function does by itself its uses do. -/
theorem ownReadings_function (n : Names) (q : QueryDeclaration) (body : QueryBody) :
    (Print.function n q body).ownReadings (q.copied n body) =
      ((usesAll body.stmts).flatMap CursorUse.seen).filter fun r =>
        ∀ ts ∈ q.copied n body, r ∉ ts.readings :=
  kept_function fun _ => kept_of_copied

end Own

theorem commas_eq_intercalate (items : List Tokens) :
    commas items = List.intercalate [.punct ',' false] items := by
  induction items with
  | nil => simp
  | cons item more ih =>
      cases more with
      | nil => simp
      | cons next more =>
          rw [commas, Parser.joined, ← commas, ih]
          · simp [List.intercalate]
          · exact List.cons_ne_nil next more

/-- The constant says what is known of the query. -/
theorem informs_constant (n : Names) (visibility : Tokens) (name : String) (info : QueryInfo) :
    (constant n visibility name info).Informs info.relationTables info.copiesCursor := by
  refine ⟨visibility ++ word "const" ++ word name ++ op ":" ++ Names.path n ["QueryInfo"] ++
    op "=" ++ Names.path n ["QueryInfo"], ⟨Text.quote info.name⟩, info.sql,
    info.relationTables.map fun table => ⟨Text.quote table⟩, by simp [Function.comp_def], ?_⟩
  simp only [constant, commas_eq_intercalate]
  simp [bool, StringLiteral.token, Function.comp_def]
  rfl

end Pieces

end Print

end TypedQuery
