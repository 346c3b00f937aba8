import TypedQuery.Proofs.Program.Expansion
import TypedQuery.Proofs.Program.Template
import TypedQuery.Proofs.Program.Temporaries

/-! The path of the runtime library in expanded modules. A module expands to one template, which is
filled with the path: all that depends on the options are the places where the path is put in. -/

namespace TypedQuery

open Stmt

def MappedField.parts : MappedField → List Tokens
  | column name _ type => [[.ident name], type.tokens]
  | relation name _ _ => [[.ident name]]

def Entity.parts (e : Entity) : List Tokens :=
  [.ident e.name] :: e.fields.flatMap MappedField.parts

def QueryDeclaration.parts (q : QueryDeclaration) : List Tokens :=
  Attribute.tokensOf q.attributes :: q.visibility :: [.ident q.name] :: q.output.tokens ::
    q.arguments.flatMap fun (name, type) => [[.ident name], type.tokens]

def ModuleItem.parts : ModuleItem → List Tokens
  | struct s entity => s.tokens :: entity.toOption.join.elim [] Entity.parts
  | query declaration => declaration.toOption.elim [] QueryDeclaration.parts
  | other tokens => [tokens]

namespace DeclarationModule

/-- The tokens that a module is made of. -/
def parts (m : DeclarationModule) : List Tokens :=
  Attribute.tokensOf m.attributes :: m.visibility :: [.ident m.name] ::
    m.items.flatMap ModuleItem.parts

/-- The tokens stand next to each other in the module. -/
def Holds (m : DeclarationModule) (ts : Tokens) : Prop := ∃ part ∈ m.parts, ts <:+: part

variable {m : DeclarationModule}

theorem holds_of_mem {ts : Tokens} (h : ts ∈ m.parts) : m.Holds ts := ⟨ts, h, List.infix_rfl⟩

/-- Part of what a module holds is held by it as well. -/
theorem Holds.of_isInfix {ts all : Tokens} (hInfix : ts <:+: all) (h : m.Holds all) :
    m.Holds ts := by
  obtain ⟨part, hPart, hAll⟩ := h
  exact ⟨part, hPart, hInfix.trans hAll⟩

/-- The tokens of an item are held by its module. -/
theorem holds_of_item {item : ModuleItem} (hItem : item ∈ m.items) {ts : Tokens}
    (h : ts ∈ item.parts) : m.Holds ts := by
  refine holds_of_mem ?_
  simp only [parts, List.mem_cons]
  exact Or.inr (Or.inr (Or.inr (List.mem_flatMap.mpr ⟨item, hItem, h⟩)))

theorem holds_of_query {q : QueryDeclaration} (hQuery : q ∈ m.queries) {ts : Tokens}
    (h : ts ∈ q.parts) : m.Holds ts := holds_of_item (mem_queries.mp hQuery) h

/-- The structs of a module are made of its tokens. -/
theorem entity_takes {e : Entity} (h : e ∈ m.schema) : e.Takes m.Holds := by
  rw [schema_eq, List.mem_reverse, List.mem_filterMap] at h
  obtain ⟨item, hItem, hEntity⟩ := h
  unfold ModuleItem.entity? at hEntity
  split at hEntity
  · subst hEntity
    have hParts {ts : Tokens} (hPart : ts ∈ e.parts) : m.Holds ts :=
      holds_of_item hItem (List.mem_cons_of_mem _ hPart)
    refine ⟨hParts List.mem_cons_self, fun f hField => ?_⟩
    have hOwn {ts : Tokens} (hPart : ts ∈ f.parts) : m.Holds ts :=
      hParts (List.mem_cons_of_mem _ (List.mem_flatMap.mpr ⟨f, hField, hPart⟩))
    cases f with
    | column name column type =>
        exact ⟨hOwn (by simp [MappedField.parts]), hOwn (by simp [MappedField.parts])⟩
    | relation name type mapping => exact hOwn (by simp [MappedField.parts])
  · cases hEntity

end DeclarationModule

namespace Print

/-- No constant of a query is called like the library, as its name ends in `_QUERY`. -/
theorem not_namesLibrary_constant (name : String) : ¬NamesLibrary (name ++ "_QUERY") := by
  have hEnd (s : String) (h : name ++ "_QUERY" = s) : s.toList.getLast? = some 'Y' := by
    rw [← h]
    simp
  rintro (h | h)
  · exact absurd (hEnd _ h) (by decide)
  · exact absurd (hEnd _ h) (by decide)

variable {own : Tokens → Prop}

/-- The constant names types of the library, and apart from these only texts and truth values. -/
theorem printed_constant {visibility : Tokens} {name : String} (hVisibility : own visibility)
    (hName : ¬NamesLibrary name) (info : QueryInfo) :
    Printed own fun runtime => constant ⟨runtime, "db"⟩ visibility name info := by
  have hInfo : Printed own fun runtime => Names.path ⟨runtime, "db"⟩ ["QueryInfo"] :=
    .path (by decide)
  have hTables : Printed own fun _ =>
      op "&" ++ [.group .bracket (commas (info.relationTables.map text))] :=
    (Printed.op (by decide)).append (.group .bracket (.commas fun s _ => .text s))
  have hCopies : Printed own fun _ => bool info.copiesCursor := by
    refine .word ?_
    cases info.copiesCursor <;> decide
  have hFields : Printed own fun _ =>
      field "name" (text info.name) ++ field "sql" [info.sql.token] ++
        field "relation_tables"
            (op "&" ++ [.group .bracket (commas (info.relationTables.map text))])
          ++ field "copies_cursor" (bool info.copiesCursor) :=
    (((Printed.field (.text info.name) (.word (by decide))).append
      (.field (.literal info.sql.text) (.word (by decide)))).append
        (hTables.field (.word (by decide)))).append (hCopies.field (.word (by decide)))
  have hHead : Printed own fun _ => visibility ++ word "const" ++ word name ++ op ":" :=
    (((Printed.copied hVisibility).append (.word (by decide))).append (.word hName)).append
      (.op (by decide))
  exact .statement (((hHead.append hInfo).append (.op (by decide))).append hInfo |>.append
    (.brace hFields))

/-- Arguments are copied from the declaration behind the connection. -/
theorem printed_arguments {q : QueryDeclaration} (hParts : ∀ ts ∈ q.parts, own ts) :
    Printed own fun _ => word "db" ++ op ":" ++ op "&" ++ word connectionType ++ op "," ++
      commas (q.arguments.map fun (name, type) => word name ++ op ":" ++ type.tokens) := by
  have hConnection : Printed own fun _ =>
      word "db" ++ op ":" ++ op "&" ++ word connectionType ++ op "," :=
    ((((Printed.word (by decide)).append (.op (by decide))).append (.op (by decide))).append
      (.word (by decide))).append (.op (by decide))
  refine hConnection.append (.commas fun a hMem => ?_)
  have hOwn {ts : Tokens} (hPart : ts ∈ [[.ident a.1], a.2.tokens]) : own ts := by
    refine hParts ts ?_
    simp only [QueryDeclaration.parts, List.mem_cons]
    exact Or.inr (Or.inr (Or.inr (Or.inr (List.mem_flatMap.mpr ⟨a, hMem, hPart⟩))))
  exact ((Printed.copied (hOwn List.mem_cons_self)).append (.op (by decide))).append
    (.copied (hOwn (List.mem_cons_of_mem _ List.mem_cons_self)))

/-- The path stands behind `use` as well. -/
theorem printed_preamble : Printed own fun runtime => preamble ⟨runtime, "db"⟩ := by
  have hAllowance : Printed own fun _ =>
      op "#" ++ [.group .bracket (word "allow" ++ paren (word "unused_imports"))] :=
    (Printed.op (by decide)).append (.group .bracket ((Printed.word (by decide)).append
      (.paren (.word (by decide)))))
  have hNames : Printed own fun _ => word "Cursor" ++ word "as" ++ word "_" ++ op "," ++
      word "CursorExt" ++ word "as" ++ word "_" :=
    ((((((Printed.word (by decide)).append (.word (by decide))).append (.word (by decide))).append
      (.op (by decide))).append (.word (by decide))).append (.word (by decide))).append
        (.word (by decide))
  exact .statement (.colonsBrace ((hAllowance.append (.word (by decide))).append .runtime) hNames)

/-- A function is printed the same way for every path, if its statements are. -/
theorem printed_function {q : QueryDeclaration} {body : QueryBody}
    (hParts : ∀ ts ∈ q.parts, own ts)
    (hBody : Printed own fun runtime => stmts ⟨runtime, "db"⟩ body.stmts)
    (hOut : Reserved body.out.name) :
    Printed own fun runtime => function ⟨runtime, "db"⟩ q body := by
  have hPart {ts : Tokens} (h : ts = Attribute.tokensOf q.attributes ∨ ts = q.visibility ∨
      ts = [.ident q.name] ∨ ts = q.output.tokens) : Printed own fun _ => ts := by
    refine .copied (hParts ts ?_)
    rcases h with rfl | rfl | rfl | rfl <;> simp [QueryDeclaration.parts]
  have hName : Printed own fun _ => word q.name := hPart (by simp [word])
  have hHead : Printed own fun _ => Attribute.tokensOf q.attributes ++ q.visibility ++
      word "async" ++ word "fn" ++ word q.name ++ generic [word connectionType] :=
    (((((hPart (by simp)).append (hPart (by simp))).append (.word (by decide))).append
      (.word (by decide))).append hName).append (.genericOne (.word (by decide)))
  have hResult : Printed own fun runtime => op "->" ++
      Names.path ⟨runtime, "db"⟩ ["QuarryResult"] ++ generic [q.output.tokens] ++ word "where" :=
    (((Printed.op (by decide)).append (.path (by decide))).append
      (.genericOne (hPart (by simp)))).append (.word (by decide))
  have hBound : Printed own fun runtime => word connectionType ++ op ":" ++
      Names.path ⟨runtime, "db"⟩ ["Connection"] ++ op "+" ++ op "?" ++ word "Sized" ++ op "," :=
    ((((((Printed.word (by decide)).append (.op (by decide))).append (.path (by decide))).append
      (.op (by decide))).append (.op (by decide))).append (.word (by decide))).append
        (.op (by decide))
  have hOutcome : Printed own fun _ => outcome body.out :=
    (Printed.std (by decide)).append (.paren (.var hOut))
  have hAll := ((((hHead.append (.paren (printed_arguments hParts))).append hResult).append
    hBound).append (.brace ((printed_preamble.append hBody).append hOutcome)))
  simpa only [function, preamble, outcome, List.append_assoc] using hAll

/-- An error names nothing of the library. -/
theorem printed_compileError (e : SourceError) : Printed own fun _ => compileError e :=
  ((Printed.word (by decide)).append (.op (by decide))).append (.brace (.text e.message))

theorem printed_tableName {e : Entity} (h : own [.ident e.name]) :
    Printed own fun _ => tableName e := by
  unfold tableName
  cases e.table with
  | none => exact .nil
  | some table =>
      have hName : Printed own fun _ => word e.name := .copied h
      refine ((Printed.word (by decide)).append hName).append (.brace (.statement ?_))
      exact (((((((Printed.word (by decide)).append (.word (by decide))).append
        (.word (by decide))).append (.op (by decide))).append (.op (by decide))).append
          (.lifetime (by decide))).append (.word (by decide))).append (.op (by decide)) |>.append
            (.literal table.text)

end Print

/-- The code is printed for every path or for none. -/
def PrintedOrNone (own : Tokens → Prop) (code : Options → Option Tokens) : Prop :=
  (∀ options, code options = none) ∨
    ∃ printed, Printed own printed ∧ ∀ options, code options = some (printed options.runtime)

namespace DeclarationModule

variable {m : DeclarationModule}

/-- A query expands to one template, or to no code for any path. -/
theorem printed_ofQuery {q : QueryDeclaration} (hQuery : q ∈ m.queries) :
    PrintedOrNone m.Holds fun options => (Expansion.ofQuery m.schema q).tokens? options := by
  have hParts {ts : Tokens} (h : ts ∈ q.parts) : m.Holds ts := holds_of_query hQuery h
  unfold Expansion.ofQuery
  cases hShape : q.shape m.schema with
  | error e => exact Or.inr ⟨_, Print.printed_compileError e, fun options => rfl⟩
  | ok shape =>
      by_cases hName : Text.isIdentifier q.constantName = true
      · have hTakes : AllTake m.Holds (q.body shape).stmts := by
          refine QueryDeclaration.takes_body (fun a hMem => hParts ?_)
            (Schema.takes_of_shape (fun e hMem => entity_takes hMem) Holds.of_isInfix hShape
              (hParts (by simp [QueryDeclaration.parts])))
          simp only [QueryDeclaration.parts, List.mem_cons, List.mem_flatMap]
          exact Or.inr (Or.inr (Or.inr (Or.inr ⟨a, hMem, Or.inl rfl⟩)))
        have hVisibility : m.Holds q.visibility := hParts (by simp [QueryDeclaration.parts])
        have hConstant := Print.printed_constant hVisibility
          (Print.not_namesLibrary_constant (Text.uppercase q.name)) (q.info shape)
        have hFunction := Print.printed_function (fun ts hMem => hParts hMem)
          (Print.printed_stmts hTakes (q.reserved_vars shape)) (q.reserved_out shape)
        refine Or.inr ⟨_, hConstant.append hFunction, fun options => ?_⟩
        exact if_pos hName
      · exact Or.inl fun options => if_neg hName

/-- All functions are printed, or none is. -/
theorem printed_functions : PrintedOrNone m.Holds m.functions? := by
  unfold functions?
  have hAll (q : QueryDeclaration) (h : q ∈ m.queries) := printed_ofQuery h
  generalize m.queries = queries at hAll
  induction queries with
  | nil => exact Or.inr ⟨_, .nil, fun options => rfl⟩
  | cons q rest ih =>
      obtain ⟨hHead, hRest⟩ := List.forall_mem_cons.mp hAll
      simp only [List.mapM_cons]
      rcases hHead with hNone | ⟨code, hCode, hSome⟩
      · exact Or.inl fun options => by simp [hNone]
      · rcases ih hRest with hNone | ⟨later, hLater, hMore⟩
        · refine Or.inl fun options => ?_
          have hMap := Option.map_eq_none_iff.mp (hNone options)
          simp [hSome, hMap]
        · refine Or.inr ⟨_, hCode.append hLater, fun options => ?_⟩
          obtain ⟨pieces, hPieces, hFlat⟩ := Option.map_eq_some_iff.mp (hMore options)
          simp [hSome, hPieces, hFlat]

theorem printed_others : Printed m.Holds fun _ => m.others := by
  refine .flatMap fun item hItem => ?_
  cases item with
  | other tokens => exact .copied (holds_of_item hItem (by simp [ModuleItem.parts]))
  | struct s entity => exact .nil
  | query declaration => exact .nil

/-- Structs are emitted without the path, each behind its constant. -/
theorem printed_structs : Printed m.Holds fun _ => m.structs := by
  refine .flatMap fun item hItem => ?_
  cases item with
  | struct s entity =>
      have hStruct : Printed m.Holds fun _ => s.tokens :=
        .copied (holds_of_item hItem (by simp [ModuleItem.parts]))
      match entity with
      | .error e | .ok none => exact hStruct
      | .ok (some e) =>
          refine (Print.printed_tableName (holds_of_item hItem ?_)).append hStruct
          simp [ModuleItem.parts, Entity.parts, Except.toOption]
  | other tokens => exact .nil
  | query declaration => exact .nil

theorem printed_errors : Printed m.Holds fun _ => m.errors := by
  refine .flatMap fun item _ => ?_
  cases item with
  | struct s entity =>
      cases entity with
      | error e => exact Print.printed_compileError e
      | ok entity => exact .nil
  | query declaration =>
      cases declaration with
      | error e => exact Print.printed_compileError e
      | ok q => exact .nil
  | other tokens => exact .nil

/-- The whole module is one template, if its queries have code at all. -/
theorem printed_expand : PrintedOrNone m.Holds m.expand? := by
  unfold expand?
  rcases m.printed_functions with hNone | ⟨code, hCode, hSome⟩
  · exact Or.inl fun options => by simp only [hNone, Option.map_none]
  · have hPart {ts : Tokens} (h : ts = Attribute.tokensOf m.attributes ∨ ts = m.visibility ∨
        ts = [.ident m.name]) : Printed m.Holds fun _ => ts := by
      refine .copied (holds_of_mem ?_)
      rcases h with rfl | rfl | rfl <;> simp [parts]
    have hName : Printed m.Holds fun _ => Print.word m.name := hPart (by simp [Print.word])
    have hHead := (((hPart (Or.inl rfl)).append (hPart (Or.inr (Or.inl rfl)))).append
      (.word (by decide : ¬NamesLibrary "mod"))).append hName
    refine Or.inr ⟨_, hHead.append (.brace (((printed_others.append printed_structs).append
      hCode).append printed_errors)), fun options => ?_⟩
    simp only [hSome, Option.map_some]

/-- Expansion is parametric in the path of the runtime library. Whether a module expands does not
depend on the path, and if it does, its expansions for all paths are one template, filled with the
path. So the expansion for another path is the same code with the other path where the first one was
put in. Of the other identifiers none names the library, except those of the module itself. -/
theorem expansion_parametric_in_runtime (m : DeclarationModule) :
    ((∀ options, m.expand? options = none) ∨ ∃ template, Template.Sound m.Holds template ∧
      ∀ options, m.expand? options = some (Template.fill options.runtime template)) ∧
    ∀ options tokens, m.expand? options = some tokens → ∀ name ∈ tokens.identifiers,
      NamesLibrary name →
        name ∈ options.runtime.identifiers ∨ ∃ part ∈ m.parts, name ∈ part.identifiers := by
  rcases m.printed_expand with hNone | ⟨code, ⟨template, hSound, hCode⟩, hSome⟩
  · refine ⟨Or.inl hNone, fun options tokens hTokens => ?_⟩
    rw [hNone] at hTokens
    cases hTokens
  · have hTemplate : Template.Sound m.Holds template := by
      simpa using hSound [] .nil
    have hFill (options : Options) :
        m.expand? options = some (Template.fill options.runtime template) := by
      rw [hSome, hCode]
    refine ⟨Or.inr ⟨template, hTemplate, hFill⟩,
      fun options tokens hTokens name hMem hLibrary => ?_⟩
    rw [hFill, Option.some.injEq] at hTokens
    subst hTokens
    refine (hTemplate.mem_identifiers hLibrary hMem).imp_right ?_
    rintro ⟨ts, ⟨part, hPart, hInfix⟩, hName⟩
    exact ⟨part, hPart, Tokens.identifiers_subset hInfix hName⟩

end DeclarationModule

end TypedQuery
