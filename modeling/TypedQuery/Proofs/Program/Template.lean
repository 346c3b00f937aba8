import TypedQuery.Proofs.Program.Copied
import TypedQuery.Proofs.Program.Occurrences

/-! Printed code with the places where the path of the runtime library was put in. Code that is
printed for any path is one template that is filled with the path. -/

namespace TypedQuery

/-- A piece of printed code, by where its tokens come from. -/
inductive Piece where
  /-- An identifier of the generator. -/
  | word (s : String)
  | op (spelling : String)
  | lifetime (name : String)
  | literal (text : String)
  /-- Tokens that stand in a declaration. -/
  | copied (ts : Tokens)
  /-- The path of the runtime library. -/
  | runtime
  | group (delimiter : Delimiter) (inner : List Piece)

abbrev Template := List Piece

/-- Whether an identifier is the name of the runtime library, with or without a mark. -/
def NamesLibrary (s : String) : Prop := s = "quarry" ∨ s = "r#quarry"

instance : DecidablePred NamesLibrary := fun s =>
  inferInstanceAs (Decidable (s = "quarry" ∨ s = "r#quarry"))

namespace Template

mutual

def fillPiece (runtime : Tokens) : Piece → Tokens
  | .word s => [.ident s]
  | .op spelling => Token.operator spelling
  | .lifetime name => Token.lifetime name
  | .literal text => [.literal text]
  | .copied ts => ts
  | .runtime => runtime
  | .group d inner => [.group d (fill runtime inner)]

/-- The code with a path for the runtime library. -/
def fill (runtime : Tokens) : List Piece → Tokens
  | [] => []
  | piece :: rest => fillPiece runtime piece ++ fill runtime rest

end

/-- No identifier of the generator names the runtime library, no `::` of the generator stands in
front of its path, and what is copied comes from the declarations. -/
inductive Sound (own : Tokens → Prop) : Template → Prop where
  | nil : Sound own []
  | word {s : String} {rest : Template} (hName : ¬NamesLibrary s) (hRest : Sound own rest) :
      Sound own (.word s :: rest)
  | op {spelling : String} {rest : Template}
      (hPath : spelling = "::" → rest.head? ≠ some .runtime) (hRest : Sound own rest) :
      Sound own (.op spelling :: rest)
  | lifetime {name : String} {rest : Template} (hName : ¬NamesLibrary name)
      (hRest : Sound own rest) : Sound own (.lifetime name :: rest)
  | literal {text : String} {rest : Template} (hRest : Sound own rest) :
      Sound own (.literal text :: rest)
  | copied {ts : Tokens} {rest : Template} (hOwn : own ts) (hRest : Sound own rest) :
      Sound own (.copied ts :: rest)
  | runtime {rest : Template} (hRest : Sound own rest) : Sound own (.runtime :: rest)
  | group {d : Delimiter} {inner rest : Template} (hInner : Sound own inner)
      (hRest : Sound own rest) : Sound own (.group d inner :: rest)

variable {own : Tokens → Prop} {runtime : Tokens}

@[simp]
theorem fill_append (template rest : Template) :
    fill runtime (template ++ rest) = fill runtime template ++ fill runtime rest := by
  induction template with
  | nil => simp [fill]
  | cons piece template ih => simp [fill, ih]

theorem mem_identifiers_cons {piece : Piece} {rest : Template} {name : String} :
    name ∈ (fill runtime (piece :: rest)).identifiers ↔
      name ∈ (fillPiece runtime piece).identifiers ∨ name ∈ (fill runtime rest).identifiers := by
  rw [fill, Tokens.identifiers_append, List.mem_append]

/-- Identifiers that name the library come from its path or from the declarations. -/
theorem Sound.mem_identifiers {template : Template} (h : Sound own template) {name : String}
    (hLibrary : NamesLibrary name) (hMem : name ∈ (fill runtime template).identifiers) :
    name ∈ runtime.identifiers ∨ ∃ ts, own ts ∧ name ∈ ts.identifiers := by
  induction h with
  | nil => cases hMem
  | word hName _ ih | lifetime hName _ ih =>
      rcases mem_identifiers_cons.mp hMem with hOwn | hRest
      · obtain rfl := List.mem_singleton.mp hOwn
        exact absurd hLibrary hName
      · exact ih hRest
  | @op spelling _ _ _ ih =>
      have hNone : (fillPiece runtime (.op spelling)).identifiers = [] :=
        Tokens.identifiers_operator spelling
      rw [mem_identifiers_cons, hNone] at hMem
      exact ih (hMem.resolve_left List.not_mem_nil)
  | literal _ ih => exact ih ((mem_identifiers_cons.mp hMem).resolve_left List.not_mem_nil)
  | copied hOwn _ ih =>
      rcases mem_identifiers_cons.mp hMem with hHere | hRest
      · exact Or.inr ⟨_, hOwn, hHere⟩
      · exact ih hRest
  | runtime _ ih =>
      rcases mem_identifiers_cons.mp hMem with hHere | hRest
      · exact Or.inl hHere
      · exact ih hRest
  | group _ _ ihInner ih =>
      rcases mem_identifiers_cons.mp hMem with hHere | hRest
      · refine ihInner ?_
        simpa [fillPiece, Tokens.identifiers, Tokens.occurrences, Token.occurrencesIn,
          Token.occurrences] using hHere
      · exact ih hRest

end Template

/-- The code is one template for every path, whatever stands behind it. -/
def Printed (own : Tokens → Prop) (code : Tokens → Tokens) : Prop :=
  ∃ template : Template, (∀ rest, Template.Sound own rest → Template.Sound own (template ++ rest)) ∧
    ∀ runtime, code runtime = Template.fill runtime template

namespace Printed

variable {own : Tokens → Prop} {code rest : Tokens → Tokens}

theorem nil : Printed own fun _ => [] := ⟨[], fun _ h => h, fun _ => rfl⟩

/-- Two templates one after the other are a template again, whatever is printed behind them. -/
theorem append (h : Printed own code) (hRest : Printed own rest) :
    Printed own fun runtime => code runtime ++ rest runtime := by
  obtain ⟨front, hFront, hCode⟩ := h
  obtain ⟨back, hBack, hBehind⟩ := hRest
  refine ⟨front ++ back, fun after hAfter => ?_, fun runtime => ?_⟩
  · rw [List.append_assoc]
    exact hFront _ (hBack after hAfter)
  · change code runtime ++ rest runtime = _
    rw [hCode, hBehind, Template.fill_append]

/-- A single piece that may stand in front of anything. -/
theorem piece (piece : Piece) (h : ∀ rest, Template.Sound own rest →
    Template.Sound own (piece :: rest)) (hCode : ∀ runtime, code runtime =
      Template.fillPiece runtime piece) : Printed own code := by
  refine ⟨[piece], h, fun runtime => ?_⟩
  rw [hCode, Template.fill, Template.fill, List.append_nil]

/-- An identifier of the generator may be any but the name of the library. -/
theorem word {s : String} (h : ¬NamesLibrary s) : Printed own fun _ => Print.word s :=
  piece (.word s) (fun _ => .word h) fun _ => rfl

/-- Operators are printed as they are; only what stands behind `::` must be known, see `colons`. -/
theorem op {spelling : String} (h : spelling ≠ "::") : Printed own fun _ => Print.op spelling :=
  piece (.op spelling) (fun _ => .op fun hColons => absurd hColons h) fun _ => rfl

theorem lifetime {name : String} (h : ¬NamesLibrary name) :
    Printed own fun _ => Token.lifetime name :=
  piece (.lifetime name) (fun _ => .lifetime h) fun _ => rfl

theorem literal (text : String) : Printed own fun _ => [.literal text] :=
  piece (.literal text) (fun _ => .literal) fun _ => rfl

/-- Tokens of a declaration are printed as they stand, whatever they name. -/
theorem copied {ts : Tokens} (h : own ts) : Printed own fun _ => ts :=
  piece (.copied ts) (fun _ => .copied h) fun _ => rfl

/-- The path of the library is a place of its own. -/
theorem runtime : Printed own fun runtime => runtime :=
  piece .runtime (fun _ => .runtime) fun _ => rfl

/-- Inside a group stands a template of its own, behind which nothing comes. -/
theorem group (d : Delimiter) (h : Printed own code) :
    Printed own fun runtime => [.group d (code runtime)] := by
  obtain ⟨template, hSound, hCode⟩ := h
  have hInner : Template.Sound own template := by
    simpa using hSound [] .nil
  exact piece (.group d template) (fun _ => .group hInner) fun runtime => by
    rw [hCode, Template.fillPiece]

/-- Behind `::` stands something else than the path of the runtime library. -/
theorem colons (first : Piece) (hFirst : first ≠ .runtime)
    (h : ∀ rest, Template.Sound own rest → Template.Sound own (first :: rest))
    (hCode : ∀ runtime, code runtime = Print.op "::" ++ Template.fillPiece runtime first) :
    Printed own code := by
  refine ⟨[.op "::", first], fun rest hRest => .op (fun _ => ?_) (h rest hRest), fun runtime => ?_⟩
  · exact fun hSame => hFirst (Option.some.inj hSame)
  · rw [hCode, Template.fill, Template.fill, Template.fill, List.append_nil]
    rfl

/-- Code that is printed for each member of a list. -/
theorem flatMap {α : Type} {as : List α} {print : Tokens → α → Tokens}
    (h : ∀ a ∈ as, Printed own fun runtime => print runtime a) :
    Printed own fun runtime => as.flatMap (print runtime) := by
  induction as with
  | nil => exact nil
  | cons a as ih =>
      obtain ⟨hHead, hTail⟩ := List.forall_mem_cons.mp h
      exact hHead.append (ih hTail)

theorem paren (h : Printed own code) : Printed own fun runtime => Print.paren (code runtime) :=
  group .parenthesis h

theorem brace (h : Printed own code) : Printed own fun runtime => Print.brace (code runtime) :=
  group .brace h

theorem text (s : String) : Printed own fun _ => Print.text s := literal _

/-- No temporary is called like the library. -/
theorem not_namesLibrary {s : String} (h : Reserved s) : ¬NamesLibrary s := by
  rintro (rfl | rfl)
  · exact absurd h (by decide)
  · exact absurd h (by decide)

theorem var {v : Var} (h : Reserved v.name) : Printed own fun _ => Print.var v :=
  word (not_namesLibrary h)

/-- A name of the generator may stand behind `::`, as it is not the path of the library. -/
theorem colons_word {s : String} (h : ¬NamesLibrary s) :
    Printed own fun _ => Print.op "::" ++ Print.word s :=
  colons (.word s) (fun hSame => nomatch hSame) (fun _ => .word h) fun _ => rfl

/-- The rest of a path, without what it starts from. -/
theorem below {names : List String} (h : ∀ s ∈ names, ¬NamesLibrary s) :
    Printed own fun _ => Print.below names :=
  flatMap fun s hMem => colons_word (h s hMem)

theorem std {names : List String} (h : ∀ s ∈ names, ¬NamesLibrary s) :
    Printed own fun _ => Print.std names :=
  below (List.forall_mem_cons.mpr ⟨by decide, h⟩)

/-- A path into the library starts with the path of the library. -/
theorem path {names : List String} {db : String} (h : ∀ s ∈ names, ¬NamesLibrary s) :
    Printed own fun runtime => Print.Names.path ⟨runtime, db⟩ names := runtime.append (below h)

/-- Items with one separator between them, which is not `::`. -/
theorem joined {α : Type} {separator : String} (hSeparator : separator ≠ "::") {as : List α}
    {print : Tokens → α → Tokens} (h : ∀ a ∈ as, Printed own fun runtime => print runtime a) :
    Printed own fun runtime => Parser.joined separator (as.map (print runtime), false) := by
  induction as with
  | nil =>
      simp only [List.map_nil, Parser.joined]
      exact nil
  | cons a as ih =>
      obtain ⟨hHead, hTail⟩ := List.forall_mem_cons.mp h
      cases as with
      | nil =>
          simp only [List.map_cons, List.map_nil, Parser.joined]
          exact hHead.append nil
      | cons next as =>
          simp only [List.map_cons, Parser.joined]
          exact (hHead.append (op hSeparator)).append (ih hTail)

theorem commas {α : Type} {as : List α} {print : Tokens → α → Tokens}
    (h : ∀ a ∈ as, Printed own fun runtime => print runtime a) :
    Printed own fun runtime => Print.commas (as.map (print runtime)) := joined (by decide) h

/-- A name behind `::`. -/
theorem member {s : String} (h : Printed own code) (hName : ¬NamesLibrary s) :
    Printed own fun runtime => code runtime ++ Print.op "::" ++ Print.word s := by
  have hAll := h.append (colons_word hName)
  simpa only [List.append_assoc] using hAll

/-- A group behind `::`. -/
theorem colonsBrace (h : Printed own code) (hInner : Printed own rest) :
    Printed own fun runtime => code runtime ++ Print.op "::" ++ Print.brace (rest runtime) := by
  obtain ⟨inner, hSound, hCode⟩ := hInner
  have hSingle : Template.Sound own inner := by
    simpa using hSound [] .nil
  have hBehind : Printed own fun runtime => Print.op "::" ++ Print.brace (rest runtime) :=
    colons (.group .brace inner) (fun hSame => nomatch hSame) (fun _ => .group hSingle)
      fun runtime => by rw [hCode]; rfl
  have hAll := h.append hBehind
  simpa only [List.append_assoc] using hAll

/-- Arguments in angle brackets behind `::`. -/
theorem turbofish (h : Printed own code) (hArgs : Printed own rest) :
    Printed own fun runtime =>
      code runtime ++ Print.op "::" ++ (Print.op "<" ++ rest runtime ++ Print.op ">") := by
  have hOpen : Printed own fun _ => Print.op "::" ++ Print.op "<" :=
    colons (.op "<") (fun hSame => nomatch hSame) (fun _ => .op fun hSame => nomatch hSame)
      fun _ => rfl
  have hAll := ((h.append hOpen).append hArgs).append (op (by decide : ">" ≠ "::"))
  simpa only [List.append_assoc] using hAll

theorem commasOne (h : Printed own code) :
    Printed own fun runtime => Print.commas [code runtime] := by
  simp only [Print.commas, Parser.joined]
  exact h.append nil

/-- One more item in front of a list with commas. -/
theorem commasCons {next : Tokens → Tokens} {more : Tokens → List Tokens} (h : Printed own code)
    (hMore : Printed own fun runtime => Print.commas (next runtime :: more runtime)) :
    Printed own fun runtime => Print.commas (code runtime :: next runtime :: more runtime) := by
  simp only [Print.commas, Parser.joined] at hMore ⊢
  exact (h.append (op (by decide))).append hMore

theorem genericOne (h : Printed own code) :
    Printed own fun runtime => Print.generic [code runtime] :=
  ((op (by decide)).append h.commasOne).append (op (by decide))

/-- A new collection, by its type with its arguments. -/
theorem newCollection {args : Tokens → List Tokens} (h : Printed own code)
    (hArgs : Printed own fun runtime => Print.commas (args runtime)) :
    Printed own fun runtime => code runtime ++ Print.op "::" ++ Print.generic (args runtime) ++
      Print.op "::" ++ Print.word "new" ++ Print.paren [] :=
  ((h.turbofish hArgs).member (by decide)).append (paren nil)

/-- A call without arguments. The name of a method is one of the generator. -/
theorem callNone {method : String} (h : Printed own code) (hMethod : ¬NamesLibrary method) :
    Printed own fun runtime => Print.call (code runtime) method [] := by
  simp only [Print.call, Print.commas, Parser.joined]
  exact ((h.append (op (by decide))).append (word hMethod)).append (paren nil)

theorem callOne {method : String} (h : Printed own code) (hMethod : ¬NamesLibrary method)
    (hArgument : Printed own rest) :
    Printed own fun runtime => Print.call (code runtime) method [rest runtime] :=
  ((h.append (op (by decide))).append (word hMethod)).append (paren hArgument.commasOne)

/-- A call with two arguments, of which each may contain the path. -/
theorem callTwo {method : String} {last : Tokens → Tokens} (h : Printed own code)
    (hMethod : ¬NamesLibrary method) (hFirst : Printed own rest) (hLast : Printed own last) :
    Printed own fun runtime => Print.call (code runtime) method [rest runtime, last runtime] :=
  ((h.append (op (by decide))).append (word hMethod)).append
    (paren (hFirst.commasCons hLast.commasOne))

theorem question (h : Printed own code) :
    Printed own fun runtime => Print.question (code runtime) := h.append (op (by decide))

theorem await (h : Printed own code) : Printed own fun runtime => Print.await (code runtime) :=
  (h.append (op (by decide))).append (word (by decide))

theorem letVar {v : Var} (h : Printed own code) (hVar : Reserved v.name) :
    Printed own fun runtime => Print.letVar v (code runtime) :=
  ((((word (by decide)).append (var hVar)).append (op (by decide))).append h).append
    (op (by decide))

theorem letMut {v : Var} (h : Printed own code) (hVar : Reserved v.name) :
    Printed own fun runtime => Print.letMut v (code runtime) :=
  (((((word (by decide)).append (word (by decide))).append (var hVar)).append
    (op (by decide))).append h).append (op (by decide))

/-- A field may have a declared name, so all that is asked of the name is that it is printed alike.
-/
theorem field {name : String} (h : Printed own code)
    (hName : Printed own fun _ => Print.word name) :
    Printed own fun runtime => Print.field name (code runtime) :=
  ((hName.append (op (by decide))).append h).append (op (by decide))

theorem someOf (h : Printed own code) :
    Printed own fun runtime => Print.someOf (code runtime) := (std (by decide)).append (paren h)

theorem noneValue : Printed own fun _ => Print.noneValue := std (by decide)

theorem keyOf {cursor index : Var} (hCursor : Reserved cursor.name)
    (hIndex : Reserved index.name) : Printed own fun _ => Print.keyOf cursor index :=
  ((var hCursor).callOne (by decide) (var hIndex)).question.callNone (by decide)

/-- The statement for a key that is present names only `key` by itself. -/
theorem ifKey (h : Printed own code) (hBody : Printed own rest) :
    Printed own fun runtime => Print.ifKey (code runtime) (rest runtime) :=
  (((((word (by decide)).append (word (by decide))).append (someOf (word (by decide)))).append
    (op (by decide))).append h).append (brace hBody)

theorem statement (h : Printed own code) :
    Printed own fun runtime => code runtime ++ Print.op ";" := h.append (op (by decide))

/-- A call that is a statement, with a variable as its argument. -/
theorem callStatement {method : String} {v : Var} (h : Printed own code)
    (hMethod : ¬NamesLibrary method) (hVar : Reserved v.name) :
    Printed own fun runtime => Print.call (code runtime) method [Print.var v] ++ Print.op ";" :=
  (h.callOne hMethod (var hVar)).statement

/-- A variable in a type of the library. -/
theorem wrapped {names : List String} {db : String} {v : Var}
    (h : ∀ s ∈ names, ¬NamesLibrary s) (hVar : Reserved v.name) : Printed own fun runtime =>
      Print.Names.path ⟨runtime, db⟩ names ++ Print.paren (Print.var v) :=
  (path h).append (paren (var hVar))

/-- A number that a variable starts with. -/
theorem zero (h : Printed own code) : Printed own fun runtime => code runtime ++ Print.op ":" ++
    Print.word "usize" ++ Print.op "=" ++ [.literal "0"] ++ Print.op ";" :=
  ((((h.append (op (by decide))).append (word (by decide))).append (op (by decide))).append
    (literal "0")).statement

theorem newList : Printed own fun _ => Print.newList := std (by decide)

theorem entry {map key : Var} (hMap : Reserved map.name) (hKey : Reserved key.name) :
    Printed own fun _ => Print.entry map key := (var hMap).callOne (by decide) (var hKey)

theorem groupOf {map key : Var} (hMap : Reserved map.name) (hKey : Reserved key.name) :
    Printed own fun _ => Print.groupOf map key := (entry hMap hKey).callOne (by decide) newList

theorem nextRow {cursor : Var} (h : Reserved cursor.name) :
    Printed own fun _ => Print.nextRow cursor := (var h).callNone (by decide)

/-- Tables and columns are texts, and only the types around them are those of the library. -/
theorem relationQuery (db : String) (q : RelationQuery) :
    Printed own fun runtime => Print.relationQuery ⟨runtime, db⟩ q := by
  have hField (name s : String) (hName : ¬NamesLibrary name) :
      Printed own fun _ => Print.field name (Print.text s) := (text s).field (word hName)
  have hJunction : Printed own fun runtime => Print.junction ⟨runtime, db⟩ q.junction := by
    cases q.junction with
    | none => exact noneValue
    | some j =>
        refine someOf ((path (by decide)).append (brace ?_))
        exact ((hField _ _ (by decide)).append (hField _ _ (by decide))).append
          (hField _ _ (by decide))
  refine (path (by decide)).append (brace ?_)
  exact ((hField _ _ (by decide)).append (hField _ _ (by decide))).append
    (hJunction.field (word (by decide)))

theorem borrowMut {v : Var} (h : Reserved v.name) : Printed own fun _ => Print.borrowMut v :=
  ((op (by decide)).append (word (by decide))).append (var h)

/-- The value of a column of a type. -/
theorem read {cursor index : Var} {type : TypeExpr} (hCursor : Reserved cursor.name)
    (hIndex : Reserved index.name) (hType : own type.tokens) :
    Printed own fun _ => Print.read cursor index type := by
  have hGet : Printed own fun _ => Print.var cursor ++ Print.op "." ++ Print.word "get" :=
    ((var hCursor).append (op (by decide))).append (word (by decide))
  simp only [Print.read, Print.generic, Print.commas, Parser.joined]
  exact ((hGet.turbofish ((copied hType).append nil)).append (paren (var hIndex))).question

/-- A field that is read from a column takes its name and its type from the declaration. -/
theorem fieldRead {cursor : Var} {f : FieldRead} (hCursor : Reserved cursor.name)
    (hIndex : Reserved f.index.name) (hName : own [.ident f.name]) (hType : own f.type.tokens) :
    Printed own fun _ => Print.fieldRead cursor f :=
  (read hCursor hIndex hType).field (copied hName)

/-- A field that is filled from groups names temporaries and methods of `std`. -/
theorem groupRead {cursor : Var} {g : GroupRead} (hCursor : Reserved cursor.name)
    (hIndex : Reserved g.keyIndex.name) (hGroups : Reserved g.groups.name) :
    Printed own fun _ => Print.groupRead cursor g := by
  have hKey : Printed own fun _ => Print.op "&" ++ Print.word "key" :=
    (op (by decide)).append (word (by decide))
  have hBar : Printed own fun _ => Print.op "|" := op (by decide)
  have hGet := (var hGroups).callOne (by decide : ¬NamesLibrary "get") hKey
  have hGroup := (keyOf hCursor hIndex).callOne (by decide : ¬NamesLibrary "and_then")
    (((hBar.append (word (by decide : ¬NamesLibrary "key"))).append hBar).append hGet)
  simp only [Print.groupRead]
  cases g.quantity with
  | many => exact (hGroup.callNone (by decide)).callNone (by decide)
  | optional =>
      have hItems : Printed own fun _ => Print.word "items" := word (by decide)
      have hFirst := ((hBar.append hItems).append hBar).append
        (hItems.callNone (by decide : ¬NamesLibrary "first"))
      exact (hGroup.callOne (by decide) hFirst).callNone (by decide)

/-- The test of columns names temporaries only, in parentheses or not. -/
theorem nullCheck {cursor : Var} {check : NullCheck}
    (h : ∀ index ∈ check.columns, ∀ v ∈ [cursor, index], Reserved v.name) :
    Printed own fun _ => Print.nullCheck cursor check := by
  have hTests : Printed own fun _ => Parser.joined "&&" (check.columns.map fun index =>
      Print.question (Print.call (Print.var cursor) "is_null" [Print.var index]), false) :=
    joined (by decide) fun index hMem => ((var (h index hMem cursor (by simp))).callOne
      (by decide) (var (h index hMem index (by simp)))).question
  simp only [Print.nullCheck]
  cases check.parenthesized with
  | false => exact hTests
  | true => exact paren hTests

end Printed

namespace Print

attribute [local simp] Stmt.vars Stmt.bound? Stmt.reads Stmt.result?

variable {own : Tokens → Prop} {s : Stmt}

/-- The connection is asked for rows with the text of the query and its arguments. -/
theorem printed_query {out : Var} {sql : StringLiteral} {args : List String}
    (hTakes : (Stmt.query out sql args).Takes own) (hOut : Reserved out.name) :
    Printed own fun runtime => stmt ⟨runtime, "db"⟩ (.query out sql args) := by
  have hValues : Printed own fun runtime => commas (args.map fun a =>
      Names.path ⟨runtime, "db"⟩ ["Value", "from"] ++ paren (word a)) :=
    .commas fun a hMem => (Printed.path (by decide)).append (.paren (.copied (hTakes a hMem)))
  simp only [stmt]
  exact ((Printed.word (by decide)).callTwo (by decide) (.literal _)
    ((Printed.op (by decide)).append (.group .bracket hValues))).await.question.letMut hOut

/-- A struct is built from columns of the current row and from the groups of its relations. -/
theorem printed_built {out cursor : Var} {path : Tokens} {fields : List FieldRead}
    {relations : List GroupRead}
    (hTakes : (Stmt.build out cursor path fields relations).Takes own)
    (hVars : ∀ v ∈ (Stmt.build out cursor path fields relations).vars, Reserved v.name) :
    Printed own fun _ => path ++ brace (fields.flatMap (fieldRead cursor) ++
      relations.flatMap fun g => field g.name (groupRead cursor g)) := by
  obtain ⟨hPath, hFields, hNames⟩ := hTakes
  refine (Printed.copied hPath).append (.brace (.append ?_ ?_))
  · refine .flatMap fun f hMem => ?_
    obtain ⟨hName, hType⟩ := hFields f hMem
    have hOwn (v : Var) (hv : v ∈ [cursor, f.index]) : Reserved v.name :=
      hVars v (List.mem_append_left _ (List.mem_append_right _
        (List.mem_append_left _ (List.mem_flatMap.mpr ⟨f, hMem, hv⟩))))
    exact .fieldRead (hOwn _ (by simp)) (hOwn _ (by simp)) hName hType
  · refine .flatMap fun g hMem => ?_
    have hOwn (v : Var) (hv : v ∈ [cursor, g.keyIndex, g.groups]) : Reserved v.name :=
      hVars v (List.mem_append_left _ (List.mem_append_right _
        (List.mem_append_right _ (List.mem_flatMap.mpr ⟨g, hMem, hv⟩))))
    exact (Printed.groupRead (hOwn _ (by simp)) (hOwn _ (by simp)) (hOwn _ (by simp))).field
      (.copied (hNames g hMem))

/-- A fetch borrows the connection, the query and the keys. -/
theorem printed_fetch {out keys : Var} (query : RelationQuery) (hOut : Reserved out.name)
    (hKeys : Reserved keys.name) :
    Printed own fun runtime => stmt ⟨runtime, "db"⟩ (.fetch out keys query) := by
  have hQuery : Printed own fun runtime => op "&" ++ relationQuery ⟨runtime, "db"⟩ query :=
    (Printed.op (by decide)).append (.relationQuery "db" query)
  simp only [stmt]
  exact .letMut (.question (.await ((Printed.path (by decide)).append (.paren (.commasCons
    (.word (by decide)) (hQuery.commasCons (Printed.var hKeys).commasOne)))))) hOut

/-- A row whose value is NULL leaves its key without an entry. -/
theorem printed_skipNulls {map key cursor : Var} {check : NullCheck}
    (hVars : ∀ v ∈ (Stmt.skipNulls map key cursor check).vars, Reserved v.name) :
    Printed own fun runtime => stmt ⟨runtime, "db"⟩ (.skipNulls map key cursor check) := by
  have hCheck : Printed own fun _ => nullCheck cursor check := by
    refine .nullCheck fun index hMem v hv => hVars v ?_
    exact List.mem_append_left _ (List.mem_append_right _
      (List.mem_append_left _ (List.mem_flatMap.mpr ⟨index, hMem, hv⟩)))
  have hGroup : Printed own fun _ => groupOf map key :=
    .groupOf (hVars map (by simp)) (hVars key (by simp))
  simp only [stmt]
  exact ((Printed.word (by decide)).append hCheck).append
    (.brace (.statement (hGroup.statement.append (.word (by decide)))))

/-- What the first row becomes is its item, perhaps as a present value. -/
theorem printed_firstValue {item : Var} (hItem : Reserved item.name) (result : FirstRow) :
    Printed own fun _ => firstValue item result := by
  cases result with
  | required expected | flattened => exact .var hItem
  | wrapped => exact .someOf (.var hItem)

/-- Without a first row the result is empty, or the function returns an error of the library. -/
theorem printed_otherwise (result : FirstRow) :
    Printed own fun runtime => otherwise ⟨runtime, "db"⟩ result := by
  cases result with
  | wrapped | flattened => exact .noneValue
  | required expected =>
      exact .statement (((Printed.word (by decide)).append (.std (by decide))).append
        (.paren ((Printed.path (by decide)).append
          (.brace ((Printed.text expected).field (.word (by decide)))))))

/-- A copy may be moved over later, or not. -/
theorem printed_copy {out cursor : Var} (mutable : Bool) (hOut : Reserved out.name)
    (hCursor : Reserved cursor.name) :
    Printed own fun runtime => stmt ⟨runtime, "db"⟩ (.copy out cursor mutable) := by
  have hCopy : Printed own fun runtime =>
      question (Names.path ⟨runtime, "db"⟩ ["copy_cursor"] ++ paren (borrowMut cursor)) :=
    .question ((Printed.path (by decide)).append (.paren (.borrowMut hCursor)))
  cases mutable with
  | false => exact hCopy.letVar hOut
  | true => exact hCopy.letMut hOut

/-- The index of a column that has a name, be it of a field or the one of keys. -/
theorem printed_lookup {out cursor : Var} {name : Tokens → Tokens} (hOut : Reserved out.name)
    (hCursor : Reserved cursor.name) (hName : Printed own name) : Printed own fun runtime =>
      letVar out (question (call (var cursor) "column_index_or_err" [name runtime])) :=
  ((Printed.var hCursor).callOne (by decide) hName).question.letVar hOut

/-- The map of groups has the keys of the library and elements of a declared type. -/
theorem printed_newGroups {out : Var} {element : Tokens} (hElement : own element)
    (hOut : Reserved out.name) :
    Printed own fun runtime => stmt ⟨runtime, "db"⟩ (.newGroups out element) := by
  have hGroup : Printed own fun _ => std ["vec", "Vec"] ++ generic [element] :=
    (Printed.std (by decide)).append (.genericOne (.copied hElement))
  simp only [stmt]
  exact .letMut (.newCollection (.std (by decide)) (.commasCons (.path (by decide))
    hGroup.commasOne)) hOut

/-- A row that has a key is put into its group. -/
theorem printed_addToGroup {groups key item : Var} (hGroups : Reserved groups.name)
    (hKey : Reserved key.name) (hItem : Reserved item.name) :
    Printed own fun runtime => stmt ⟨runtime, "db"⟩ (.addToGroup groups key item) := by
  have hEntry : Printed own fun _ => call (var groups) "entry" [word "key"] :=
    (Printed.var hGroups).callOne (by decide) (.word (by decide))
  simp only [stmt]
  exact .ifKey (.var hKey) ((hEntry.callNone (by decide)).callStatement (by decide) hItem)

/-- Both kinds of maps come from `std`. -/
theorem printed_newMap {out : Var} (kind : MapKind) (hOut : Reserved out.name) :
    Printed own fun runtime => stmt ⟨runtime, "db"⟩ (.newMap out kind) := by
  have hName : ¬NamesLibrary (mapName kind) := by
    cases kind <;> decide
  simp only [stmt]
  refine .letMut ((Printed.std ?_).append (.paren .nil)) hOut
  simpa using ⟨by decide, hName, by decide⟩

/-- The first row is what the block ends in; without a row there is another value. -/
theorem printed_firstRow {out cursor item : Var} {body : List Stmt} (result : FirstRow)
    (hOut : Reserved out.name) (hCursor : Reserved cursor.name) (hItem : Reserved item.name)
    (hBody : Printed own fun runtime => stmts ⟨runtime, "db"⟩ body) :
    Printed own fun runtime => stmt ⟨runtime, "db"⟩ (.firstRow out cursor item body result) := by
  have hFound : Printed own fun runtime =>
      brace (stmts ⟨runtime, "db"⟩ body ++ firstValue item result) :=
    .brace (hBody.append (printed_firstValue hItem result))
  have hNone : Printed own fun runtime => brace (otherwise ⟨runtime, "db"⟩ result) :=
    .brace (printed_otherwise result)
  simp only [stmt]
  exact .letVar (((((Printed.word (by decide)).append (.nextRow hCursor)).append hFound).append
    (.word (by decide))).append hNone) hOut

/-- A statement is printed the same way for every path, if its block is. -/
theorem printed_stmt (hTakes : s.Takes own) (hVars : ∀ v ∈ s.vars, Reserved v.name)
    (hBody : Printed own fun runtime => stmts ⟨runtime, "db"⟩ s.body) :
    Printed own fun runtime => stmt ⟨runtime, "db"⟩ s := by
  cases s with
  | query out sql args => exact printed_query hTakes (hVars out (by simp))
  | copy out cursor mutable =>
      exact printed_copy mutable (hVars out (by simp)) (hVars cursor (by simp))
  | columnIndex out cursor column =>
      simp only [stmt]
      exact printed_lookup (hVars out (by simp)) (hVars cursor (by simp)) (.text column)
  | keyIndex out cursor =>
      simp only [stmt]
      exact printed_lookup (hVars out (by simp)) (hVars cursor (by simp)) (.path (by decide))
  | firstColumn out =>
      simp only [stmt]
      exact ((Printed.word (by decide)).append (.var (hVars out (by simp)))).zero
  | read out cursor index type =>
      simp only [stmt]
      exact .letVar (.read (hVars cursor (by simp)) (hVars index (by simp)) hTakes)
        (hVars out (by simp))
  | build out cursor path fields relations =>
      simp only [stmt]
      exact (printed_built hTakes hVars).letVar (hVars out (by simp))
  | newKeys out =>
      simp only [stmt]
      exact .letMut (.newCollection (.std (by decide)) (.commasOne (.path (by decide))))
        (hVars out (by simp))
  | collectKey keys cursor index =>
      simp only [stmt]
      exact .ifKey (.keyOf (hVars cursor (by simp)) (hVars index (by simp))) (.statement
        ((Printed.var (hVars keys (by simp))).callOne (by decide) (.word (by decide))))
  | reset cursor =>
      simp only [stmt]
      exact .statement ((Printed.var (hVars cursor (by simp))).callNone (by decide))
  | newGroups out element => exact printed_newGroups hTakes (hVars out (by simp))
  | fetch out keys query =>
      exact printed_fetch query (hVars out (by simp)) (hVars keys (by simp))
  | rowKey out cursor index =>
      simp only [stmt]
      exact .letVar (.keyOf (hVars cursor (by simp)) (hVars index (by simp))) (hVars out (by simp))
  | addToGroup groups key item =>
      exact printed_addToGroup (hVars groups (by simp)) (hVars key (by simp)) (hVars item (by simp))
  | newItems out =>
      simp only [stmt]
      exact .letMut (Printed.newList.append (.paren .nil)) (hVars out (by simp))
  | pushItem items item =>
      simp only [stmt]
      exact (Printed.var (hVars items (by simp))).callStatement (by decide) (hVars item (by simp))
  | stream out items =>
      simp only [stmt]
      exact .letVar (.wrapped (by decide) (hVars items (by simp))) (hVars out (by simp))
  | newMap out kind => exact printed_newMap kind (hVars out (by simp))
  | insertFirst map key value =>
      simp only [stmt]
      exact (Printed.entry (hVars map (by simp)) (hVars key (by simp))).callStatement (by decide)
        (hVars value (by simp))
  | pushEntry map key value =>
      simp only [stmt]
      exact (Printed.groupOf (hVars map (by simp)) (hVars key (by simp))).callStatement (by decide)
        (hVars value (by simp))
  | skipNulls map key cursor check => exact printed_skipNulls hVars
  | newCount out =>
      simp only [stmt]
      exact (((Printed.word (by decide)).append (.word (by decide))).append
        (.var (hVars out (by simp)))).zero
  | increment count =>
      simp only [stmt]
      exact .statement (((Printed.var (hVars count (by simp))).append (.op (by decide))).append
        (.literal "1"))
  | rowCount out count =>
      simp only [stmt]
      exact .letVar (.wrapped (by decide) (hVars count (by simp))) (hVars out (by simp))
  | whileRows cursor body =>
      simp only [stmt]
      exact ((Printed.word (by decide)).append (.nextRow (hVars cursor (by simp)))).append
        (.brace hBody)
  | block body =>
      simp only [stmt]
      exact .brace hBody
  | unlessEmpty cursor body =>
      simp only [stmt]
      exact (((Printed.word (by decide)).append (.op (by decide))).append
        ((Printed.var (hVars cursor (by simp))).callNone (by decide))).append (.brace hBody)
  | firstRow out cursor item body result =>
      exact printed_firstRow result (hVars out (by simp)) (hVars cursor (by simp))
        (hVars item (by simp)) hBody

/-- Statements are printed the same way for every path. -/
theorem printed_stmts {code : List Stmt} (hTakes : Stmt.AllTake own code)
    (hVars : ∀ s ∈ Stmt.deep code, ∀ v ∈ s.vars, Reserved v.name) :
    Printed own fun runtime => stmts ⟨runtime, "db"⟩ code := by
  induction code using Stmt.codeInduction with
  | nil => exact .nil
  | cons s rest hBody hRest =>
      obtain ⟨hOwn, hInner, hLater⟩ := Stmt.allTake_cons.mp hTakes
      simp only [Stmt.deep_cons, List.forall_mem_cons, List.forall_mem_append] at hVars
      obtain ⟨hVar, hDeep, hBehind⟩ := hVars
      exact (printed_stmt hOwn hVar (hBody hInner hDeep)).append (hRest hLater hBehind)

end Print

end TypedQuery
