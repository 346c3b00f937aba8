import TypedQuery.Proofs.Program.Expansion
import TypedQuery.Proofs.Result.Respelling

/-! Names in declarations. A name counts as it is spelled, so that a respelling must keep apart what
was apart: a struct and the uses of its name, and the name of the connection argument. A module that
is respelled in such a way means the same, except for the names that it shows. -/

namespace TypedQuery

/-- The name of a field is its own. -/
structure Field.Respelled (N : String → String → Prop) (f f' : Field) : Prop where
  attributes : f'.attributes = f.attributes
  type : f.type.Respelled N f'.type

inductive Fields.Respelled (N : String → String → Prop) : Fields → Fields → Prop where
  | named {fields fields' : List Field} (trailing : Bool)
      (h : List.Forall₂ (Field.Respelled N) fields fields') :
      Respelled N (.named fields trailing) (.named fields' trailing)
  | positional (ts ts' : Tokens) : Respelled N (.positional ts) (.positional ts')
  | none : Respelled N .none .none

/-- The same uses are spelled like the struct before and after. -/
structure StructItem.Respelled (N : String → String → Prop) (s s' : StructItem) : Prop where
  attributes : s'.attributes = s.attributes
  name : ∀ a b, N a b → (a = s.name ↔ b = s'.name)
  fields : s.fields.Respelled N s'.fields

/-- An argument has any name, but is spelled like the connection argument before and after. -/
inductive ArgumentForm.Respelled (N : String → String → Prop) :
    ArgumentForm → ArgumentForm → Prop where
  | receiver : Respelled N .receiver .receiver
  | named {a b : String} {t t' : TypeExpr}
      (hReserved : a = QueryDeclaration.connectionName ↔ b = QueryDeclaration.connectionName)
      (h : t.Respelled N t') : Respelled N (.named a t) (.named b t')
  | pattern : Respelled N .pattern .pattern
  | further : Respelled N .further .further

abbrev Argument.Respelled (N : String → String → Prop) (a a' : Argument) : Prop :=
  a.form.Respelled N a'.form

/-- The name of the function is its own. -/
structure Method.Respelled (N : String → String → Prop) (m m' : Method) : Prop where
  attributes : m'.attributes = m.attributes
  body : m'.body.isSome = m.body.isSome
  parameters : m'.signature.parameters.isEmpty = m.signature.parameters.isEmpty
  arguments : List.Forall₂ (Argument.Respelled N) m.signature.arguments m'.signature.arguments
  trailing : m'.signature.trailing = m.signature.trailing
  output : Option.Rel (TypeExpr.Respelled N) m.signature.output m'.signature.output

namespace Entity

variable {N : String → String → Prop}

theorem reading_bind {α β : Type} (x : Reading α) (f : α → Reading β) (s : List Attribute) :
    (x >>= f).run s =
      match x.run s with
      | (.ok a, s) => (f a).run s
      | (.error e, s) => (.error e, s) := by
  rw [ExceptT.run_bind]
  change StateT.run _ s = match StateT.run x.run s with
    | (.ok a, s) => (f a).run s
    | (.error e, s) => (.error e, s)
  rw [StateT.run_bind]
  rcases StateT.run x.run s with ⟨e | a, s⟩ <;> rfl

/-- What the attributes of a field set: its column and its relation. -/
def fieldSettings : Reading (Option StringLiteral × Option RelationMapping) := do
  return (← takeMapping "column" Parser.stringLiteral,
    ← takeMapping "relation" RelationDraft.parser)

/-- A field with these settings. -/
def mapField (f : Field) :
    Option StringLiteral × Option RelationMapping → Except SourceError MappedField
  | (some _, some _) => .error .relationWithColumn
  | (some column, none) => .ok (.column f.name column.value f.type)
  | (none, none) => .ok (.column f.name f.name f.type)
  | (none, some mapping) => .ok (.relation f.name f.type mapping)

theorem readField_eq (f : Field) :
    (readField f).1 = (fieldSettings.run f.attributes).1 >>= mapField f := by
  unfold readField readMapping fieldSettings
  simp only [reading_bind]
  rcases (takeMapping "column" Parser.stringLiteral).run f.attributes with ⟨e | column, attributes⟩
  · rfl
  · dsimp only
    rcases (takeMapping "relation" RelationDraft.parser).run attributes with ⟨e | relation, others⟩
    · rfl
    · cases column <;> cases relation <;> rfl

theorem readFields_eq (fields : List Field) :
    (readFields fields).1 = fields.mapM fun f => (readField f).1 := by
  induction fields with
  | nil => rfl
  | cons f rest ih =>
      rw [List.mapM_cons, ← ih, readFields]
      rcases readField f with ⟨e | mapped, left⟩
      · rfl
      · rcases readFields rest with ⟨e | others, rest⟩ <;> rfl

theorem readField_respelled {f f' : Field} (h : f.Respelled N f') :
    SameEnd (MappedField.Respelled N) (readField f).1 (readField f').1 := by
  rw [readField_eq, readField_eq, h.attributes]
  refine SameEnd.bind (R := Eq) ?_ ?_
  · cases (fieldSettings.run f.attributes).1 with
    | error e => exact .error e
    | ok settings => exact .ok rfl
  · rintro ⟨column, relation⟩ _ rfl
    cases column <;> cases relation
    · exact .ok (.column (.inr ⟨rfl, rfl⟩) h.type)
    · exact .ok (.relation _ _ _ h.type)
    · exact .ok (.column (.inl rfl) h.type)
    · exact .error _

/-- A respelled struct is the respelled mapping struct, or has the same error. -/
theorem ofStruct_respelled {s s' : StructItem} (h : s.Respelled N s') :
    SameEnd (Option.Rel (Entity.Respelled N)) (ofStruct s).1 (ofStruct s').1 := by
  have hFields := h.fields
  unfold ofStruct
  rw [h.attributes]
  rcases (takeMapping "table" Parser.stringLiteral).run s.attributes with ⟨e | table, attributes⟩
  · exact .error e
  · generalize s.fields = fields at hFields ⊢
    generalize s'.fields = fields' at hFields ⊢
    cases hFields with
    | positional | none =>
        cases table with
        | none => exact .ok .none
        | some table => exact .error _
    | named trailing hFields =>
        have hRead := SameEnd.mapM hFields fun f f' hField => readField_respelled hField
        rw [← readFields_eq, ← readFields_eq] at hRead
        exact hRead.map fun _ _ hMapped => .some ⟨h.name, rfl, hMapped⟩

end Entity

/-- The same query, for a respelled result. -/
structure QueryDeclaration.Respelled (N : String → String → Prop) (q q' : QueryDeclaration) :
    Prop where
  attributes : q'.attributes = q.attributes
  query : q'.query = q.query
  arguments : List.Forall₂ (fun (a a' : String × TypeExpr) => a.2.Respelled N a'.2)
    q.arguments q'.arguments
  output : q.output.Respelled N q'.output

namespace QueryDeclaration

variable {N : String → String → Prop}

theorem argument_respelled {a a' : Argument} (h : a.Respelled N a') :
    SameEnd (fun (a a' : String × TypeExpr) => a.2.Respelled N a'.2)
      (argument a) (argument a') := by
  unfold Argument.Respelled at h
  unfold argument
  generalize a.form = form at h ⊢
  generalize a'.form = form' at h ⊢
  cases h with
  | receiver | pattern | further => exact .error _
  | @named a b t t' hReserved h =>
      by_cases hName : a = connectionName
      · simp only [if_pos hName, if_pos (hReserved.mp hName)]
        exact .error _
      · simp only [if_neg hName, if_neg (mt hReserved.mpr hName)]
        exact .ok h

theorem properArguments_respelled {s s' : Signature} (hTrailing : s'.trailing = s.trailing)
    (h : List.Forall₂ (Argument.Respelled N) s.arguments s'.arguments) :
    List.Forall₂ (Argument.Respelled N) s.properArguments s'.properArguments := by
  have hLast : Option.Rel (Argument.Respelled N) s.arguments.getLast? s'.arguments.getLast? := by
    have hReverse := List.forall₂_reverse_iff.mpr h
    rw [← List.head?_reverse, ← List.head?_reverse]
    generalize s.arguments.reverse = arguments at hReverse ⊢
    generalize s'.arguments.reverse = arguments' at hReverse ⊢
    cases hReverse with
    | nil => exact .none
    | cons hHead => exact .some hHead
  have hInit : List.Forall₂ (Argument.Respelled N) s.arguments.dropLast s'.arguments.dropLast := by
    rw [List.dropLast_eq_take, List.dropLast_eq_take, h.length_eq]
    exact List.forall₂_take _ h
  unfold Signature.properArguments
  rw [hTrailing]
  generalize s.arguments.getLast? = last at hLast ⊢
  generalize s'.arguments.getLast? = last' at hLast ⊢
  cases hLast with
  | none => exact h
  | @some a a' hForm =>
      obtain ⟨form, ts⟩ := a
      obtain ⟨form', ts'⟩ := a'
      cases hForm with
      | further =>
          cases s.trailing with
          | true => exact h
          | false => exact hInit
      | receiver | named | pattern => exact h

/-- A respelled declaration is the respelled query, or has the same error. -/
theorem ofMethod_respelled (visibility visibility' : Tokens) {m m' : Method}
    (h : m.Respelled N m') :
    SameEnd (Respelled N) (ofMethod visibility m) (ofMethod visibility' m') := by
  unfold ofMethod
  rw [h.attributes]
  cases Attribute.take? "query" m.attributes with
  | none => exact .error _
  | some taken =>
      obtain ⟨a, attributes⟩ := taken
      refine SameEnd.bind (R := Eq) ?_ fun query query' hQuery => ?_
      · cases a.parseArguments "query" QueryText.parser with
        | error e => exact .error e
        | ok query => exact .ok rfl
      subst hQuery
      rw [h.body, h.parameters]
      cases m.body.isSome with
      | true => exact .error _
      | false =>
      cases m.signature.parameters.isEmpty with
      | false => exact .error _
      | true =>
      have hArguments := SameEnd.mapM (properArguments_respelled h.trailing h.arguments)
        fun a a' hArgument => argument_respelled hArgument
      refine hArguments.bind fun arguments arguments' hArguments => ?_
      have hOutput := h.output
      generalize m.signature.output = output at hOutput ⊢
      generalize m'.signature.output = output' at hOutput ⊢
      cases hOutput with
      | none => exact .error _
      | some hOutput => exact .ok ⟨rfl, rfl, hArguments, hOutput⟩

/-- What is known of a respelled query is the same, but it is reported by its own name. -/
theorem Respelled.info {q q' : QueryDeclaration} (h : q.Respelled N q') {shape shape' : Shape}
    (hShape : shape.Respelled N shape') :
    q'.info shape' = { q.info shape with name := q'.name } := by
  simp only [QueryDeclaration.info, h.query, hShape.tables, hShape.copiesCursor]

end QueryDeclaration

namespace ModuleItem

/-- A struct of a module, after its mapping attributes were read. -/
def ofStruct (s : StructItem) : ModuleItem := .struct (Entity.ofStruct s).2 (Entity.ofStruct s).1

/-- A query of a module. -/
def ofMethod (visibility : Tokens) (m : Method) : ModuleItem :=
  .query (QueryDeclaration.ofMethod visibility m)

inductive Respelled (N : String → String → Prop) : ModuleItem → ModuleItem → Prop where
  | struct {s s' : StructItem} (h : s.Respelled N s') : Respelled N (ofStruct s) (ofStruct s')
  | query (visibility visibility' : Tokens) {m m' : Method} (h : m.Respelled N m') :
      Respelled N (ofMethod visibility m) (ofMethod visibility' m')
  | other (ts ts' : Tokens) : Respelled N (.other ts) (.other ts')

/-- The same is declared, or refused with the same error. A query has the same shape in both
modules, or the same error; in what is known of it only its own name differs. -/
inductive SameMeaning (N : String → String → Prop) (schema schema' : Schema) :
    ModuleItem → ModuleItem → Prop where
  | struct (s s' : StructItem) {entity entity' : Except SourceError (Option Entity)}
      (h : SameEnd (Option.Rel (Entity.Respelled N)) entity entity') :
      SameMeaning N schema schema' (.struct s entity) (.struct s' entity')
  | query {q q' : Except SourceError QueryDeclaration}
      (h : SameEnd (fun q q' => q.Respelled N q' ∧
        SameEnd (fun shape shape' => shape.Respelled N shape' ∧
          q'.info shape' = { q.info shape with name := q'.name })
          (q.shape schema) (q'.shape schema')) q q') :
      SameMeaning N schema schema' (.query q) (.query q')
  | other (ts ts' : Tokens) : SameMeaning N schema schema' (.other ts) (.other ts')

end ModuleItem

namespace DeclarationModule

variable {N : String → String → Prop} {m m' : DeclarationModule}

abbrev Respelled (N : String → String → Prop) (m m' : DeclarationModule) : Prop :=
  List.Forall₂ (ModuleItem.Respelled N) m.items m'.items

theorem schema_respelled (h : m.Respelled N m') : m.schema.Respelled N m'.schema := by
  rw [schema_eq, schema_eq, Schema.Respelled, List.forall₂_reverse_iff]
  unfold Respelled at h
  generalize m.items = items at h ⊢
  generalize m'.items = items' at h ⊢
  induction h with
  | nil => exact .nil
  | @cons item item' _ _ hHead _ ih =>
      have hEntity : Option.Rel (Entity.Respelled N) item.entity? item'.entity? := by
        cases hHead with
        | query | other => exact .none
        | @struct s s' h =>
            unfold ModuleItem.ofStruct ModuleItem.entity?
            have hSame := Entity.ofStruct_respelled h
            generalize (Entity.ofStruct s).1 = entity at hSame ⊢
            generalize (Entity.ofStruct s').1 = entity' at hSame ⊢
            cases hSame with
            | ok h => exact h
            | error => exact .none
      rw [List.filterMap_cons, List.filterMap_cons]
      generalize item.entity? = entity at hEntity ⊢
      generalize item'.entity? = entity' at hEntity ⊢
      cases hEntity with
      | none => exact ih
      | some h => exact .cons h ih

/-- A respelled module declares and refuses the same, item by item. -/
theorem respelled_means_same (hWords : KeepsWords N) (h : m.Respelled N m') :
    List.Forall₂ (ModuleItem.SameMeaning N m.schema m'.schema) m.items m'.items := by
  refine h.imp fun item item' hItem => ?_
  cases hItem with
  | other => exact .other _ _
  | struct h => exact .struct _ _ (Entity.ofStruct_respelled h)
  | query visibility visibility' hMethod =>
      refine .query ((QueryDeclaration.ofMethod_respelled _ _ hMethod).imp fun q q' hQuery => ?_)
      refine ⟨hQuery, ?_⟩
      have hColumns : q'.columns = q.columns := by
        simp only [QueryDeclaration.columns, hQuery.query]
      unfold QueryDeclaration.shape
      rw [hColumns]
      exact (Schema.Respelled.shape (schema_respelled h) hWords hQuery.output q.columns).imp
        fun _ _ hShape => ⟨hShape, hQuery.info hShape⟩

/-- A struct with one column, and a query of a list of such structs. Every name can be spelled in
its own way, and that of the struct in two. -/
def shelf (declared used field query argument : String) : DeclarationModule where
  attributes := []
  visibility := []
  name := "m"
  items := [
    .ofStruct ⟨[], [], declared, [], [], .named [⟨[], [], field, .named "i64"⟩] false⟩,
    .ofMethod []
      { attributes := [⟨[.ident "query"], [.group .parenthesis [.literal "\"S\""]], false⟩]
        signature :=
          { modifiers := []
            name := query
            parameters := ⟨[], [], false⟩
            arguments := [⟨.named argument (.named "i64"), []⟩]
            trailing := false
            output := some (.path [] "Vec" (.angle false [.type (.named used)] false))
            conditions := [] }
        body := none }]

/-- One struct is renamed, and nothing else has its old or its new name. -/
def Renames (old new a b : String) : Prop := a = old ∧ b = new ∨ a = b ∧ a ≠ old ∧ a ≠ new

/-- With the mark `r#` at every name, the module means the same. -/
theorem respelled_means_same_marked :
    KeepsWords (Renames "Book" "r#Book") ∧
      (shelf "Book" "Book" "id" "f" "key").Respelled (Renames "Book" "r#Book")
        (shelf "r#Book" "r#Book" "r#id" "r#f" "r#key") ∧
      List.Forall₂ (ModuleItem.SameMeaning (Renames "Book" "r#Book")
          (shelf "Book" "Book" "id" "f" "key").schema
          (shelf "r#Book" "r#Book" "r#id" "r#f" "r#key").schema)
        (shelf "Book" "Book" "id" "f" "key").items
        (shelf "r#Book" "r#Book" "r#id" "r#f" "r#key").items := by
  have hWords : KeepsWords (Renames "Book" "r#Book") := by
    rintro a b (⟨rfl, rfl⟩ | ⟨rfl, -⟩) w hWord
    · exact (by decide : ∀ w ∈ solverWords, "Book" = w ↔ "r#Book" = w) w hWord
    · rfl
  have hName (a b : String) (h : Renames "Book" "r#Book" a b) : a = "Book" ↔ b = "r#Book" := by
    obtain ⟨rfl, rfl⟩ | ⟨rfl, hOld, hNew⟩ := h
    · simp
    · simp [hOld, hNew]
  have hSame {a : String} (hOld : a ≠ "Book") (hNew : a ≠ "r#Book") :
      (TypeExpr.named a).Respelled (Renames "Book" "r#Book") (.named a) :=
    .bare [] (.inr ⟨rfl, hOld, hNew⟩)
  have hModule : (shelf "Book" "Book" "id" "f" "key").Respelled (Renames "Book" "r#Book")
      (shelf "r#Book" "r#Book" "r#id" "r#f" "r#key") := by
    refine .cons (.struct ⟨rfl, hName, ?_⟩) (.cons (.query [] [] ⟨rfl, rfl, rfl, ?_, rfl, ?_⟩) .nil)
    · exact .named false (.cons ⟨rfl, hSame (by decide) (by decide)⟩ .nil)
    · exact .cons (.named (by decide) (hSame (by decide) (by decide))) .nil
    · refine .some (.angle [] (.inr ⟨rfl, by decide, by decide⟩) false false (.cons ?_ .nil))
      exact .type (.bare [] (.inl ⟨rfl, rfl⟩))
  exact ⟨hWords, hModule, respelled_means_same hWords hModule⟩

/-- A marked name is another name. Where only the struct is marked its rows become scalars, and
where it is marked at its use, too. A marked field is read from a column with a mark, a marked query
is reported with its mark, and a marked argument can have the name of the connection argument. -/
theorem marked_name_is_another_name :
    let described (m : DeclarationModule) := m.queries.map fun q => (q.name, q.shape m.schema)
    let books (name column : String) : Shape :=
      .list (.entity (.mk [.ident name] [⟨column, column, .named "i64"⟩] []))
    described (shelf "Book" "Book" "id" "f" "key") = [("f", .ok (books "Book" "id"))] ∧
      described (shelf "r#Book" "Book" "id" "f" "key") =
        [("f", .ok (.list (.scalar (.named "Book") none)))] ∧
      described (shelf "Book" "r#Book" "id" "f" "key") =
        [("f", .ok (.list (.scalar (.named "r#Book") none)))] ∧
      described (shelf "Book" "Book" "r#id" "f" "key") = [("f", .ok (books "Book" "r#id"))] ∧
      described (shelf "Book" "Book" "id" "r#f" "key") = [("r#f", .ok (books "Book" "id"))] ∧
      described (shelf "Book" "Book" "id" "f" "r#db") = [("f", .ok (books "Book" "id"))] ∧
      (shelf "Book" "Book" "id" "f" "r#db").errors = [] ∧
      (shelf "Book" "Book" "id" "f" "db").errors = Print.compileError .reservedArgument := by
  refine ⟨rfl, rfl, rfl, rfl, rfl, rfl, rfl, ?_⟩
  decide

end DeclarationModule

end TypedQuery
