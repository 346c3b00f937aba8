import TypedQuery.Example.Authors
import TypedQuery.Proofs.Program.Numbering
import TypedQuery.Proofs.Program.Respelled
import TypedQuery.Proofs.Program.Written

/-! The fields of a struct in the code that builds it. The declared fields are parted into those
that are read from columns and those that are filled by secondary queries; their variables are bound
in one place and used in another, where the two meet by their positions. No field is lost or moved
to the variables of another one on this way. -/

namespace TypedQuery

open Stmt Tokens

namespace Attribute

/-- The first attribute of a name is taken, and all others stay. -/
theorem take?_eq (name : String) (attributes : List Attribute) :
    take? name attributes = (attributes.find? (·.isNamed name)).map fun a =>
      (a, attributes.eraseP (·.isNamed name)) := by
  induction attributes with
  | nil => rfl
  | cons a rest ih =>
      rw [take?, List.find?_cons, List.eraseP_cons]
      cases hName : a.isNamed name with
      | true => simp
      | false =>
          rw [ih]
          cases rest.find? (·.isNamed name) <;> simp

/-- Taking the attribute of one name leaves those of other names. -/
theorem find?_eraseP {name other : String} (hNames : other ≠ name) (attributes : List Attribute) :
    (attributes.eraseP (·.isNamed name)).find? (·.isNamed other) =
      attributes.find? (·.isNamed other) := by
  induction attributes with
  | nil => rfl
  | cons a rest ih =>
      rw [List.eraseP_cons]
      cases hName : a.isNamed name with
      | true =>
          have hOther : a.isNamed other = false := by
            simp only [isNamed, decide_eq_true_eq, decide_eq_false_iff_not] at hName ⊢
            simpa [hName] using hNames.symm
          simp [hOther]
      | false => simp [List.find?_cons, ih]

end Attribute

namespace Field

/-- The attribute of a name that counts: the first one. -/
def attribute? (f : Field) (name : String) : Option Attribute :=
  f.attributes.find? (·.isNamed name)

/-- What the attribute of a name sets, if the field has one. -/
def setting? {α : Type} (f : Field) (name : String) (p : Parser α) :
    Except SourceError (Option α) :=
  match f.attribute? name with
  | none => .ok none
  | some a => (a.parseArguments name p).map some

/-- Whether the field is filled by a secondary query. -/
def isRelated (f : Field) : Bool := (f.attribute? "relation").isSome

/-- The column of a field: the one that its attribute sets, or else the one with its own name. -/
inductive HasColumn (f : Field) : String → Prop where
  | own (h : f.setting? "column" Parser.stringLiteral = .ok none) : HasColumn f f.name
  | given {column : StringLiteral}
      (h : f.setting? "column" Parser.stringLiteral = .ok (some column)) :
      HasColumn f column.value

/-- The relation that its attribute sets for a field. -/
def HasRelation (f : Field) (mapping : RelationMapping) : Prop :=
  f.setting? "relation" RelationDraft.parser = .ok (some mapping)

/-- What the mapping of a field says about it. -/
inductive Maps (f : Field) : MappedField → Prop where
  | column {column : String} (hPlain : f.isRelated = false) (h : f.HasColumn column) :
      Maps f (.column f.name column f.type)
  | relation {mapping : RelationMapping} (hRelated : f.isRelated = true)
      (h : f.HasRelation mapping) : Maps f (.relation f.name f.type mapping)

theorem isRelated_of_setting {f : Field} {relation : Option RelationMapping}
    (h : f.setting? "relation" RelationDraft.parser = .ok relation) :
    f.isRelated = relation.isSome := by
  unfold setting? at h
  unfold isRelated
  cases hFound : f.attribute? "relation" with
  | none =>
      rw [hFound] at h
      cases h
      rfl
  | some a =>
      rw [hFound] at h
      cases hArguments : a.parseArguments "relation" RelationDraft.parser with
      | error e => simp [hArguments, Except.map] at h
      | ok mapping =>
          simp only [hArguments, Except.map, Except.ok.injEq] at h
          simp [← h]

end Field

namespace Entity

/-- Taking a mapping reads the setting of a field and takes the attribute away. -/
theorem takeMapping_run {α : Type} (name : String) (p : Parser α) (f : Field) :
    (takeMapping name p).run f.attributes =
      (f.setting? name p, f.attributes.eraseP (·.isNamed name)) := by
  have hGet : (get : Reading (List Attribute)).run f.attributes =
      (.ok f.attributes, f.attributes) := rfl
  rw [takeMapping, reading_bind, hGet]
  dsimp only
  rw [Attribute.take?_eq, Field.setting?, Field.attribute?]
  cases hFound : f.attributes.find? (·.isNamed name) with
  | none =>
      rw [List.eraseP_of_forall_not (List.find?_eq_none.mp hFound)]
      rfl
  | some a =>
      dsimp only [Option.map_some]
      cases a.parseArguments name p <;> rfl

/-- The relation of a field is set as if its column had not been taken before. -/
theorem fieldSettings_eq (f : Field) :
    (fieldSettings.run f.attributes).1 = do
      return (← f.setting? "column" Parser.stringLiteral,
        ← f.setting? "relation" RelationDraft.parser) := by
  let left : Field := { f with attributes := f.attributes.eraseP (·.isNamed "column") }
  have hRelation : left.setting? "relation" RelationDraft.parser =
      f.setting? "relation" RelationDraft.parser := by
    rw [Field.setting?, Field.setting?, Field.attribute?, Field.attribute?,
      Attribute.find?_eraseP (by decide) f.attributes]
  rw [fieldSettings, reading_bind, takeMapping_run]
  cases f.setting? "column" Parser.stringLiteral with
  | error e => rfl
  | ok column =>
      rw [← hRelation]
      dsimp only
      rw [reading_bind, takeMapping_run "relation" RelationDraft.parser left]
      cases left.setting? "relation" RelationDraft.parser <;> rfl

theorem maps_of_readField {f : Field} {mapped : MappedField} (h : (readField f).1 = .ok mapped) :
    f.Maps mapped := by
  rw [readField_eq, fieldSettings_eq] at h
  simp only [bind_eq_ok_iff, pure_eq_ok_iff] at h
  obtain ⟨_, ⟨column, hColumn, relation, hRelation, rfl⟩, hMapped⟩ := h
  have hKind := Field.isRelated_of_setting hRelation
  match column, relation, hMapped with
  | some column, none, rfl => exact .column hKind (.given hColumn)
  | none, none, rfl => exact .column hKind (.own hColumn)
  | none, some mapping, rfl => exact .relation hKind hRelation

/-- A mapping struct has a mapped field for each declared one. -/
theorem maps_of_ofStruct {s left : StructItem} {e : Entity}
    (h : ofStruct s = (.ok (some e), left)) :
    ∃ declared trailing, s.fields = .named declared trailing ∧ e.name = s.name ∧
      List.Forall₂ Field.Maps declared e.fields := by
  unfold ofStruct at h
  generalize (takeMapping "table" Parser.stringLiteral).run s.attributes = taken at h
  generalize hFields : s.fields = fields at h
  obtain ⟨error | table, others⟩ := taken
  · cases h
  · cases fields with
    | named declared trailing =>
        obtain ⟨mapped, hRead, hEntity⟩ := map_eq_ok_iff.mp (Prod.mk.inj h).1
        cases hEntity
        rw [readFields_eq, mapM_eq_ok_iff] at hRead
        exact ⟨declared, trailing, rfl, rfl, hRead.imp fun _ _ => maps_of_readField⟩
    | positional tokens => cases table <;> cases h
    | none => cases table <;> cases h

end Entity

namespace Field

/-- The column field that a field declares. -/
def Reads (f : Field) (c : ColumnField) : Prop :=
  c.name = f.name ∧ c.type = f.type ∧ f.HasColumn c.column

/-- The column fields of a struct are those declared without a relation, in their order. -/
theorem reads_of_maps {declared : List Field} {fields : List MappedField}
    (h : List.Forall₂ Maps declared fields) :
    List.Forall₂ Reads (declared.filter (!·.isRelated)) (fields.filterMap Schema.columnField?) := by
  induction h with
  | nil => exact .nil
  | cons hField _ ih =>
      cases hField with
      | column hPlain hColumn =>
          rw [List.filter_cons_of_pos (by simp [hPlain])]
          exact .cons ⟨rfl, rfl, hColumn⟩ ih
      | relation hRelated =>
          rw [List.filter_cons_of_neg (by simp [hRelated])]
          exact ih

/-- The relation fields of a struct are those declared with a relation, in their order. -/
theorem relations_of_maps {declared : List Field} {e : Entity}
    (h : List.Forall₂ Maps declared e.fields) :
    List.Forall₂
      (fun f relation => ∃ mapping, f.HasRelation mapping ∧ relation = (f.name, f.type, mapping))
      (declared.filter (·.isRelated)) e.relations := by
  unfold Entity.relations
  generalize e.fields = fields at h ⊢
  induction h with
  | nil => exact .nil
  | cons hField _ ih =>
      cases hField with
      | column hPlain =>
          rw [List.filter_cons_of_neg (by simp [hPlain])]
          exact ih
      | relation hRelated hRelation =>
          rw [List.filter_cons_of_pos (by simp [hRelated])]
          exact .cons ⟨_, hRelation, rfl⟩ ih

end Field

/-- The code of a field: its part of a struct expression, the statements that prepare for it, and
the variables that these bind and the field is filled from. -/
structure FieldCode where
  value : Tokens
  ready : Tokens
  bound : List Var

namespace Tokens

/-- The statement `let index = cursor.column_index_or_err("column")?;`. -/
def lookup (index cursor : String) (column : StringLiteral) : Tokens :=
  [.ident "let", .ident index, .punct '=' false, .ident cursor, .punct '.' false,
    .ident "column_index_or_err", .group .parenthesis [column.token], .punct '?' false,
    .punct ';' false]

/-- The part `name: cursor.get::<type>(index)?,` of a struct expression. -/
def columnField (name cursor : String) (type : Tokens) (index : String) : Tokens :=
  let before : Tokens := [.ident name, .punct ':' false, .ident cursor, .punct '.' false,
    .ident "get", .punct ':' true, .punct ':' false, .punct '<' false]
  let after : Tokens := [.punct '>' false, .group .parenthesis [.ident index], .punct '?' false,
    .punct ',' false]
  before ++ type ++ after

/-- The statement that binds a map of groups: its keys are those of the library, and its values are
lists of elements. -/
def groupMap (groups : String) (runtime element : Tokens) : Tokens :=
  let map : Tokens := [.punct ':' true, .punct ':' false, .ident "std", .punct ':' true,
    .punct ':' false, .ident "collections", .punct ':' true, .punct ':' false, .ident "BTreeMap"]
  let key : Tokens := [.punct ':' true, .punct ':' false, .ident "RelationKey"]
  let list : Tokens := [.punct ':' true, .punct ':' false, .ident "std", .punct ':' true,
    .punct ':' false, .ident "vec", .punct ':' true, .punct ':' false, .ident "Vec"]
  let arguments : Tokens := runtime ++ key ++ .punct ',' false ::
    (list ++ .punct '<' false :: (element ++ [Token.punct '>' false]))
  let called : Tokens := [.punct '>' false, .punct ':' true, .punct ':' false, .ident "new",
    .group .parenthesis [], .punct ';' false]
  .ident "let" :: .ident "mut" :: .ident groups :: .punct '=' false :: (map ++ .punct ':' true ::
    .punct ':' false :: .punct '<' false :: (arguments ++ called))

/-- The elements of a group that a field takes: all of them, or the first one. -/
def groupElements : Quantity → Tokens
  | .many => [.punct '.' false, .ident "cloned", .group .parenthesis [], .punct '.' false,
      .ident "unwrap_or_default", .group .parenthesis []]
  | .optional => [.punct '.' false, .ident "and_then", .group .parenthesis
      [.punct '|' false, .ident "items", .punct '|' false, .ident "items", .punct '.' false,
        .ident "first", .group .parenthesis []], .punct '.' false, .ident "cloned",
      .group .parenthesis []]

/-- The part of a struct expression that takes the group of the key of the current row: `name:
cursor.value(key_index)?.to_key().and_then(|key| groups.get(&key))`, and its elements. -/
def groupField (name cursor keyIndex groups : String) (quantity : Quantity) : Tokens :=
  let group : Tokens := [.ident name, .punct ':' false, .ident cursor, .punct '.' false,
    .ident "value", .group .parenthesis [.ident keyIndex], .punct '?' false, .punct '.' false,
    .ident "to_key", .group .parenthesis [], .punct '.' false, .ident "and_then",
    .group .parenthesis [.punct '|' false, .ident "key", .punct '|' false, .ident groups,
      .punct '.' false, .ident "get", .group .parenthesis [.punct '&' false, .ident "key"]]]
  group ++ groupElements quantity ++ [Token.punct ',' false]

/-- The statement `let out = name { .. };` with the fields of a struct. -/
def building (out name : String) (fields : List FieldCode) : Tokens :=
  [.ident "let", .ident out, .punct '=' false, .ident name,
    .group .brace (fields.flatMap FieldCode.value), .punct ';' false]

end Tokens

namespace Print

section Fields

attribute [local simp] word var op Token.operator Token.operatorChars paren brace text below std
  Names.path commas Parser.joined generic call question field letVar letMut keyOf
  StringLiteral.token

theorem stmt_columnIndex (names : Names) (out cursor : Var) (column : String) :
    stmt names (.columnIndex out cursor column) =
      lookup out.name cursor.name ⟨Text.quote column⟩ := by
  simp [stmt, lookup]

theorem stmt_newGroups (names : Names) (out : Var) (element : Tokens) :
    stmt names (.newGroups out element) = groupMap out.name names.runtime element := by
  simp [stmt, groupMap]

theorem fieldRead_eq (cursor : Var) (f : FieldRead) :
    fieldRead cursor f = columnField f.name cursor.name f.type.tokens f.index.name := by
  simp [fieldRead, Print.read, columnField]

theorem field_groupRead (cursor : Var) (g : GroupRead) :
    field g.name (groupRead cursor g) =
      groupField g.name cursor.name g.keyIndex.name g.groups.name g.quantity := by
  cases hQuantity : g.quantity <;> simp [groupRead, groupField, groupElements, hQuantity]

end Fields

end Print

namespace Field

/-- A declared field is read under its own name and with its own type, at the index that the lookup
of its own column binds. -/
def ReadIn (cursor : Var) (f : Field) (code : FieldCode) : Prop :=
  ∃ (index : Var) (column : StringLiteral), f.HasColumn column.value ∧ code.bound = [index] ∧
    code.ready = lookup index.name cursor.name column ∧
    code.value = columnField f.name cursor.name f.type.tokens index.name

/-- A declared field is filled under its own name, by the index of its parent column and from the
groups that are bound while the tables of its own relation are read. -/
def FilledIn (schema : Schema) (names : Names) (cursor : Var) (f : Field) (code : FieldCode) :
    Prop :=
  ∃ (mapping : RelationMapping) (quantity : Quantity) (related : Entity) (table : StringLiteral)
    (keyIndex groups : Var) (column : StringLiteral),
    f.HasRelation mapping ∧ schema.Relates f.type quantity related table ∧
    column.value = mapping.parentColumn ∧ code.bound = [keyIndex, groups] ∧
    (lookup keyIndex.name cursor.name column).Within code.ready ∧
    (groupMap groups.name names.runtime [.ident related.name]).Within code.ready ∧
    code.ready.WritesTable table.value ∧
    (∀ junction, mapping.junction = some junction → code.ready.WritesTable junction.table) ∧
    code.value = groupField f.name cursor.name keyIndex.name groups.name quantity

end Field

namespace EntityRow

variable (names : Names) (cursor : Var) {declared : List Field}

/-- The indices of column fields meet the fields that they were bound for. -/
theorem prepareColumns_readIn {fields : List ColumnField}
    (h : List.Forall₂ Field.Reads declared fields) (n : Nat) :
    ∃ columns : List FieldCode, List.Forall₂ (Field.ReadIn cursor) declared columns ∧
      Print.stmts names ((prepareColumns cursor fields).run n).1.2 =
        columns.flatMap FieldCode.ready ∧
      ((fields.zip ((prepareColumns cursor fields).run n).1.1).map fun (f, index) =>
        FieldRead.mk f.name index f.type).flatMap (Print.fieldRead cursor) =
          columns.flatMap FieldCode.value ∧
      columns.flatMap FieldCode.bound = lets ((prepareColumns cursor fields).run n).1.2 := by
  induction h generalizing n with
  | nil => exact ⟨[], .nil, rfl, rfl, rfl⟩
  | @cons f c _ _ hField _ ih =>
      obtain ⟨hName, hType, hColumn⟩ := hField
      obtain ⟨columns, hColumns, hReady, hValue, hBound⟩ := ih (n + 1)
      let index := Var.temporary "index" n
      let code : FieldCode :=
        ⟨columnField f.name cursor.name f.type.tokens index.name,
          lookup index.name cursor.name ⟨Text.quote c.column⟩, [index]⟩
      have hOwn : f.ReadIn cursor code :=
        ⟨index, ⟨Text.quote c.column⟩, (StringLiteral.value_quote c.column).symm ▸ hColumn, rfl,
          rfl, rfl⟩
      rw [prepareColumns_cons]
      refine ⟨code :: columns, .cons hOwn hColumns, ?_, ?_, ?_⟩
      · rw [Print.stmts, Print.stmt_columnIndex, hReady]
        rfl
      · rw [List.zip_cons_cons, List.map_cons, List.flatMap_cons, hValue, Print.fieldRead_eq]
        dsimp only
        rw [hName, hType]
        rfl
      · simp [hBound, code, index, bound?, Stmt.body]

section Relation

variable {schema : Schema} {f : Field} {mapping : RelationMapping} {r : RelationField}
  (entity : EntityRow)

/-- The tables of a relation are written in its own code. -/
theorem writesTable_relationCode (bindings : Bindings) (ready : List Stmt) (n : Nat) {t : String}
    (h : t ∈ r.query.tables) :
    WritesTable (Print.stmts names (relationCode cursor r entity bindings ready n)) t := by
  have hFetch : .fetches (.temporary "related" (n + 3)) r.query ∈
      usesAll (relationCode cursor r entity bindings ready n) := by
    simp [usesAll_relationCode]
  have hStands : CursorUse.Stands names _ (.fetches (.temporary "related" (n + 3)) r.query) :=
    Print.stands_stmts hFetch
  exact hStands.writesTable h

/-- The code of a relation field and what it binds. -/
def relationPart (r : RelationField) (code : List Stmt) (n : Nat) : FieldCode where
  value := groupField r.name cursor.name (Var.temporary "key_index" n).name
    (Var.temporary "groups" (n + 2)).name r.quantity
  ready := Print.stmts names code
  bound := [.temporary "key_index" n, .temporary "groups" (n + 2)]

variable {entity}

theorem relationPart_filledIn (hRelation : f.HasRelation mapping)
    (hFills : schema.FillsRelation (f.name, f.type, mapping) (r, entity)) (bindings : Bindings)
    (ready : List Stmt) (n : Nat) :
    f.FilledIn schema names cursor
      (relationPart names cursor r (relationCode cursor r entity bindings ready n) n) := by
  have hTables {t : String} (h : t ∈ r.query.tables) :=
    writesTable_relationCode names cursor entity bindings ready n h
  have hWithin {s : Stmt} (h : s ∈ relationCode cursor r entity bindings ready n) :
      (Print.stmt names s).Within
        (Print.stmts names (relationCode cursor r entity bindings ready n)) :=
    .here (Print.infix_stmts h)
  have hLookup := hWithin List.mem_cons_self
  have hGroups := hWithin (s := .newGroups (.temporary "groups" (n + 2)) entity.path)
    (by simp [relationCode])
  rw [Print.stmt_columnIndex] at hLookup
  rw [Print.stmt_newGroups] at hGroups
  have hMem := hFills.mem_tables
  obtain ⟨quantity, related, table, hRelates, hSame⟩ := hFills
  cases hSame
  refine ⟨mapping, quantity, related, table, .temporary "key_index" n, .temporary "groups" (n + 2),
    ⟨Text.quote mapping.parentColumn⟩, hRelation, hRelates, StringLiteral.value_quote _, rfl,
    hLookup, hGroups, hTables ?_, fun junction hJunction => hTables ?_, rfl⟩
  · simp [RelationQuery.tables]
  · simp [RelationQuery.tables, hJunction]

end Relation

/-- What a relation field maps to in the code of its struct. -/
theorem prepareRelations_filledIn {schema : Schema}
    {relations : List (RelationField × EntityRow)}
    (h : List.Forall₂ (fun f relation => ∃ mapping, f.HasRelation mapping ∧
      schema.FillsRelation (f.name, f.type, mapping) relation) declared relations) (n : Nat) :
    ∃ parts : List FieldCode, List.Forall₂ (Field.FilledIn schema names cursor) declared parts ∧
      Print.stmts names ((prepareRelations cursor relations).run n).1.2 =
        parts.flatMap FieldCode.ready ∧
      ((relations.zip ((prepareRelations cursor relations).run n).1.1).map fun ((r, _), groups) =>
        GroupRead.mk r.name groups.keyIndex groups.groups r.quantity).flatMap
          (fun g => Print.field g.name (Print.groupRead cursor g)) =
          parts.flatMap FieldCode.value ∧
      (parts.flatMap FieldCode.bound).Sublist
        (lets ((prepareRelations cursor relations).run n).1.2) := by
  induction h generalizing n with
  | nil => exact ⟨[], .nil, rfl, rfl, List.nil_sublist _⟩
  | @cons f relation _ _ hField _ ih =>
      obtain ⟨mapping, hRelation, hFills⟩ := hField
      obtain ⟨r, entity⟩ := relation
      rw [prepareRelations_cons]
      let inner := (entity.prepare (.temporary "related" (n + 3))).run (n + 7)
      let code := relationCode cursor r entity inner.1.1 inner.1.2 n
      obtain ⟨parts, hParts, hReady, hValue, hBound⟩ := ih inner.2
      refine ⟨relationPart names cursor r code n :: parts,
        .cons (relationPart_filledIn names cursor hRelation hFills _ _ n) hParts, ?_, ?_, ?_⟩
      · rw [Print.stmts_append, hReady]
        rfl
      · rw [List.zip_cons_cons, List.map_cons, List.flatMap_cons, hValue, Print.field_groupRead]
        rfl
      · rw [lets_append, List.flatMap_cons]
        refine List.Sublist.append ?_ hBound
        simp [relationPart, relationCode, bound?, Stmt.body]

end EntityRow

namespace Entity

/-- The code of a struct fills each declared field once, from what it binds for this field alone. It
looks up the columns first, one by one, and then collects for one relation after the other; no two
of the variables have the same name. -/
structure FillsOnce (schema : Schema) (names : Names) (cursor : Var) (declared : List Field)
    (ready : Tokens) (columns relations : List FieldCode) : Prop where
  prepares : ready = (columns ++ relations).flatMap FieldCode.ready
  reads : List.Forall₂ (Field.ReadIn cursor) (declared.filter (!·.isRelated)) columns
  fills : List.Forall₂ (Field.FilledIn schema names cursor) (declared.filter (·.isRelated))
    relations
  distinct : (((columns ++ relations).flatMap FieldCode.bound).map Var.name).Nodup

/-- However the fields of a struct are declared, the code that prepares for its rows and converts
them builds one struct, each field of which is filled once from its own variables. -/
theorem every_field_filled_once {schema : Schema} {s left : StructItem} {e : Entity}
    {row : EntityRow} (hRead : ofStruct s = (.ok (some e), left))
    (hRow : schema.entityRow e = .ok row) (names : Names) (cursor out : Var) (n : Nat) :
    ∃ declared trailing columns relations, s.fields = .named declared trailing ∧
      Print.stmt names (row.convert ((row.prepare cursor).run n).1.1 out cursor) =
        building out.name s.name (columns ++ relations) ∧
      FillsOnce schema names cursor declared
        (Print.stmts names ((row.prepare cursor).run n).1.2) columns relations := by
  obtain ⟨declared, trailing, hFields, hName, hMaps⟩ := maps_of_ofStruct hRead
  obtain ⟨filled, hFilled, rfl⟩ := schema.entityRow_ok_iff.mp hRow
  obtain ⟨columns, hColumns, hLookups, hReads, hIndices⟩ :=
    EntityRow.prepareColumns_readIn names cursor (Field.reads_of_maps hMaps) n
  have hDeclared : List.Forall₂
      (fun f relation => ∃ mapping, f.HasRelation mapping ∧
        schema.FillsRelation (f.name, f.type, mapping) relation)
      (declared.filter (·.isRelated)) filled :=
    forall₂_trans
      (fun _ _ _ ⟨mapping, hMapping, hField⟩ hFills => ⟨mapping, hMapping, hField ▸ hFills⟩)
      (Field.relations_of_maps hMaps) hFilled
  obtain ⟨relations, hRelations, hCollects, hGroups, hBound⟩ :=
    EntityRow.prepareRelations_filledIn names cursor hDeclared
      ((EntityRow.prepareColumns cursor (e.fields.filterMap Schema.columnField?)).run n).2
  refine ⟨declared, trailing, columns, relations, hFields, ?_, ?_, hColumns, hRelations, ?_⟩
  · rw [EntityRow.prepare_run, EntityRow.convert, Print.stmt, building, ← hName,
      List.flatMap_append, ← hReads, ← hGroups]
    rfl
  · rw [EntityRow.prepare_run, Print.stmts_append, hLookups, hCollects, List.flatMap_append]
  · obtain ⟨stems, hStems, -, hPerm⟩ := EntityRow.numbers_prepare cursor
      (.mk [.ident e.name] (e.fields.filterMap Schema.columnField?) filled) n
    have hNodup := (hPerm.map Var.name).nodup_iff.mpr (Var.nodup_names_numbered n hStems)
    refine (List.Sublist.map _ ?_).nodup hNodup
    rw [EntityRow.prepare_run, lets_append, List.flatMap_append, hIndices]
    exact (List.Sublist.refl _).append hBound

/-- Two fields that read one column, and two relation fields with one related table between them,
are filled from their own variables. -/
theorem numbered_author_fields_filled_once :
    let cursor := Var.temporary "cursor" 1
    let out := Var.temporary "item" 21
    let prepared := ((Example.numberedAuthorRow.prepare cursor).run 3).1
    ∃ left declared columns relations,
      ofStruct Example.numberedAuthorStruct = (.ok (some Example.numberedAuthorEntity), left) ∧
      Example.authorSchema.entityRow Example.numberedAuthorEntity =
        .ok Example.numberedAuthorRow ∧
      declared.map Field.name = ["books", "id", "favourite", "number"] ∧
      Print.stmt Options.default.names (Example.numberedAuthorRow.convert prepared.1 out cursor) =
        building out.name "Author" (columns ++ relations) ∧
      FillsOnce Example.authorSchema Options.default.names cursor declared
        (Print.stmts Options.default.names prepared.2) columns relations := by
  have hRead : ofStruct Example.numberedAuthorStruct =
      (.ok (some Example.numberedAuthorEntity), _) := rfl
  have hRow : Example.authorSchema.entityRow Example.numberedAuthorEntity =
      .ok Example.numberedAuthorRow := by
    with_unfolding_all rfl
  obtain ⟨declared, trailing, columns, relations, hFields, hBuild, hFills⟩ :=
    every_field_filled_once hRead hRow Options.default.names (.temporary "cursor" 1)
      (.temporary "item" 21) 3
  cases hFields
  exact ⟨_, _, columns, relations, hRead, hRow, rfl, hBuild, hFills⟩

end Entity

end TypedQuery
