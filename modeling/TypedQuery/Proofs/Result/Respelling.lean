import TypedQuery.Proofs.Result.Acceptance

/-! Names are compared as they are spelled. Where the same uses are spelled like the same structs, a
type has the same shape in both spellings, or the same error. -/

namespace TypedQuery

/-- The names by which types are told apart. -/
def solverWords : List String :=
  ["Vec", "Option", "HashMap", "BTreeMap", "RowStream", "MemoryCursor", "RowCount", "u8"]

/-- Names are respelled, but none of the words that tell types apart, and none as such a word. -/
def KeepsWords (N : String → String → Prop) : Prop :=
  ∀ a b, N a b → ∀ w ∈ solverWords, a = w ↔ b = w

inductive GenericArgument.Respelled {τ : Type} (R : τ → τ → Prop) :
    GenericArgument τ → GenericArgument τ → Prop where
  | lifetime (ts : List Token) : Respelled R (.lifetime ts) (.lifetime ts)
  | type {t t' : τ} (h : R t t') : Respelled R (.type t) (.type t')
  | other (ts : List Token) : Respelled R (.other ts) (.other ts)

/-- Each name in a type is respelled by itself. Types without a constructor may be anything. -/
inductive TypeExpr.Respelled (N : String → String → Prop) : TypeExpr → TypeExpr → Prop where
  | bare (qualifier : List Token) {a b : String} (h : N a b) :
      Respelled N (.path qualifier a .none) (.path qualifier b .none)
  | angle (qualifier : List Token) {a b : String} (h : N a b) (turbofish trailing : Bool)
      {args args' : List (GenericArgument TypeExpr)}
      (hArgs : List.Forall₂ (GenericArgument.Respelled (Respelled N)) args args') :
      Respelled N (.path qualifier a (.angle turbofish args trailing))
        (.path qualifier b (.angle turbofish args' trailing))
  | unread {t t' : TypeExpr} (h : t.constructor? = none) (h' : t'.constructor? = none) :
      Respelled N t t'

/-- Columns that are named by an attribute stay. Others are named as the field is spelled. -/
inductive MappedField.Respelled (N : String → String → Prop) :
    MappedField → MappedField → Prop where
  | column {name name' column column' : String} {t t' : TypeExpr}
      (hColumn : column' = column ∨ column = name ∧ column' = name') (h : t.Respelled N t') :
      Respelled N (.column name column t) (.column name' column' t')
  | relation (name name' : String) {t t' : TypeExpr} (mapping : RelationMapping)
      (h : t.Respelled N t') : Respelled N (.relation name t mapping) (.relation name' t' mapping)

/-- The same uses are spelled like the struct before and after. -/
structure Entity.Respelled (N : String → String → Prop) (e e' : Entity) : Prop where
  name : ∀ a b, N a b → (a = e.name ↔ b = e'.name)
  table : e'.table = e.table
  fields : List.Forall₂ (MappedField.Respelled N) e.fields e'.fields

abbrev Schema.Respelled (N : String → String → Prop) (schema schema' : Schema) : Prop :=
  List.Forall₂ (Entity.Respelled N) schema schema'

structure ColumnField.Respelled (N : String → String → Prop) (f f' : ColumnField) : Prop where
  type : f.type.Respelled N f'.type
  column : f'.column = f.column ∨ f.column = f.name ∧ f'.column = f'.name

/-- The same rows are fetched for both fields, and they become related structs. -/
inductive RelatedRow.Respelled (R : EntityRow → EntityRow → Prop) :
    RelationField × EntityRow → RelationField × EntityRow → Prop where
  | mk (name name' parentColumn : String) (query : RelationQuery) (quantity : Quantity)
      {e e' : EntityRow} (h : R e e') :
      Respelled R (⟨name, parentColumn, query, quantity⟩, e)
        (⟨name', parentColumn, query, quantity⟩, e')

inductive EntityRow.Respelled (N : String → String → Prop) : EntityRow → EntityRow → Prop where
  | mk (path path' : List Token) {fields fields' : List ColumnField}
      {relations relations' : List (RelationField × EntityRow)}
      (hFields : List.Forall₂ (ColumnField.Respelled N) fields fields')
      (hRelations : List.Forall₂ (RelatedRow.Respelled (Respelled N)) relations relations') :
      Respelled N (.mk path fields relations) (.mk path' fields' relations')

inductive Row.Respelled (N : String → String → Prop) : Row → Row → Prop where
  | scalar {t t' : TypeExpr} (h : t.Respelled N t') (column : Option String) :
      Respelled N (.scalar t column) (.scalar t' column)
  | entity {e e' : EntityRow} (h : e.Respelled N e') : Respelled N (.entity e) (.entity e')

/-- The same shape, of rows of the same kinds. -/
inductive Shape.Respelled (N : String → String → Prop) : Shape → Shape → Prop where
  | single {row row' : Row} (h : row.Respelled N row') : Respelled N (.single row) (.single row')
  | optional {row row' : Row} (h : row.Respelled N row') (flattened : Bool) :
      Respelled N (.optional row flattened) (.optional row' flattened)
  | list {row row' : Row} (h : row.Respelled N row') : Respelled N (.list row) (.list row')
  | stream {row row' : Row} (h : row.Respelled N row') : Respelled N (.stream row) (.stream row')
  | map (kind : MapKind) {key key' value value' : Row} (hKey : key.Respelled N key')
      (hValue : value.Respelled N value') :
      Respelled N (.map kind key value) (.map kind key' value')
  | multimap (kind : MapKind) {key key' value value' : Row} (hKey : key.Respelled N key')
      (hValue : value.Respelled N value') :
      Respelled N (.multimap kind key value) (.multimap kind key' value')
  | rows : Respelled N .rows .rows
  | rowCount : Respelled N .rowCount .rowCount

section Results

variable {N : String → String → Prop}

/-- Tables are given by texts, which a respelling leaves alone. -/
theorem EntityRow.Respelled.tables {e e' : EntityRow} (h : e.Respelled N e') :
    e'.tables = e.tables := by
  cases h with
  | mk path path' hFields hRelations =>
      refine congrArg Sorted.ofList ?_
      induction hRelations with
      | nil => rfl
      | cons hHead _ ih =>
          cases hHead with
          | mk name name' parentColumn query quantity h => exact congrArg (query.tables ++ ·) ih

theorem Row.Respelled.tables {row row' : Row} (h : row.Respelled N row') :
    row'.tables = row.tables := by
  cases h with
  | scalar => rfl
  | entity h => exact h.tables

/-- A respelled row has relation fields if the row has. -/
theorem Row.Respelled.hasRelations {row row' : Row} (h : row.Respelled N row') :
    row'.hasRelations = row.hasRelations := by
  cases h with
  | scalar => rfl
  | entity h =>
      cases h with
      | mk path path' hFields hRelations => cases hRelations <;> rfl

theorem Shape.Respelled.tables {shape shape' : Shape} (h : shape.Respelled N shape') :
    shape'.tables = shape.tables := by
  cases h with
  | single h | optional h _ | list h | stream h => exact h.tables
  | map _ _ h | multimap _ _ h => exact h.tables
  | rows | rowCount => rfl

/-- The rows are copied in both spellings or in none. -/
theorem Shape.Respelled.copiesCursor {shape shape' : Shape} (h : shape.Respelled N shape') :
    shape'.copiesCursor = shape.copiesCursor := by
  cases h with
  | single h | optional h _ | list h | stream h => exact h.hasRelations
  | map _ _ h | multimap _ _ h => exact h.hasRelations
  | rows | rowCount => rfl

end Results

namespace TypeExpr

variable {N : String → String → Prop} {t t' : TypeExpr}

/-- The last name of a type is respelled with it. -/
theorem Respelled.name? (h : t.Respelled N t') : Option.Rel N t.name? t'.name? := by
  cases h with
  | bare qualifier h =>
      cases qualifier with
      | nil => exact .some h
      | cons => exact .none
  | angle => simp only [TypeExpr.name?]; exact .none
  | unread h h' =>
      have hNone {t : TypeExpr} (h : t.constructor? = none) : t.name? = none := by
        unfold TypeExpr.name?
        split
        · cases h
        · rfl
      rw [hNone h, hNone h']
      exact .none

/-- Among generic arguments the types keep their places. -/
theorem respelled_types {args args' : List (GenericArgument TypeExpr)}
    (h : List.Forall₂ (GenericArgument.Respelled (Respelled N)) args args') :
    List.Forall₂ (Respelled N) (args.filterMap GenericArgument.type?)
      (args'.filterMap GenericArgument.type?) := by
  induction h with
  | nil => exact .nil
  | cons hHead _ ih =>
      cases hHead with
      | lifetime | other => exact ih
      | type h => exact .cons h ih

/-- A respelled type applies the respelled constructor to the respelled types, or none. -/
theorem Respelled.constructor? (h : t.Respelled N t') :
    Option.Rel (fun c c' => N c.1 c'.1 ∧ List.Forall₂ (Respelled N) c.2 c'.2)
      t.constructor? t'.constructor? := by
  cases h with
  | bare qualifier h => exact .some ⟨h, .nil⟩
  | angle qualifier h turbofish trailing hArgs => exact .some ⟨h, respelled_types hArgs⟩
  | unread h h' =>
      rw [h, h']
      exact .none

/-- A constructor that is applied is respelled, and so are its arguments. -/
theorem Respelled.applies (h : t.Respelled N t') {a : String} {args : List TypeExpr}
    (hApplies : t.Applies a args) :
    ∃ b args', t'.Applies b args' ∧ N a b ∧ List.Forall₂ (Respelled N) args args' := by
  have hRel := h.constructor?
  rw [constructor?_eq_some_iff.mpr hApplies] at hRel
  generalize hOther : t'.constructor? = found at hRel
  cases hRel with
  | @some _ found hFound => exact ⟨_, _, constructor?_eq_some_iff.mp hOther, hFound⟩

/-- Nothing is applied in the respelled type that is not applied in the first one. -/
theorem Respelled.applies' (h : t.Respelled N t') {b : String} {args' : List TypeExpr}
    (hApplies : t'.Applies b args') :
    ∃ a args, t.Applies a args ∧ N a b ∧ List.Forall₂ (Respelled N) args args' := by
  have hRel := h.constructor?
  rw [constructor?_eq_some_iff.mpr hApplies] at hRel
  generalize hOther : t.constructor? = found at hRel
  cases hRel with
  | @some found _ hFound => exact ⟨_, _, constructor?_eq_some_iff.mp hOther, hFound⟩

section Table

variable (hWords : KeepsWords N)
include hWords

/-- A word that tells types apart stays, with its arguments. -/
theorem Respelled.applies_word (h : t.Respelled N t') {w : String} (hWord : w ∈ solverWords)
    {args : List TypeExpr} (hApplies : t.Applies w args) :
    ∃ args', t'.Applies w args' ∧ List.Forall₂ (Respelled N) args args' := by
  obtain ⟨b, args', hOther, hName, hArgs⟩ := h.applies hApplies
  obtain rfl := (hWords w b hName w hWord).mp rfl
  exact ⟨args', hOther, hArgs⟩

/-- The constructors that the solver knows keep their spelling. -/
theorem Respelled.applies_word' (h : t.Respelled N t') {w : String} (hWord : w ∈ solverWords)
    {args' : List TypeExpr} (hApplies : t'.Applies w args') :
    ∃ args, t.Applies w args ∧ List.Forall₂ (Respelled N) args args' := by
  obtain ⟨a, args, hOther, hName, hArgs⟩ := h.applies' hApplies
  obtain rfl := (hWords a w hName w hWord).mpr rfl
  exact ⟨args, hOther, hArgs⟩

theorem Respelled.isNamed (h : t.Respelled N t') {w : String} (hWord : w ∈ solverWords) :
    t'.isNamed w = t.isNamed w := by
  unfold TypeExpr.isNamed
  have hRel := h.name?
  generalize t.name? = name at hRel ⊢
  generalize t'.name? = name' at hRel ⊢
  cases hRel with
  | none => rfl
  | some hName => simp [hWords _ _ hName w hWord]

theorem Respelled.isBlob (h : t.Respelled N t') (hBlob : t.IsBlob) : t'.IsBlob := by
  obtain ⟨element, hApplies, hBytes⟩ := hBlob
  obtain ⟨_, hOther, hArgs⟩ := h.applies_word hWords (by decide) hApplies
  obtain ⟨element', _, hElement, hRest, rfl⟩ := List.forall₂_cons_left_iff.mp hArgs
  obtain rfl := List.forall₂_nil_left_iff.mp hRest
  exact ⟨element', hOther, (hElement.isNamed hWords (by decide)).trans hBytes⟩

/-- A list stays a list of respelled elements. -/
theorem Respelled.isList (h : t.Respelled N t') {element : TypeExpr} (hList : t.IsList element) :
    ∃ element', t'.IsList element' ∧ element.Respelled N element' := by
  obtain ⟨hApplies, hItems⟩ := hList
  obtain ⟨_, hOther, hArgs⟩ := h.applies_word hWords (by decide) hApplies
  obtain ⟨element', _, hElement, hRest, rfl⟩ := List.forall₂_cons_left_iff.mp hArgs
  obtain rfl := List.forall₂_nil_left_iff.mp hRest
  exact ⟨element', ⟨hOther, (hElement.isNamed hWords (by decide)).trans hItems⟩, hElement⟩

theorem Respelled.not_isList (h : t.Respelled N t') (hSingle : ∀ item, ¬t.IsList item) :
    ∀ item, ¬t'.IsList item := by
  rintro item' ⟨hApplies, hItems⟩
  obtain ⟨_, hOther, hArgs⟩ := h.applies_word' hWords (by decide) hApplies
  obtain ⟨item, _, hItem, hRest, rfl⟩ := List.forall₂_cons_right_iff.mp hArgs
  obtain rfl := List.forall₂_nil_right_iff.mp hRest
  exact hSingle item ⟨hOther, (hItem.isNamed hWords (by decide)).symm.trans hItems⟩

/-- A name takes as many types before and after. -/
theorem arity?_respelled {a b : String} (hName : N a b) : arity? b = arity? a := by
  have hSame (w : String) (hWord : w ∈ solverWords) : a = w ↔ b = w := hWords a b hName w hWord
  by_cases hListed : a ∈ ["HashMap", "BTreeMap", "RowStream", "MemoryCursor", "RowCount"]
  · have hWord : a ∈ solverWords := by
      simp only [List.mem_cons, List.not_mem_nil, or_false] at hListed
      rcases hListed with rfl | rfl | rfl | rfl | rfl <;> decide
    rw [(hSame a hWord).mp rfl]
  · have hOther : b ∉ ["HashMap", "BTreeMap", "RowStream", "MemoryCursor", "RowCount"] := by
      intro hMem
      have hWord : b ∈ solverWords := by
        simp only [List.mem_cons, List.not_mem_nil, or_false] at hMem
        rcases hMem with rfl | rfl | rfl | rfl | rfl <;> decide
      exact hListed (((hSame b hWord).mpr rfl) ▸ hMem)
    rw [arity?_eq_none_iff.mpr hListed, arity?_eq_none_iff.mpr hOther]

/-- A respelling does not change how many arguments there are. -/
theorem Respelled.wrongArity (h : t.Respelled N t') (hWrong : t.WrongArity) : t'.WrongArity := by
  obtain ⟨a, args, arity, hApplies, hArity, hLength⟩ := hWrong
  obtain ⟨b, args', hOther, hName, hArgs⟩ := h.applies hApplies
  exact ⟨b, args', arity, hOther, (arity?_respelled hWords hName).trans hArity,
    hArgs.length_eq ▸ hLength⟩

/-- A type without a line of its own in the table has none in the other spelling. -/
theorem Respelled.plain (h : t.Respelled N t') (hPlain : t.Plain) : t'.Plain := by
  intro b args' hApplies
  obtain ⟨a, args, hOther, hName, hArgs⟩ := h.applies' hApplies
  obtain ⟨hArity, hElement⟩ := hPlain a args hOther
  refine ⟨(arity?_respelled hWords hName).trans hArity, ?_⟩
  rwa [← hWords a b hName "Vec" (by decide), ← hWords a b hName "Option" (by decide),
    ← hArgs.length_eq]

end Table

end TypeExpr

namespace Schema

variable {N : String → String → Prop} {schema schema' : Schema} (h : schema.Respelled N schema')
  {t t' : TypeExpr}
include h

/-- The same struct is found by the respelled name. -/
theorem Respelled.get? {a b : String} (hName : N a b) :
    Option.Rel (Entity.Respelled N) (schema.get? a) (schema'.get? b) := by
  unfold Schema.get?
  induction h with
  | nil => exact .none
  | @cons e e' rest rest' hHead _ ih =>
      rw [List.find?_cons, List.find?_cons]
      by_cases hSame : e.name = a
      · have hOther : e'.name = b := ((hHead.name a b hName).mp hSame.symm).symm
        simpa [hSame, hOther] using Option.Rel.some hHead
      · have hOther : e'.name ≠ b := fun hEq => hSame ((hHead.name a b hName).mpr hEq.symm).symm
        simpa [hSame, hOther] using ih

/-- A type finds the struct of its name, where both are respelled alike. -/
theorem Respelled.entity? (hType : t.Respelled N t') :
    Option.Rel (Entity.Respelled N) (schema.entity? t) (schema'.entity? t') := by
  unfold Schema.entity?
  have hRel := hType.name?
  generalize t.name? = name at hRel ⊢
  generalize t'.name? = name' at hRel ⊢
  cases hRel with
  | none => exact .none
  | some hName => exact Respelled.get? h hName

theorem Respelled.entity?_eq_none_iff (hType : t.Respelled N t') :
    schema'.entity? t' = none ↔ schema.entity? t = none := by
  have hEntity := Respelled.entity? h hType
  generalize schema.entity? t = found at hEntity ⊢
  generalize schema'.entity? t' = found' at hEntity ⊢
  cases hEntity <;> simp

omit h

theorem columnFields_respelled {fields fields' : List MappedField}
    (hFields : List.Forall₂ (MappedField.Respelled N) fields fields') :
    List.Forall₂ (ColumnField.Respelled N) (fields.filterMap columnField?)
      (fields'.filterMap columnField?) := by
  induction hFields with
  | nil => exact .nil
  | cons hHead _ ih =>
      cases hHead with
      | column hColumn h => exact .cons ⟨h, hColumn⟩ ih
      | relation => exact ih

/-- Which fields of a struct are relation fields does not depend on names. -/
theorem hasRelations_respelled {e e' : Entity} (he : e.Respelled N e') :
    e'.hasRelations = e.hasRelations := by
  unfold Entity.hasRelations
  have hFields := he.fields
  generalize e.fields = fields at hFields ⊢
  generalize e'.fields = fields' at hFields ⊢
  induction hFields with
  | nil => rfl
  | cons hHead _ ih =>
      rw [List.any_cons, List.any_cons, ih]
      cases hHead <;> rfl

variable (hWords : KeepsWords N)
include hWords

/-- The quantity of a relation field comes from `Vec` or `Option`, which keep their spelling. -/
theorem relationElement_respelled (hType : t.Respelled N t') :
    SameEnd (fun (p p' : Quantity × TypeExpr) => p'.1 = p.1 ∧ p.2.Respelled N p'.2)
      (relationElement t) (relationElement t') := by
  have hFail {t : TypeExpr} {e : SourceError} (h : relationElement t = .error e) :
      e = .relationType := by
    unfold relationElement at h
    split at h <;> cases h
    rfl
  have hWord (quantity : Quantity) : quantity.constructor ∈ solverWords := by
    cases quantity <;> decide
  cases hForm : relationElement t with
  | ok form =>
      obtain ⟨quantity, element⟩ := form
      obtain ⟨args', hApplies, hArgs⟩ :=
        hType.applies_word hWords (hWord quantity) (relationElement_ok_iff.mp hForm)
      obtain ⟨element', _, hElement, hRest, rfl⟩ := List.forall₂_cons_left_iff.mp hArgs
      obtain rfl := List.forall₂_nil_left_iff.mp hRest
      rw [relationElement_ok_iff.mpr hApplies]
      exact .ok ⟨rfl, hElement⟩
  | error e =>
      cases hOther : relationElement t' with
      | error e' =>
          rw [hFail hForm, hFail hOther]
          exact .error _
      | ok form =>
          obtain ⟨quantity, element'⟩ := form
          obtain ⟨args, hApplies, hArgs⟩ :=
            hType.applies_word' hWords (hWord quantity) (relationElement_ok_iff.mp hOther)
          obtain ⟨element, _, _, hRest, rfl⟩ := List.forall₂_cons_right_iff.mp hArgs
          obtain rfl := List.forall₂_nil_right_iff.mp hRest
          rw [relationElement_ok_iff.mpr hApplies] at hForm
          cases hForm

include h

/-- A relation field is filled in both spellings, or refused with the same error. -/
theorem Respelled.relationField (name name' : String) {mapping : RelationMapping}
    (hType : t.Respelled N t') :
    SameEnd (RelatedRow.Respelled (EntityRow.Respelled N))
      (schema.relationField name t mapping) (schema'.relationField name' t' mapping) := by
  unfold Schema.relationField Schema.relationTarget
  simp only [bind_assoc]
  refine (relationElement_respelled hWords hType).bind fun p p' hElement => ?_
  obtain ⟨quantity, element⟩ := p
  obtain ⟨quantity', element'⟩ := p'
  obtain ⟨rfl, hElement⟩ := hElement
  have hEntity := Respelled.entity? h hElement
  dsimp only
  generalize schema.entity? element = found at hEntity ⊢
  generalize schema'.entity? element' = found' at hEntity ⊢
  cases hEntity with
  | none => exact .error _
  | @some related related' hRelated =>
      dsimp only
      rw [hRelated.table, hasRelations_respelled hRelated]
      cases related.table with
      | none => exact .error _
      | some table =>
          dsimp only
          cases related.hasRelations with
          | true => exact .error _
          | false =>
              exact .ok (.mk _ _ _ _ _ (.mk _ _ (columnFields_respelled hRelated.fields) .nil))

/-- All relation fields are filled in both spellings, or the same one is refused. -/
theorem Respelled.relationFields {fields fields' : List MappedField}
    (hFields : List.Forall₂ (MappedField.Respelled N) fields fields') :
    SameEnd (List.Forall₂ (RelatedRow.Respelled (EntityRow.Respelled N)))
      (schema.relationFields fields) (schema'.relationFields fields') := by
  induction hFields with
  | nil => exact .ok .nil
  | cons hHead _ ih =>
      cases hHead with
      | column => exact ih
      | relation name name' mapping hType =>
          exact (Respelled.relationField h hWords name name' hType).bind fun _ _ hFirst =>
            ih.bind fun _ _ hRest => .ok (.cons hFirst hRest)

/-- A row is built in both spellings, or refused with the same error. -/
theorem Respelled.row (hType : t.Respelled N t') (column : Option String) :
    SameEnd (Row.Respelled N) (schema.row t column) (schema'.row t' column) := by
  unfold Schema.row
  have hEntity := Respelled.entity? h hType
  generalize schema.entity? t = found at hEntity ⊢
  generalize schema'.entity? t' = found' at hEntity ⊢
  cases hEntity with
  | none => exact .ok (.scalar hType column)
  | @some e e' he =>
      refine SameEnd.bind (R := EntityRow.Respelled N) ?_ fun _ _ hRow => .ok (.entity hRow)
      exact (Respelled.relationFields h hWords he.fields).bind fun _ _ hRelations =>
        .ok (.mk _ _ (columnFields_respelled he.fields) hRelations)

/-- Maps are made of a key and an element, whichever kind of map it is. -/
theorem Respelled.keyed {columns : ResultColumns} {make : Row → Row → Shape}
    (hMake : ∀ key key' value value' : Row, key.Respelled N key' → value.Respelled N value' →
      (make key value).Respelled N (make key' value'))
    {key key' element element' : TypeExpr} (hKey : key.Respelled N key')
    (hElement : element.Respelled N element') :
    SameEnd (Shape.Respelled N) (schema.keyed columns make key element)
      (schema'.keyed columns make key' element') := by
  refine (Respelled.row h hWords hKey _).bind fun keyRow keyRow' hKeyRow => ?_
  rw [hKeyRow.hasRelations]
  cases keyRow.hasRelations with
  | true => exact .error _
  | false =>
      exact (Respelled.row h hWords hElement _).map fun _ _ hValue => hMake _ _ _ _ hKeyRow hValue

/-- A map or a multimap has the same shape in both spellings. -/
theorem Respelled.mapShape {columns : ResultColumns} {key key' value value' : TypeExpr}
    (kind : MapKind) (hKey : key.Respelled N key') (hValue : value.Respelled N value') :
    SameEnd (Shape.Respelled N) (schema.mapShape kind key value columns)
      (schema'.mapShape kind key' value' columns) := by
  by_cases hList : ∃ item, value.IsList item
  · obtain ⟨item, hList⟩ := hList
    obtain ⟨item', hList', hItem⟩ := hValue.isList hWords hList
    rw [mapShape_of_list _ _ hList, mapShape_of_list _ _ hList']
    exact Respelled.keyed h hWords (fun _ _ _ _ => .multimap kind) hKey hItem
  · have hSingle := not_exists.mp hList
    rw [mapShape_of_single _ _ hSingle, mapShape_of_single _ _ (hValue.not_isList hWords hSingle)]
    exact Respelled.keyed h hWords (fun _ _ _ _ => .map kind) hKey hValue

/-- A respelled type has the same shape, or the same error. -/
theorem Respelled.shape (hType : t.Respelled N t') (columns : ResultColumns) :
    SameEnd (Shape.Respelled N) (schema.shape t columns) (schema'.shape t' columns) := by
  have hRow {t t' : TypeExpr} (hType : t.Respelled N t') :=
    Respelled.row h hWords hType columns.value
  have hOne {w : String} (hWord : w ∈ solverWords) {element : TypeExpr}
      (hApplies : t.Applies w [element]) :
      ∃ element', t'.Applies w [element'] ∧ element.Respelled N element' := by
    obtain ⟨_, hOther, hArgs⟩ := hType.applies_word hWords hWord hApplies
    obtain ⟨element', _, hElement, hRest, rfl⟩ := List.forall₂_cons_left_iff.mp hArgs
    obtain rfl := List.forall₂_nil_left_iff.mp hRest
    exact ⟨element', hOther, hElement⟩
  cases t.tableLine with
  | blob hLine =>
      rw [shape_of_blob _ _ hLine, shape_of_blob _ _ (hType.isBlob hWords hLine)]
      exact (hRow hType).map fun _ _ => .single
  | list hLine =>
      obtain ⟨element', hLine', hElement⟩ := hType.isList hWords hLine
      rw [shape_of_list _ _ hLine, shape_of_list _ _ hLine']
      exact (hRow hElement).map fun _ _ => .list
  | @optional element hLine =>
      obtain ⟨element', hLine', hElement⟩ := hOne (by decide) hLine
      have hSame := Respelled.entity?_eq_none_iff h hElement
      by_cases hScalar : schema.entity? element = none
      · rw [shape_of_flattened _ _ hLine hScalar, shape_of_flattened _ _ hLine' (hSame.mpr hScalar)]
        exact (hRow hType).map fun _ _ hRow => .optional hRow true
      · rw [shape_of_optional _ _ hLine hScalar, shape_of_optional _ _ hLine' (mt hSame.mp hScalar)]
        exact (hRow hElement).map fun _ _ hRow => .optional hRow false
  | stream hLine =>
      obtain ⟨element', hLine', hElement⟩ := hOne (by decide) hLine
      rw [shape_of_stream _ _ hLine, shape_of_stream _ _ hLine']
      exact (hRow hElement).map fun _ _ => .stream
  | @map kind key value hLine =>
      have hWord : kind.constructor ∈ solverWords := by cases kind <;> decide
      obtain ⟨_, hLine', hArgs⟩ := hType.applies_word hWords hWord hLine
      obtain ⟨key', _, hKey, hRest, rfl⟩ := List.forall₂_cons_left_iff.mp hArgs
      obtain ⟨value', _, hValue, hEnd, rfl⟩ := List.forall₂_cons_left_iff.mp hRest
      obtain rfl := List.forall₂_nil_left_iff.mp hEnd
      rw [shape_of_map _ _ hLine, shape_of_map _ _ hLine']
      exact Respelled.mapShape h hWords kind hKey hValue
  | rows hLine =>
      obtain ⟨_, hLine', hArgs⟩ := hType.applies_word hWords (by decide) hLine
      obtain rfl := List.forall₂_nil_left_iff.mp hArgs
      rw [shape_of_rows _ _ hLine, shape_of_rows _ _ hLine']
      exact .ok .rows
  | rowCount hLine =>
      obtain ⟨_, hLine', hArgs⟩ := hType.applies_word hWords (by decide) hLine
      obtain rfl := List.forall₂_nil_left_iff.mp hArgs
      rw [shape_of_rowCount _ _ hLine, shape_of_rowCount _ _ hLine']
      exact .ok .rowCount
  | wrongArity hLine =>
      rw [shape_of_wrongArity _ _ hLine, shape_of_wrongArity _ _ (hType.wrongArity hWords hLine)]
      exact .error _
  | plain hLine =>
      rw [shape_of_plain _ _ hLine, shape_of_plain _ _ (hType.plain hWords hLine)]
      exact (hRow hType).map fun _ _ => .single

end Schema

end TypedQuery
