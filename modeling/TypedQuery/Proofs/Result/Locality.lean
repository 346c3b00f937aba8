import TypedQuery.Proofs.Result.Acceptance

/-! A type is read with the structs that it mentions, and no others. Two schemas that differ in a
struct of another name give it the same shape, or the same error. -/

namespace TypedQuery

/-- A type mentions the name that it is, and the names that its type arguments mention. -/
inductive TypeExpr.Mentions (name : String) : TypeExpr → Prop where
  | itself {type : TypeExpr} (h : type.name? = some name) : Mentions name type
  | argument {type argument : TypeExpr} {constructor : String} {args : List TypeExpr}
      (h : type.Applies constructor args) (hArgument : argument ∈ args)
      (hMentions : Mentions name argument) : Mentions name type

/-- A struct mentions a name in the type of a relation field. -/
def Entity.Mentions (name : String) (e : Entity) : Prop :=
  ∃ field type mapping, MappedField.relation field type mapping ∈ e.fields ∧ type.Mentions name

namespace Schema

/-- The schemas have the same structs of all names but one, and none of these mentions it. -/
structure AgreesBut (name : String) (schema other : Schema) : Prop where
  get? : ∀ found, found ≠ name → schema.get? found = other.get? found
  unmentioned : ∀ e ∈ schema, ¬ e.Mentions name

/-- A struct that is declared between others is found under its own name only. -/
theorem get?_insert_between {found : String} {front back : Schema} {e : Entity}
    (h : found ≠ e.name) : (front ++ e :: back).get? found = (front ++ back).get? found := by
  simp [Schema.get?, List.find?_append, Ne.symm h]

section Agreeing

variable {name : String} {schema other : Schema} {type : TypeExpr} (h : AgreesBut name schema other)
include h

theorem AgreesBut.entity? (hType : ¬ type.Mentions name) :
    schema.entity? type = other.entity? type := by
  unfold Schema.entity?
  cases hName : type.name? with
  | none => rfl
  | some found =>
      exact h.get? found fun hSame => hType (.itself (hName.trans (congrArg some hSame)))

theorem AgreesBut.relationField {field : String} {mapping : RelationMapping}
    (hType : ¬ type.Mentions name) :
    schema.relationField field type mapping = other.relationField field type mapping := by
  unfold Schema.relationField Schema.relationTarget
  cases hForm : relationElement type with
  | error e => rfl
  | ok form =>
      obtain ⟨quantity, element⟩ := form
      have hElement : ¬ element.Mentions name := fun hMentions =>
        hType (.argument (relationElement_ok_iff.mp hForm) List.mem_cons_self hMentions)
      simp only [bind, Except.bind, h.entity? hElement]

theorem AgreesBut.relationFields {fields : List MappedField}
    (hFields : ∀ field type mapping, MappedField.relation field type mapping ∈ fields →
      ¬ type.Mentions name) :
    schema.relationFields fields = other.relationFields fields := by
  induction fields with
  | nil => rfl
  | cons field rest ih =>
      have hRest := ih fun field type mapping hMem =>
        hFields field type mapping (List.mem_cons_of_mem _ hMem)
      cases field with
      | column => exact hRest
      | relation field type mapping =>
          rw [Schema.relationFields, Schema.relationFields, hRest,
            h.relationField (hFields field type mapping List.mem_cons_self)]

theorem AgreesBut.row {column : Option String} (hType : ¬ type.Mentions name) :
    schema.row type column = other.row type column := by
  unfold Schema.row
  rw [← h.entity? hType]
  cases hEntity : schema.entity? type with
  | none => rfl
  | some e =>
      obtain ⟨found, -, hFound⟩ := Option.bind_eq_some_iff.mp hEntity
      have hFields : schema.entityRow e = other.entityRow e := by
        unfold Schema.entityRow
        rw [h.relationFields fun field type mapping hMem hMentions =>
          h.unmentioned e (List.mem_of_find?_eq_some hFound)
            ⟨field, type, mapping, hMem, hMentions⟩]
      simp only [hFields]

theorem AgreesBut.keyed {columns : ResultColumns} {make : Row → Row → Shape}
    {key element : TypeExpr} (hKey : ¬ key.Mentions name) (hElement : ¬ element.Mentions name) :
    schema.keyed columns make key element = other.keyed columns make key element := by
  unfold Schema.keyed
  rw [h.row hKey, h.row hElement]

/-- A type that does not mention the name has the same shape in both schemas. -/
theorem AgreesBut.shape {columns : ResultColumns} (hType : ¬ type.Mentions name) :
    schema.shape type columns = other.shape type columns := by
  have hArgument {constructor : String} {args : List TypeExpr} {argument : TypeExpr}
      (hApplies : type.Applies constructor args) (hMem : argument ∈ args) :
      ¬ argument.Mentions name := fun hMentions => hType (.argument hApplies hMem hMentions)
  cases type.tableLine with
  | blob hLine => rw [shape_of_blob _ _ hLine, shape_of_blob _ _ hLine, h.row hType]
  | list hLine =>
      rw [shape_of_list _ _ hLine, shape_of_list _ _ hLine,
        h.row (hArgument hLine.1 List.mem_cons_self)]
  | @optional element hLine =>
      have hElement := hArgument hLine List.mem_cons_self
      by_cases hScalar : schema.entity? element = none
      · rw [shape_of_flattened _ _ hLine hScalar,
          shape_of_flattened _ _ hLine ((h.entity? hElement).symm.trans hScalar), h.row hType]
      · rw [shape_of_optional _ _ hLine hScalar,
          shape_of_optional _ _ hLine (by rwa [← h.entity? hElement]), h.row hElement]
  | stream hLine =>
      rw [shape_of_stream _ _ hLine, shape_of_stream _ _ hLine,
        h.row (hArgument hLine List.mem_cons_self)]
  | @map kind key value hLine =>
      have hKey := hArgument hLine List.mem_cons_self
      have hValue := hArgument hLine (List.mem_cons_of_mem _ List.mem_cons_self)
      rw [shape_of_map _ _ hLine, shape_of_map _ _ hLine]
      by_cases hList : ∃ item, value.IsList item
      · obtain ⟨item, hList⟩ := hList
        have hItem : ¬ item.Mentions name := fun hMentions =>
          hValue (.argument hList.1 List.mem_cons_self hMentions)
        rw [mapShape_of_list _ _ hList, mapShape_of_list _ _ hList, h.keyed hKey hItem]
      · have hSingle := not_exists.mp hList
        rw [mapShape_of_single _ _ hSingle, mapShape_of_single _ _ hSingle, h.keyed hKey hValue]
  | rows hLine => rw [shape_of_rows _ _ hLine, shape_of_rows _ _ hLine]
  | rowCount hLine => rw [shape_of_rowCount _ _ hLine, shape_of_rowCount _ _ hLine]
  | wrongArity hLine => rw [shape_of_wrongArity _ _ hLine, shape_of_wrongArity _ _ hLine]
  | plain hLine => rw [shape_of_plain _ _ hLine, shape_of_plain _ _ hLine, h.row hType]

end Agreeing

end Schema

end TypedQuery
