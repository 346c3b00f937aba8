import Mathlib.Data.List.Forall2
import TypedQuery.Proofs.Steps
import TypedQuery.Result.Solve

/-! What the rows of a type become, said without the solver: which types apply a constructor to
which arguments, which relation fields can be filled, and what a row of a type is built of. -/

namespace TypedQuery

/-- The type applies a constructor with this last name to these types. The name may be qualified by
a path, and lifetimes, constants and bindings among the arguments do not count. -/
inductive TypeExpr.Applies : TypeExpr → String → List TypeExpr → Prop where
  | bare (qualifier : List Token) (name : String) :
      Applies (.path qualifier name .none) name []
  | angle (qualifier : List Token) (name : String) (turbofish : Bool)
      (args : List (GenericArgument TypeExpr)) (trailing : Bool) :
      Applies (.path qualifier name (.angle turbofish args trailing)) name
        (args.filterMap GenericArgument.type?)

theorem TypeExpr.constructor?_eq_some_iff {type : TypeExpr} {name : String}
    {args : List TypeExpr} : type.constructor? = some (name, args) ↔ type.Applies name args := by
  constructor
  · intro h
    unfold TypeExpr.constructor? at h
    split at h <;> simp only [Option.some.injEq, Prod.mk.injEq, reduceCtorEq] at h
    · obtain ⟨rfl, rfl⟩ := h
      exact Applies.bare _ _
    · obtain ⟨rfl, rfl⟩ := h
      exact Applies.angle _ _ _ _ _
  · intro h
    cases h <;> rfl

/-- A type has one constructor at most. -/
theorem TypeExpr.Applies.unique {type : TypeExpr} {name other : String}
    {args others : List TypeExpr} (h : type.Applies name args) (h' : type.Applies other others) :
    name = other ∧ args = others := by
  rw [← constructor?_eq_some_iff] at h h'
  simpa using h.symm.trans h'

/-- Only a name without arguments can be the name of a struct. -/
theorem Schema.entity?_eq_none_of_applies {schema : Schema} {type : TypeExpr} {name : String}
    {argument : TypeExpr} {args : List TypeExpr} (h : type.Applies name (argument :: args)) :
    schema.entity? type = none := by
  generalize hArgs : argument :: args = all at h
  cases h with
  | bare => cases hArgs
  | angle => simp [Schema.entity?, TypeExpr.name?]

/-- The constructor of a relation field's type says how many elements the field holds. -/
def Quantity.constructor : Quantity → String
  | many => "Vec"
  | optional => "Option"

theorem Schema.relationElement_ok_iff {type element : TypeExpr} {quantity : Quantity} :
    Schema.relationElement type = .ok (quantity, element) ↔
      type.Applies quantity.constructor [element] := by
  rw [← TypeExpr.constructor?_eq_some_iff]
  constructor
  · intro h
    unfold Schema.relationElement at h
    split at h <;> simp only [Except.ok.injEq, Prod.mk.injEq, reduceCtorEq] at h
    · obtain ⟨rfl, rfl⟩ := h
      assumption
    · obtain ⟨rfl, rfl⟩ := h
      assumption
  · intro h
    cases quantity <;> simp [Schema.relationElement, h, Quantity.constructor]

/-- The relation fields of a struct in order: name, type and mapping. -/
def Entity.relations (e : Entity) : List (String × TypeExpr × RelationMapping) :=
  e.fields.filterMap fun
    | .column .. => none
    | .relation name type mapping => some (name, type, mapping)

theorem Entity.mem_relations {e : Entity} {name : String} {type : TypeExpr}
    {mapping : RelationMapping} :
    (name, type, mapping) ∈ e.relations ↔ MappedField.relation name type mapping ∈ e.fields := by
  rw [Entity.relations, List.mem_filterMap]
  constructor
  · rintro ⟨field, hField, h⟩
    cases field <;> simp_all
  · exact fun h => ⟨_, h, rfl⟩

theorem Entity.hasRelations_iff {e : Entity} : e.hasRelations = true ↔ e.relations ≠ [] := by
  rw [Entity.hasRelations, List.any_eq_true, ne_eq, Entity.relations, List.filterMap_eq_nil_iff]
  constructor
  · rintro ⟨field, hField, hKind⟩ hNone
    have h := hNone field hField
    cases field <;> simp_all [MappedField.isRelation]
  · intro h
    by_contra hNone
    apply h
    intro field hField
    cases field with
    | column => rfl
    | relation => exact absurd ⟨_, hField, rfl⟩ hNone

namespace Schema

variable (schema : Schema)

/-- A field of this type holds elements of a struct of the module that has a table and no relation
fields of its own. -/
def Relates (type : TypeExpr) (quantity : Quantity) (related : Entity) (table : StringLiteral) :
    Prop :=
  ∃ element, type.Applies quantity.constructor [element] ∧
    schema.entity? element = some related ∧ related.table = some table ∧
    related.hasRelations = false

/-- The related rows of a field stand in one table. -/
theorem Relates.table_unique {type : TypeExpr} {quantity other : Quantity}
    {related otherRelated : Entity} {table otherTable : StringLiteral}
    (h : schema.Relates type quantity related table)
    (hOther : schema.Relates type other otherRelated otherTable) : table = otherTable := by
  obtain ⟨element, hApplies, hTarget, hTable, -⟩ := h
  obtain ⟨element', hApplies', hTarget', hTable', -⟩ := hOther
  obtain ⟨-, hArgs⟩ := hApplies.unique hApplies'
  obtain rfl := List.head_eq_of_cons_eq hArgs
  rw [hTarget, Option.some.injEq] at hTarget'
  subst hTarget'
  exact Option.some.inj (hTable.symm.trans hTable')

/-- What keeps a relation field of this type from being filled. -/
inductive FaultyRelation (type : TypeExpr) : Prop where
  | form (h : ∀ (quantity : Quantity) (element : TypeExpr),
      ¬type.Applies quantity.constructor [element])
  | target {quantity : Quantity} {element : TypeExpr}
      (h : type.Applies quantity.constructor [element]) (hTarget : schema.entity? element = none)
  | table {quantity : Quantity} {element : TypeExpr} {related : Entity}
      (h : type.Applies quantity.constructor [element])
      (hTarget : schema.entity? element = some related) (hTable : related.table = none)
  | nested {quantity : Quantity} {element : TypeExpr} {related : Entity}
      (h : type.Applies quantity.constructor [element])
      (hTarget : schema.entity? element = some related) (hNested : related.relations ≠ [])

/-- The relation field of a struct is filled by this query with rows of that struct. -/
def FillsRelation (field : String × TypeExpr × RelationMapping)
    (filled : RelationField × EntityRow) : Prop :=
  ∃ quantity related table, schema.Relates field.2.1 quantity related table ∧
    filled = (⟨field.1, field.2.2.parentColumn,
      ⟨table.value, field.2.2.entityColumn, field.2.2.junction⟩, quantity⟩, plainRow related)

theorem relationTarget_ok_iff {type : TypeExpr} {quantity : Quantity} {related : Entity}
    {table : StringLiteral} :
    schema.relationTarget type = .ok (quantity, related, table) ↔
      schema.Relates type quantity related table := by
  unfold relationTarget
  rw [bind_eq_ok_iff]
  constructor
  · rintro ⟨⟨found, element⟩, hForm, h⟩
    simp only at h
    split at h
    · cases h
    · rename_i target hTarget
      split at h
      · cases h
      · rename_i name hTable
        split at h
        · cases h
        · rename_i hNested
          cases h
          exact ⟨element, relationElement_ok_iff.mp hForm, hTarget, hTable, by simpa using hNested⟩
  · rintro ⟨element, hApplies, hTarget, hTable, hNested⟩
    refine ⟨(quantity, element), relationElement_ok_iff.mpr hApplies, ?_⟩
    simp [hTarget, hTable, hNested, pure, Except.pure]

theorem relationField_ok_iff {name : String} {type : TypeExpr} {mapping : RelationMapping}
    {filled : RelationField × EntityRow} :
    schema.relationField name type mapping = .ok filled ↔
      schema.FillsRelation (name, type, mapping) filled := by
  simp only [relationField, FillsRelation, bind_eq_ok_iff, pure_eq_ok_iff, Prod.exists,
    relationTarget_ok_iff]
  exact ⟨fun ⟨quantity, related, table, h, hFilled⟩ => ⟨quantity, related, table, h, hFilled.symm⟩,
    fun ⟨quantity, related, table, h, hFilled⟩ => ⟨quantity, related, table, h, hFilled.symm⟩⟩

/-- A type has one constructor, so that a faulty field relates no rows. -/
theorem FaultyRelation.not_relates {type : TypeExpr} (hFault : schema.FaultyRelation type)
    {quantity : Quantity} {related : Entity} {table : StringLiteral} :
    ¬schema.Relates type quantity related table := by
  rintro ⟨element, hApplies, hTarget, hTable, hNested⟩
  have hSame {other : Quantity} {element' : TypeExpr}
      (h : type.Applies other.constructor [element']) : element' = element := by
    simpa using (h.unique hApplies).2
  cases hFault with
  | form h => exact h quantity element hApplies
  | target h hNone =>
      rw [hSame h, hTarget] at hNone
      cases hNone
  | table h hOther hNone =>
      rw [hSame h, hTarget] at hOther
      cases hOther
      rw [hTable] at hNone
      cases hNone
  | nested h hOther hRelations =>
      rw [hSame h, hTarget] at hOther
      cases hOther
      simp [Entity.hasRelations_iff.mpr hRelations] at hNested

/-- Every field that relates no rows has one of the four faults. -/
theorem faultyRelation_of_not_relates {type : TypeExpr}
    (h : ∀ quantity related table, ¬schema.Relates type quantity related table) :
    schema.FaultyRelation type := by
  by_cases hForm : ∃ (quantity : Quantity) (element : TypeExpr),
      type.Applies quantity.constructor [element]
  · obtain ⟨quantity, element, hApplies⟩ := hForm
    cases hTarget : schema.entity? element with
    | none => exact FaultyRelation.target hApplies hTarget
    | some related =>
        cases hTable : related.table with
        | none => exact FaultyRelation.table hApplies hTarget hTable
        | some table =>
            refine FaultyRelation.nested hApplies hTarget (Entity.hasRelations_iff.mp ?_)
            by_contra hPlain
            exact h quantity related table
              ⟨element, hApplies, hTarget, hTable, by simpa using hPlain⟩
  · exact FaultyRelation.form fun quantity element hApplies => hForm ⟨quantity, element, hApplies⟩

/-- A relation field can be filled unless it has one of the four faults. -/
theorem exists_fillsRelation_iff {field : String × TypeExpr × RelationMapping} :
    (∃ filled, schema.FillsRelation field filled) ↔ ¬schema.FaultyRelation field.2.1 := by
  constructor
  · rintro ⟨filled, quantity, related, table, hRelates, -⟩ hFault
    exact hFault.not_relates schema hRelates
  · intro hSound
    by_contra hNone
    refine hSound (schema.faultyRelation_of_not_relates fun quantity related table hRelates => ?_)
    exact hNone ⟨_, quantity, related, table, hRelates, rfl⟩

/-- Fields are accepted if every relation field among them is filled; what fills them keeps the
order of the fields. -/
theorem relationFields_ok_iff {e : Entity} {filled : List (RelationField × EntityRow)} :
    schema.relationFields e.fields = .ok filled ↔
      List.Forall₂ schema.FillsRelation e.relations filled := by
  unfold Entity.relations
  induction e.fields generalizing filled with
  | nil => simp [relationFields, eq_comm]
  | cons field rest ih =>
      cases field with
      | column => simpa [relationFields] using ih
      | relation name type mapping =>
          simp only [relationFields, List.filterMap_cons, List.forall₂_cons_left_iff,
            bind_eq_ok_iff, pure_eq_ok_iff, relationField_ok_iff, ih]
          constructor
          · rintro ⟨first, hFirst, others, hOthers, rfl⟩
            exact ⟨first, others, hFirst, hOthers, rfl⟩
          · rintro ⟨first, others, hFirst, hOthers, rfl⟩
            exact ⟨first, hFirst, others, hOthers, rfl⟩

/-- Some relation field of the struct cannot be filled. -/
def FaultyEntity (e : Entity) : Prop :=
  ∃ name type mapping, MappedField.relation name type mapping ∈ e.fields ∧
    schema.FaultyRelation type

theorem exists_forall₂_iff {α β : Type} {R : α → β → Prop} {as : List α} :
    (∃ bs, List.Forall₂ R as bs) ↔ ∀ a ∈ as, ∃ b, R a b := by
  induction as with
  | nil => simp
  | cons a as ih =>
      simp only [List.forall₂_cons_left_iff, List.forall_mem_cons, ← ih]
      constructor
      · rintro ⟨_, b, bs, hb, hbs, rfl⟩
        exact ⟨⟨b, hb⟩, bs, hbs⟩
      · rintro ⟨⟨b, hb⟩, bs, hbs⟩
        exact ⟨_, b, bs, hb, hbs, rfl⟩

/-- The fields of a struct are refused exactly if a relation field among them is faulty. -/
theorem relationFields_error_iff {e : Entity} :
    (∃ error, schema.relationFields e.fields = .error error) ↔ schema.FaultyEntity e := by
  simp only [exists_error_iff_not_ok, ne_eq, relationFields_ok_iff, FaultyEntity]
  rw [← not_exists, exists_forall₂_iff]
  simp only [exists_fillsRelation_iff]
  simp only [not_forall, not_not, Prod.exists, exists_prop, Entity.mem_relations]

/-- The struct is built like this from a row: its column fields are read, and its relation fields
are filled. -/
def BuildsEntity (e : Entity) (built : EntityRow) : Prop :=
  ∃ filled, List.Forall₂ schema.FillsRelation e.relations filled ∧
    built = .mk [.ident e.name] (e.fields.filterMap columnField?) filled

theorem entityRow_ok_iff {e : Entity} {built : EntityRow} :
    schema.entityRow e = .ok built ↔ schema.BuildsEntity e built := by
  simp only [entityRow, bind_eq_ok_iff, pure_eq_ok_iff, relationFields_ok_iff]
  exact exists_congr fun filled => and_congr_right fun _ => eq_comm

theorem entityRow_error_iff {e : Entity} :
    (∃ error, schema.entityRow e = .error error) ↔ schema.FaultyEntity e := by
  simp only [entityRow, bind_eq_error_iff, pure_ne_error, and_false, exists_false, or_false,
    relationFields_error_iff]

/-- A row of a type: a struct of the module if the type names one, and else the value of a
column. -/
inductive MapsRow (type : TypeExpr) (column : Option String) : Row → Prop where
  | scalar (h : schema.entity? type = none) : MapsRow type column (.scalar type column)
  | entity {e : Entity} {built : EntityRow} (h : schema.entity? type = some e)
      (hBuilt : schema.BuildsEntity e built) : MapsRow type column (.entity built)

theorem row_ok_iff {type : TypeExpr} {column : Option String} {row : Row} :
    schema.row type column = .ok row ↔ schema.MapsRow type column row := by
  unfold Schema.row
  cases hEntity : schema.entity? type with
  | none =>
      simp only [Except.ok.injEq]
      constructor
      · rintro rfl
        exact MapsRow.scalar hEntity
      · intro h
        cases h with
        | scalar => rfl
        | entity h => simp [hEntity] at h
  | some e =>
      simp only [bind_eq_ok_iff, pure_eq_ok_iff, entityRow_ok_iff]
      constructor
      · rintro ⟨built, hBuilt, rfl⟩
        exact MapsRow.entity hEntity hBuilt
      · intro h
        cases h with
        | scalar h => simp [hEntity] at h
        | entity h hBuilt =>
            rw [hEntity, Option.some.injEq] at h
            subst h
            exact ⟨_, hBuilt, rfl⟩

/-- The type names a struct that cannot be built from a row. -/
def FaultyRow (type : TypeExpr) : Prop :=
  ∃ e, schema.entity? type = some e ∧ schema.FaultyEntity e

theorem row_error_iff {type : TypeExpr} {column : Option String} :
    (∃ error, schema.row type column = .error error) ↔ schema.FaultyRow type := by
  unfold Schema.row FaultyRow
  cases schema.entity? type with
  | none => simp
  | some e =>
      simp only [bind_eq_error_iff, pure_ne_error, and_false, exists_false, or_false,
        entityRow_error_iff, Option.some.injEq, exists_eq_left']

/-- The type names a struct with a relation field. -/
def HasRelationFields (type : TypeExpr) : Prop :=
  ∃ e, schema.entity? type = some e ∧ e.relations ≠ []

/-- A row runs secondary queries exactly if its type names a struct with relation fields. -/
theorem MapsRow.hasRelations_iff {type : TypeExpr} {column : Option String} {row : Row}
    (h : schema.MapsRow type column row) :
    row.hasRelations = true ↔ schema.HasRelationFields type := by
  unfold HasRelationFields
  cases h with
  | scalar hNone => simp [hNone, Row.hasRelations, Row.relations]
  | @entity e built hEntity hBuilt =>
      obtain ⟨filled, hFilled, rfl⟩ := hBuilt
      have hLength := hFilled.length_eq
      simp only [hEntity, Option.some.injEq, exists_eq_left', Row.hasRelations, Row.relations,
        EntityRow.relations, Bool.not_eq_true', List.isEmpty_eq_false_iff, ne_eq,
        ← List.length_eq_zero_iff, hLength]

end Schema

end TypedQuery
