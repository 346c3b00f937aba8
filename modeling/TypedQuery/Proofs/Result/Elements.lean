import TypedQuery.Proofs.Result.Acceptance

namespace TypedQuery

namespace Shape

/-- What each row becomes the key of. -/
def key? : Shape → Option Row
  | map _ key _ | multimap _ key _ => some key
  | _ => none

/-- The rows that a shape converts, keys before values. -/
def parts (s : Shape) : List Row := s.key?.toList ++ s.row?.toList

end Shape

namespace Schema

variable (schema : Schema)

/-- The elements of a result of the type, or the values of its entries, are such structs. -/
def Elements (type : TypeExpr) (e : Entity) : Prop :=
  ∃ element, type.ElementOf element ∧ schema.entity? element = some e

variable {schema} {columns : ResultColumns} {type : TypeExpr} {shape : Shape}

theorem MapsRow.of_entity {column : Option String} {row : Row} {e : Entity}
    (h : schema.MapsRow type column row) (hEntity : schema.entity? type = some e) :
    ∃ built, row = .entity built ∧ schema.BuildsEntity e built := by
  cases h with
  | scalar hNone =>
      rw [hEntity] at hNone
      cases hNone
  | entity hOther hBuilt =>
      rw [hEntity] at hOther
      cases hOther
      exact ⟨_, rfl, hBuilt⟩

theorem MapsRow.entity?_of_built {column : Option String} {built : EntityRow}
    (h : schema.MapsRow type column (.entity built)) :
    ∃ e, schema.entity? type = some e ∧ schema.BuildsEntity e built := by
  cases h with
  | entity hEntity hBuilt => exact ⟨_, hEntity, hBuilt⟩

/-- What the elements are built as is what the shape converts rows to. -/
theorem Elements.row {e : Entity} (hElements : schema.Elements type e)
    (h : schema.shape type columns = .ok shape) :
    ∃ built, shape.row? = some (.entity built) ∧ schema.BuildsEntity e built := by
  obtain ⟨element, hElement, hEntity⟩ := hElements
  have hRow {make : Row → Shape} {t : TypeExpr}
      (hStep : make <$> schema.row t columns.value = .ok shape)
      (hStruct : schema.entity? t = some e) (hMake : ∀ row, (make row).row? = some row) :
      ∃ built, shape.row? = some (.entity built) ∧ schema.BuildsEntity e built := by
    obtain ⟨row, hOk, rfl⟩ := map_eq_ok_iff.mp hStep
    obtain ⟨built, rfl, hBuilt⟩ := ((schema.row_ok_iff).mp hOk).of_entity hStruct
    exact ⟨built, hMake _, hBuilt⟩
  cases hElement with
  | itself hLine =>
      rw [shape_of_plain _ _ hLine] at h
      exact hRow h hEntity fun _ => rfl
  | item hLine =>
      rw [shape_of_list _ _ hLine] at h
      exact hRow h hEntity fun _ => rfl
  | optional hLine =>
      rw [shape_of_optional _ _ hLine (by simp [hEntity])] at h
      exact hRow h hEntity fun _ => rfl
  | streamed hLine =>
      rw [shape_of_stream _ _ hLine] at h
      exact hRow h hEntity fun _ => rfl
  | entry hLine hHeld =>
      rw [shape_of_map _ _ hLine] at h
      cases hHeld with
      | grouped hList =>
          rw [mapShape_of_list _ _ hList, keyed_ok_iff] at h
          obtain ⟨keyRow, valueRow, -, -, hValue, rfl⟩ := h
          obtain ⟨built, rfl, hBuilt⟩ := hValue.of_entity hEntity
          exact ⟨built, rfl, hBuilt⟩
      | single hSingle =>
          rw [mapShape_of_single _ _ hSingle, keyed_ok_iff] at h
          obtain ⟨keyRow, valueRow, -, -, hValue, rfl⟩ := h
          obtain ⟨built, rfl, hBuilt⟩ := hValue.of_entity hEntity
          exact ⟨built, rfl, hBuilt⟩

/-- What the shape converts rows to, if that is a struct, is what its elements are built as. -/
theorem elements_of_row {built : EntityRow} (h : schema.shape type columns = .ok shape)
    (hRow : shape.row? = some (.entity built)) :
    ∃ e, schema.Elements type e ∧ schema.BuildsEntity e built := by
  rw [shape_ok_iff] at h
  have hFound {element : TypeExpr} {row : Row} {column : Option String}
      (hMaps : schema.MapsRow element column row) (hElement : type.ElementOf element)
      (hSame : row = .entity built) :
      ∃ e, schema.Elements type e ∧ schema.BuildsEntity e built := by
    subst hSame
    obtain ⟨e, hEntity, hBuilt⟩ := hMaps.entity?_of_built
    exact ⟨e, ⟨element, hElement, hEntity⟩, hBuilt⟩
  cases h with
  | blob hLine hMaps =>
      obtain ⟨element, hApplies, -⟩ := hLine
      obtain rfl := Option.some.inj hRow
      obtain ⟨e, hEntity, -⟩ := hMaps.entity?_of_built
      rw [entity?_eq_none_of_applies hApplies] at hEntity
      cases hEntity
  | list hLine hMaps => exact hFound hMaps (.item hLine) (Option.some.inj hRow)
  | optional hLine _ hMaps => exact hFound hMaps (.optional hLine) (Option.some.inj hRow)
  | flattened hLine hScalar hMaps =>
      obtain rfl := Option.some.inj hRow
      obtain ⟨e, hEntity, -⟩ := hMaps.entity?_of_built
      rw [entity?_eq_none_of_applies hLine] at hEntity
      cases hEntity
  | stream hLine hMaps => exact hFound hMaps (.streamed hLine) (Option.some.inj hRow)
  | map hLine hSingle _ _ hMaps =>
      exact hFound hMaps (.entry hLine (.single hSingle)) (Option.some.inj hRow)
  | multimap hLine hList _ _ hMaps =>
      exact hFound hMaps (.entry hLine (.grouped hList)) (Option.some.inj hRow)
  | rows => cases hRow
  | rowCount => cases hRow
  | single hLine hMaps => exact hFound hMaps (.itself hLine) (Option.some.inj hRow)

/-- Only the values of an accepted shape can have relation fields. -/
theorem relations_eq_nil_of_key (h : schema.shape type columns = .ok shape) {row : Row}
    (hRow : shape.key? = some row) : row.relations = [] := by
  have hPlainKey {key : TypeExpr} (hKey : schema.MapsRow key columns.key row)
      (hPlain : ¬schema.HasRelationFields key) : row.relations = [] := by
    rw [← hKey.hasRelations_iff] at hPlain
    simpa [Row.hasRelations] using hPlain
  rw [shape_ok_iff] at h
  cases h with
  | map _ _ hKey hPlain _ =>
      obtain rfl := Option.some.inj hRow
      exact hPlainKey hKey hPlain
  | multimap _ _ hKey hPlain _ =>
      obtain rfl := Option.some.inj hRow
      exact hPlainKey hKey hPlain
  | _ => cases hRow

theorem BuildsEntity.relations_eq_nil_iff {e : Entity} {built : EntityRow}
    (h : schema.BuildsEntity e built) : built.relations = [] ↔ e.relations = [] := by
  obtain ⟨filled, hFilled, rfl⟩ := h
  rw [EntityRow.relations, ← List.length_eq_zero_iff, ← hFilled.length_eq,
    List.length_eq_zero_iff]

/-- Rows are copied first exactly if the elements of the result are structs with relation fields. -/
theorem copiesCursor_iff (h : schema.shape type columns = .ok shape) :
    shape.copiesCursor = true ↔ ∃ e, schema.Elements type e ∧ e.relations ≠ [] := by
  constructor
  · intro hCopies
    unfold Shape.copiesCursor at hCopies
    cases hRow : shape.row? with
    | none => simp [hRow] at hCopies
    | some row =>
        rw [hRow, Option.any_some] at hCopies
        cases row with
        | scalar type column => cases hCopies
        | entity built =>
            obtain ⟨e, hElements, hBuilt⟩ := elements_of_row h hRow
            refine ⟨e, hElements, ?_⟩
            rw [ne_eq, ← hBuilt.relations_eq_nil_iff]
            simpa [Row.hasRelations, Row.relations] using hCopies
  · rintro ⟨e, hElements, hRelations⟩
    obtain ⟨built, hRow, hBuilt⟩ := hElements.row h
    rw [ne_eq, ← hBuilt.relations_eq_nil_iff] at hRelations
    simp [Shape.copiesCursor, hRow, Row.hasRelations, Row.relations, hRelations]

/-- A table that is read to fill a relation field of the struct: that of the related struct, or the
one of the junction between both. -/
def ReadsTable (schema : Schema) (e : Entity) (t : String) : Prop :=
  ∃ name type mapping, MappedField.relation name type mapping ∈ e.fields ∧
    ((∃ quantity related table, schema.Relates type quantity related table ∧ t = table.value) ∨
      ∃ junction, mapping.junction = some junction ∧ t = junction.table)

theorem FillsRelation.mem_tables {name : String} {mapping : RelationMapping}
    {filled : RelationField × EntityRow} (h : schema.FillsRelation (name, type, mapping) filled)
    (t : String) :
    t ∈ filled.1.query.tables ↔
      (∃ quantity related table, schema.Relates type quantity related table ∧ t = table.value) ∨
        ∃ junction, mapping.junction = some junction ∧ t = junction.table := by
  obtain ⟨quantity, related, table, hRelates, rfl⟩ := h
  simp only [RelationQuery.tables, List.mem_cons, Option.mem_toList, Option.map_eq_some_iff]
  refine or_congr ?_ (exists_congr fun junction => and_congr_right fun _ => eq_comm)
  constructor
  · exact fun hTable => ⟨quantity, related, table, hRelates, hTable⟩
  · rintro ⟨_, _, other, hOther, rfl⟩
    rw [hRelates.table_unique schema hOther]

/-- The queries of what a struct is built as read the tables of its relation fields. -/
theorem BuildsEntity.mem_tables {e : Entity} {built : EntityRow} (h : schema.BuildsEntity e built)
    (t : String) :
    (∃ filled ∈ built.relations, t ∈ filled.1.query.tables) ↔ schema.ReadsTable e t := by
  obtain ⟨all, hFilled, rfl⟩ := h
  constructor
  · rintro ⟨filled, hMem, hTable⟩
    obtain ⟨⟨name, type, mapping⟩, hField, hFills⟩ := exists_of_forall₂_right hFilled hMem
    exact ⟨name, type, mapping, Entity.mem_relations.mp hField, (hFills.mem_tables t).mp hTable⟩
  · rintro ⟨name, type, mapping, hField, hTable⟩
    obtain ⟨filled, hMem, hFills⟩ :=
      exists_of_forall₂_right hFilled.flip (Entity.mem_relations.mpr hField)
    exact ⟨filled, hMem, (FillsRelation.mem_tables hFills t).mpr hTable⟩

/-- Related structs have no relation fields of their own. -/
theorem BuildsEntity.related_plain {e : Entity} {built : EntityRow}
    (h : schema.BuildsEntity e built) : ∀ filled ∈ built.relations, filled.2.relations = [] := by
  obtain ⟨all, hFilled, rfl⟩ := h
  intro filled hMem
  obtain ⟨field, -, quantity, related, table, -, rfl⟩ := exists_of_forall₂_right hFilled hMem
  rfl

end Schema

end TypedQuery
