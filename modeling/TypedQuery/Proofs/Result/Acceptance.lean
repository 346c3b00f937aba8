import TypedQuery.Proofs.Result.Mapping

/-! The table of declared types. A declared type has the shape of the one line of the table that it
matches, and is refused exactly if it gives a constructor too many or too few types, or if a struct
in it cannot be built from a row, or if the key of a map has relation fields. -/

namespace TypedQuery

def MapKind.constructor : MapKind → String
  | hash => "HashMap"
  | ordered => "BTreeMap"

namespace TypeExpr

/-- How many types a constructor takes that is never a column type. -/
def arity? : String → Option Nat
  | "HashMap" | "BTreeMap" => some 2
  | "RowStream" => some 1
  | "MemoryCursor" | "RowCount" => some 0
  | _ => none

/-- Five constructors have a fixed number of arguments. -/
theorem arity?_eq_none_iff {name : String} : arity? name = none ↔
    name ∉ ["HashMap", "BTreeMap", "RowStream", "MemoryCursor", "RowCount"] := by
  unfold arity?
  split <;> simp_all

/-- The type gives a constructor of the table too many or too few types. -/
def WrongArity (type : TypeExpr) : Prop :=
  ∃ name args arity, type.Applies name args ∧ arity? name = some arity ∧ args.length ≠ arity

/-- The type matches no line of the table but the last. This includes every type that is no path,
that has a qualified self, or whose last name has arguments in parentheses. -/
def Plain (type : TypeExpr) : Prop :=
  ∀ name args, type.Applies name args →
    arity? name = none ∧ ¬((name = "Vec" ∨ name = "Option") ∧ args.length = 1)

/-- A list of bytes is one value. -/
def IsBlob (type : TypeExpr) : Prop :=
  ∃ element, type.Applies "Vec" [element] ∧ element.isNamed "u8" = true

/-- A list of anything but bytes. -/
def IsList (type element : TypeExpr) : Prop :=
  type.Applies "Vec" [element] ∧ element.isNamed "u8" = false

/-- What the entries of a map hold: the elements of a list, or else the value itself. -/
inductive HeldIn : TypeExpr → TypeExpr → Prop where
  | grouped {value element : TypeExpr} (h : value.IsList element) : HeldIn value element
  | single {value : TypeExpr} (h : ∀ item, ¬value.IsList item) : HeldIn value value

/-- A value of a map is a list of elements or an element itself. -/
theorem exists_heldIn (value : TypeExpr) : ∃ element, value.HeldIn element := by
  by_cases hList : ∃ element, value.IsList element
  · exact hList.imp fun _ => HeldIn.grouped
  · exact ⟨value, HeldIn.single (not_exists.mp hList)⟩

/-- What the elements of a result of a type are, or the values of its entries. -/
inductive ElementOf : TypeExpr → TypeExpr → Prop where
  | itself {type : TypeExpr} (h : type.Plain) : ElementOf type type
  | item {type element : TypeExpr} (h : type.IsList element) : ElementOf type element
  | optional {type element : TypeExpr} (h : type.Applies "Option" [element]) :
      ElementOf type element
  | streamed {type element : TypeExpr} (h : type.Applies "RowStream" [element]) :
      ElementOf type element
  | entry {type key value element : TypeExpr} {kind : MapKind}
      (h : type.Applies kind.constructor [key, value]) (hHeld : value.HeldIn element) :
      ElementOf type element

/-- What the keys of a result of a map type are. -/
def KeyOf (type key : TypeExpr) : Prop :=
  ∃ (kind : MapKind) (value : TypeExpr), type.Applies kind.constructor [key, value]

/-- Every type matches one line of the table, or gives a constructor the wrong number of types. -/
inductive TableLine (type : TypeExpr) : Prop where
  | blob (h : type.IsBlob)
  | list {element : TypeExpr} (h : type.IsList element)
  | optional {element : TypeExpr} (h : type.Applies "Option" [element])
  | stream {element : TypeExpr} (h : type.Applies "RowStream" [element])
  | map {kind : MapKind} {key value : TypeExpr} (h : type.Applies kind.constructor [key, value])
  | rows (h : type.Applies "MemoryCursor" [])
  | rowCount (h : type.Applies "RowCount" [])
  | wrongArity (h : type.WrongArity)
  | plain (h : type.Plain)

/-- The table has a line for every type. -/
theorem tableLine (type : TypeExpr) : TableLine type := by
  cases h : type.constructor? with
  | none =>
      apply TableLine.plain
      intro name args hApplies
      rw [constructor?_eq_some_iff.mpr hApplies] at h
      cases h
  | some found =>
      obtain ⟨name, args⟩ := found
      rw [constructor?_eq_some_iff] at h
      cases hArity : arity? name with
      | none =>
          by_cases hElement : (name = "Vec" ∨ name = "Option") ∧ args.length = 1
          · obtain ⟨hName, hLength⟩ := hElement
            obtain ⟨element, rfl⟩ := List.length_eq_one_iff.mp hLength
            rcases hName with rfl | rfl
            · cases hBytes : element.isNamed "u8" with
              | true => exact TableLine.blob ⟨element, h, hBytes⟩
              | false => exact TableLine.list ⟨h, hBytes⟩
            · exact TableLine.optional h
          · apply TableLine.plain
            intro other others hOther
            obtain ⟨rfl, rfl⟩ := h.unique hOther
            exact ⟨hArity, hElement⟩
      | some arity =>
          by_cases hLength : args.length = arity
          · unfold arity? at hArity
            split at hArity <;> cases hArity
            · obtain ⟨key, value, rfl⟩ := List.length_eq_two.mp hLength
              exact @TableLine.map _ .hash key value h
            · obtain ⟨key, value, rfl⟩ := List.length_eq_two.mp hLength
              exact @TableLine.map _ .ordered key value h
            · obtain ⟨element, rfl⟩ := List.length_eq_one_iff.mp hLength
              exact TableLine.stream h
            · obtain rfl := List.length_eq_zero_iff.mp hLength
              exact TableLine.rows h
            · obtain rfl := List.length_eq_zero_iff.mp hLength
              exact TableLine.rowCount h
          · exact TableLine.wrongArity ⟨name, args, arity, h, hArity, hLength⟩

end TypeExpr

namespace Schema

variable (schema : Schema) (columns : ResultColumns)

/-- The shape that the table gives to a type. -/
inductive Shaped (type : TypeExpr) : Shape → Prop where
  | blob {row : Row} (h : type.IsBlob) (hRow : schema.MapsRow type columns.value row) :
      Shaped type (.single row)
  | list {element : TypeExpr} {row : Row} (h : type.IsList element)
      (hRow : schema.MapsRow element columns.value row) : Shaped type (.list row)
  | optional {element : TypeExpr} {row : Row} (h : type.Applies "Option" [element])
      (hStruct : schema.entity? element ≠ none)
      (hRow : schema.MapsRow element columns.value row) : Shaped type (.optional row false)
  | flattened {element : TypeExpr} {row : Row} (h : type.Applies "Option" [element])
      (hScalar : schema.entity? element = none)
      (hRow : schema.MapsRow type columns.value row) : Shaped type (.optional row true)
  | stream {element : TypeExpr} {row : Row} (h : type.Applies "RowStream" [element])
      (hRow : schema.MapsRow element columns.value row) : Shaped type (.stream row)
  | map {kind : MapKind} {key value : TypeExpr} {keyRow valueRow : Row}
      (h : type.Applies kind.constructor [key, value]) (hSingle : ∀ item, ¬value.IsList item)
      (hKey : schema.MapsRow key columns.key keyRow) (hPlain : ¬schema.HasRelationFields key)
      (hValue : schema.MapsRow value columns.value valueRow) :
      Shaped type (.map kind keyRow valueRow)
  | multimap {kind : MapKind} {key value element : TypeExpr} {keyRow valueRow : Row}
      (h : type.Applies kind.constructor [key, value]) (hList : value.IsList element)
      (hKey : schema.MapsRow key columns.key keyRow) (hPlain : ¬schema.HasRelationFields key)
      (hValue : schema.MapsRow element columns.value valueRow) :
      Shaped type (.multimap kind keyRow valueRow)
  | rows (h : type.Applies "MemoryCursor" []) : Shaped type .rows
  | rowCount (h : type.Applies "RowCount" []) : Shaped type .rowCount
  | single {row : Row} (h : type.Plain) (hRow : schema.MapsRow type columns.value row) :
      Shaped type (.single row)

variable {type : TypeExpr}

/-- Bytes are one value, although they are written as a list. -/
theorem shape_of_blob (h : type.IsBlob) :
    schema.shape type columns = Shape.single <$> schema.row type columns.value := by
  obtain ⟨element, hApplies, hBytes⟩ := h
  simp [Schema.shape, TypeExpr.constructor?_eq_some_iff.mpr hApplies, hBytes]

theorem shape_of_list {element : TypeExpr} (h : type.IsList element) :
    schema.shape type columns = Shape.list <$> schema.row element columns.value := by
  obtain ⟨hApplies, hItems⟩ := h
  simp [Schema.shape, TypeExpr.constructor?_eq_some_iff.mpr hApplies, hItems]

/-- An optional struct is a row that may be missing. -/
theorem shape_of_optional {element : TypeExpr} (h : type.Applies "Option" [element])
    (hStruct : schema.entity? element ≠ none) :
    schema.shape type columns =
      (Shape.optional · false) <$> schema.row element columns.value := by
  simp [Schema.shape, TypeExpr.constructor?_eq_some_iff.mpr h, Option.isSome_iff_ne_none, hStruct]

/-- An optional scalar is read as optional, so that a missing row and NULL are one. -/
theorem shape_of_flattened {element : TypeExpr} (h : type.Applies "Option" [element])
    (hScalar : schema.entity? element = none) :
    schema.shape type columns = (Shape.optional · true) <$> schema.row type columns.value := by
  simp [Schema.shape, TypeExpr.constructor?_eq_some_iff.mpr h, hScalar]

theorem shape_of_stream {element : TypeExpr} (h : type.Applies "RowStream" [element]) :
    schema.shape type columns = Shape.stream <$> schema.row element columns.value := by
  simp [Schema.shape, TypeExpr.constructor?_eq_some_iff.mpr h]

/-- Both kinds of maps take a key and a value. -/
theorem shape_of_map {kind : MapKind} {key value : TypeExpr}
    (h : type.Applies kind.constructor [key, value]) :
    schema.shape type columns = schema.mapShape kind key value columns := by
  have hConstructor := TypeExpr.constructor?_eq_some_iff.mpr h
  cases kind <;> simp [Schema.shape, hConstructor, MapKind.constructor]

theorem shape_of_rows (h : type.Applies "MemoryCursor" []) :
    schema.shape type columns = .ok .rows := by
  simp [Schema.shape, TypeExpr.constructor?_eq_some_iff.mpr h, pure, Except.pure]

theorem shape_of_rowCount (h : type.Applies "RowCount" []) :
    schema.shape type columns = .ok .rowCount := by
  simp [Schema.shape, TypeExpr.constructor?_eq_some_iff.mpr h, pure, Except.pure]

/-- All other types are those of a single row. -/
theorem shape_of_plain (h : type.Plain) :
    schema.shape type columns = Shape.single <$> schema.row type columns.value := by
  have hLine {name : String} {args : List TypeExpr}
      (hConstructor : type.constructor? = some (name, args)) :=
    h name args (TypeExpr.constructor?_eq_some_iff.mp hConstructor)
  unfold Schema.shape
  split <;> rename_i hConstructor
  case h_8 =>
      have hOther := TypeExpr.arity?_eq_none_iff.mp (hLine hConstructor).1
      simp [List.contains_eq_mem, hOther]
  case h_9 => simp
  all_goals exact absurd (hLine hConstructor) (by simp [TypeExpr.arity?])

/-- A constructor with the wrong number of arguments is refused before its arguments are read. -/
theorem shape_of_wrongArity (h : type.WrongArity) :
    schema.shape type columns = .error .typeArgumentCount := by
  obtain ⟨name, args, arity, hApplies, hArity, hLength⟩ := h
  have hConstructor := TypeExpr.constructor?_eq_some_iff.mpr hApplies
  unfold Schema.shape
  split <;> rename_i hOther <;> simp only [hConstructor, Option.some.injEq, Prod.mk.injEq,
    reduceCtorEq] at hOther
  case h_8 =>
      obtain ⟨rfl, rfl⟩ := hOther
      have hListed : name ∈ ["HashMap", "BTreeMap", "RowStream", "MemoryCursor", "RowCount"] := by
        by_contra hNone
        rw [TypeExpr.arity?_eq_none_iff.mpr hNone] at hArity
        cases hArity
      simp [List.contains_eq_mem, hListed, throw, throwThe, MonadExceptOf.throw]
  all_goals
    obtain ⟨rfl, rfl⟩ := hOther
    simp [TypeExpr.arity?] at hArity
    try exact absurd hArity hLength

/-- The rows of keys, which have no relation fields, and the rows of values. -/
def keyed (make : Row → Row → Shape) (key element : TypeExpr) : Except SourceError Shape := do
  let keyRow ← schema.row key columns.key
  if keyRow.hasRelations then .error .mapKeyWithRelations
  else make keyRow <$> schema.row element columns.value

/-- A value type that is no list makes a map of its rows. -/
theorem mapShape_of_single {kind : MapKind} {key value : TypeExpr}
    (hSingle : ∀ item, ¬value.IsList item) :
    schema.mapShape kind key value columns = schema.keyed columns (.map kind) key value := by
  unfold Schema.mapShape keyed
  congr 1
  funext keyRow
  cases keyRow.hasRelations with
  | true => simp [throw, throwThe, MonadExceptOf.throw, bind, Except.bind]
  | false =>
      simp only [Bool.false_eq_true, ↓reduceIte]
      split
      · rename_i element hConstructor
        cases hBytes : element.isNamed "u8" with
        | true => simp
        | false =>
            have hList := TypeExpr.constructor?_eq_some_iff.mp hConstructor
            exact absurd ⟨hList, hBytes⟩ (hSingle element)
      · simp

/-- A value type that is a list makes a multimap of the rows of its elements. -/
theorem mapShape_of_list {kind : MapKind} {key value element : TypeExpr}
    (hList : value.IsList element) :
    schema.mapShape kind key value columns = schema.keyed columns (.multimap kind) key element := by
  obtain ⟨hApplies, hItems⟩ := hList
  unfold Schema.mapShape keyed
  congr 1
  funext keyRow
  cases keyRow.hasRelations with
  | true => simp [throw, throwThe, MonadExceptOf.throw, bind, Except.bind]
  | false => simp [TypeExpr.constructor?_eq_some_iff.mpr hApplies, hItems]

/-- A map is accepted if key and element are, and the key has no relation fields. -/
theorem keyed_ok_iff {make : Row → Row → Shape} {key element : TypeExpr} {shape : Shape} :
    schema.keyed columns make key element = .ok shape ↔
      ∃ keyRow valueRow, schema.MapsRow key columns.key keyRow ∧ ¬schema.HasRelationFields key ∧
        schema.MapsRow element columns.value valueRow ∧ make keyRow valueRow = shape := by
  simp only [keyed, bind_eq_ok_iff, row_ok_iff]
  constructor
  · rintro ⟨keyRow, hKey, h⟩
    split at h
    · cases h
    · rename_i hPlain
      obtain ⟨valueRow, hValue, hShape⟩ := map_eq_ok_iff.mp h
      refine ⟨keyRow, valueRow, hKey, ?_, (schema.row_ok_iff).mp hValue, hShape⟩
      rwa [← hKey.hasRelations_iff]
  · rintro ⟨keyRow, valueRow, hKey, hPlain, hValue, hShape⟩
    refine ⟨keyRow, hKey, ?_⟩
    rw [if_neg (by rwa [hKey.hasRelations_iff])]
    exact map_eq_ok_iff.mpr ⟨valueRow, (schema.row_ok_iff).mpr hValue, hShape⟩

/-- A map is refused for its key, for relation fields of its key, or for its element. -/
theorem keyed_error_iff {make : Row → Row → Shape} {key element : TypeExpr} :
    (∃ e, schema.keyed columns make key element = .error e) ↔
      schema.FaultyRow key ∨ schema.HasRelationFields key ∨ schema.FaultyRow element := by
  rw [← @row_error_iff schema key columns.key, ← @row_error_iff schema element columns.value]
  unfold keyed
  cases hKey : schema.row key columns.key with
  | error e => simp [bind, Except.bind]
  | ok keyRow =>
      rw [← ((schema.row_ok_iff).mp hKey).hasRelations_iff]
      simp only [bind, Except.bind, reduceCtorEq, exists_false, false_or]
      cases keyRow.hasRelations with
      | true => simp
      | false => simp [map_eq_error_iff]

/-- A map is refused for its keys or for what its entries hold. -/
theorem mapShape_error_iff {kind : MapKind} {key value element : TypeExpr}
    (hHeld : value.HeldIn element) :
    (∃ e, schema.mapShape kind key value columns = .error e) ↔
      schema.FaultyRow key ∨ schema.HasRelationFields key ∨ schema.FaultyRow element := by
  cases hHeld with
  | grouped hList => rw [mapShape_of_list _ _ hList, keyed_error_iff]
  | single hSingle => rw [mapShape_of_single _ _ hSingle, keyed_error_iff]

/-- A type is accepted exactly with the shape that the table gives to it. -/
theorem shape_ok_iff {shape : Shape} :
    schema.shape type columns = .ok shape ↔ schema.Shaped columns type shape := by
  constructor
  · intro h
    cases type.tableLine with
    | blob hLine =>
        rw [shape_of_blob _ _ hLine, map_eq_ok_iff] at h
        obtain ⟨row, hRow, rfl⟩ := h
        exact Shaped.blob hLine ((schema.row_ok_iff).mp hRow)
    | list hLine =>
        rw [shape_of_list _ _ hLine, map_eq_ok_iff] at h
        obtain ⟨row, hRow, rfl⟩ := h
        exact Shaped.list hLine ((schema.row_ok_iff).mp hRow)
    | @optional element hLine =>
        by_cases hScalar : schema.entity? element = none
        · rw [shape_of_flattened _ _ hLine hScalar, map_eq_ok_iff] at h
          obtain ⟨row, hRow, rfl⟩ := h
          exact Shaped.flattened hLine hScalar ((schema.row_ok_iff).mp hRow)
        · rw [shape_of_optional _ _ hLine hScalar, map_eq_ok_iff] at h
          obtain ⟨row, hRow, rfl⟩ := h
          exact Shaped.optional hLine hScalar ((schema.row_ok_iff).mp hRow)
    | stream hLine =>
        rw [shape_of_stream _ _ hLine, map_eq_ok_iff] at h
        obtain ⟨row, hRow, rfl⟩ := h
        exact Shaped.stream hLine ((schema.row_ok_iff).mp hRow)
    | @map kind key value hLine =>
        rw [shape_of_map _ _ hLine] at h
        by_cases hList : ∃ element, value.IsList element
        · obtain ⟨element, hList⟩ := hList
          rw [mapShape_of_list _ _ hList, keyed_ok_iff] at h
          obtain ⟨keyRow, valueRow, hKey, hPlain, hValue, rfl⟩ := h
          exact Shaped.multimap hLine hList hKey hPlain hValue
        · have hSingle := not_exists.mp hList
          rw [mapShape_of_single _ _ hSingle, keyed_ok_iff] at h
          obtain ⟨keyRow, valueRow, hKey, hPlain, hValue, rfl⟩ := h
          exact Shaped.map hLine hSingle hKey hPlain hValue
    | rows hLine =>
        rw [shape_of_rows _ _ hLine] at h
        cases h
        exact Shaped.rows hLine
    | rowCount hLine =>
        rw [shape_of_rowCount _ _ hLine] at h
        cases h
        exact Shaped.rowCount hLine
    | wrongArity hLine =>
        rw [shape_of_wrongArity _ _ hLine] at h
        cases h
    | plain hLine =>
        rw [shape_of_plain _ _ hLine, map_eq_ok_iff] at h
        obtain ⟨row, hRow, rfl⟩ := h
        exact Shaped.single hLine ((schema.row_ok_iff).mp hRow)
  · intro h
    cases h with
    | blob hLine hRow =>
        rw [shape_of_blob _ _ hLine, map_eq_ok_iff]
        exact ⟨_, (schema.row_ok_iff).mpr hRow, rfl⟩
    | list hLine hRow =>
        rw [shape_of_list _ _ hLine, map_eq_ok_iff]
        exact ⟨_, (schema.row_ok_iff).mpr hRow, rfl⟩
    | optional hLine hStruct hRow =>
        rw [shape_of_optional _ _ hLine hStruct, map_eq_ok_iff]
        exact ⟨_, (schema.row_ok_iff).mpr hRow, rfl⟩
    | flattened hLine hScalar hRow =>
        rw [shape_of_flattened _ _ hLine hScalar, map_eq_ok_iff]
        exact ⟨_, (schema.row_ok_iff).mpr hRow, rfl⟩
    | stream hLine hRow =>
        rw [shape_of_stream _ _ hLine, map_eq_ok_iff]
        exact ⟨_, (schema.row_ok_iff).mpr hRow, rfl⟩
    | map hLine hSingle hKey hPlain hValue =>
        rw [shape_of_map _ _ hLine, mapShape_of_single _ _ hSingle, keyed_ok_iff]
        exact ⟨_, _, hKey, hPlain, hValue, rfl⟩
    | multimap hLine hList hKey hPlain hValue =>
        rw [shape_of_map _ _ hLine, mapShape_of_list _ _ hList, keyed_ok_iff]
        exact ⟨_, _, hKey, hPlain, hValue, rfl⟩
    | rows hLine => exact shape_of_rows _ _ hLine
    | rowCount hLine => exact shape_of_rowCount _ _ hLine
    | single hLine hRow =>
        rw [shape_of_plain _ _ hLine, map_eq_ok_iff]
        exact ⟨_, (schema.row_ok_iff).mpr hRow, rfl⟩

/-- Why a declared type is refused. -/
def Malformed (type : TypeExpr) : Prop :=
  type.WrongArity ∨
    (∃ row, (type.ElementOf row ∨ type.KeyOf row) ∧ schema.FaultyRow row) ∨
    ∃ key, type.KeyOf key ∧ schema.HasRelationFields key

/-- A type is refused exactly if it is malformed in one of the listed ways. -/
theorem shape_error_iff :
    (∃ e, schema.shape type columns = .error e) ↔ schema.Malformed type := by
  constructor
  · rintro ⟨e, h⟩
    cases type.tableLine with
    | blob hLine =>
        rw [shape_of_blob _ _ hLine, map_eq_error_iff] at h
        obtain ⟨element, hApplies, -⟩ := hLine
        obtain ⟨_, hEntity, -⟩ := (schema.row_error_iff).mp ⟨e, h⟩
        rw [Schema.entity?_eq_none_of_applies hApplies] at hEntity
        cases hEntity
    | list hLine =>
        rw [shape_of_list _ _ hLine, map_eq_error_iff] at h
        exact Or.inr (Or.inl ⟨_, Or.inl (.item hLine), (schema.row_error_iff).mp ⟨e, h⟩⟩)
    | @optional element hLine =>
        by_cases hScalar : schema.entity? element = none
        · rw [shape_of_flattened _ _ hLine hScalar, map_eq_error_iff] at h
          obtain ⟨_, hEntity, -⟩ := (schema.row_error_iff).mp ⟨e, h⟩
          rw [Schema.entity?_eq_none_of_applies hLine] at hEntity
          cases hEntity
        · rw [shape_of_optional _ _ hLine hScalar, map_eq_error_iff] at h
          exact Or.inr (Or.inl ⟨_, Or.inl (.optional hLine), (schema.row_error_iff).mp ⟨e, h⟩⟩)
    | stream hLine =>
        rw [shape_of_stream _ _ hLine, map_eq_error_iff] at h
        exact Or.inr (Or.inl ⟨_, Or.inl (.streamed hLine), (schema.row_error_iff).mp ⟨e, h⟩⟩)
    | @map kind key value hLine =>
        rw [shape_of_map _ _ hLine] at h
        have hKey : type.KeyOf key := ⟨kind, value, hLine⟩
        obtain ⟨element, hHeld⟩ := value.exists_heldIn
        rcases (schema.mapShape_error_iff columns hHeld).mp ⟨e, h⟩ with hFault | hKeyed | hFault
        · exact Or.inr (Or.inl ⟨key, Or.inr hKey, hFault⟩)
        · exact Or.inr (Or.inr ⟨key, hKey, hKeyed⟩)
        · exact Or.inr (Or.inl ⟨element, Or.inl (.entry hLine hHeld), hFault⟩)
    | rows hLine =>
        rw [shape_of_rows _ _ hLine] at h
        cases h
    | rowCount hLine =>
        rw [shape_of_rowCount _ _ hLine] at h
        cases h
    | wrongArity hLine => exact Or.inl hLine
    | plain hLine =>
        rw [shape_of_plain _ _ hLine, map_eq_error_iff] at h
        exact Or.inr (Or.inl ⟨_, Or.inl (.itself hLine), (schema.row_error_iff).mp ⟨e, h⟩⟩)
  · rintro (hLine | ⟨row, hElement | ⟨kind, value, hLine⟩, hFault⟩ |
      ⟨key, ⟨kind, value, hLine⟩, hKeyed⟩)
    · exact ⟨_, shape_of_wrongArity _ _ hLine⟩
    · cases hElement with
      | itself hLine =>
          simpa only [shape_of_plain _ _ hLine, map_eq_error_iff, row_error_iff] using hFault
      | item hLine =>
          simpa only [shape_of_list _ _ hLine, map_eq_error_iff, row_error_iff] using hFault
      | optional hLine =>
          have hStruct : schema.entity? row ≠ none := by
            obtain ⟨e, hEntity, -⟩ := hFault
            simp [hEntity]
          simpa only [shape_of_optional _ _ hLine hStruct, map_eq_error_iff, row_error_iff]
            using hFault
      | streamed hLine =>
          simpa only [shape_of_stream _ _ hLine, map_eq_error_iff, row_error_iff] using hFault
      | entry hLine hHeld =>
          rw [shape_of_map _ _ hLine, mapShape_error_iff _ _ hHeld]
          exact Or.inr (Or.inr hFault)
    · obtain ⟨element, hHeld⟩ := value.exists_heldIn
      rw [shape_of_map _ _ hLine, mapShape_error_iff _ _ hHeld]
      exact Or.inl hFault
    · obtain ⟨element, hHeld⟩ := value.exists_heldIn
      rw [shape_of_map _ _ hLine, mapShape_error_iff _ _ hHeld]
      exact Or.inr (Or.inl hKeyed)

/-- The declared types that are refused are exactly the malformed ones, and every other type has
exactly the shape that the table gives to it. -/
theorem shape_accepts_table :
    ((∃ e, schema.shape type columns = .error e) ↔ schema.Malformed type) ∧
      ∀ shape, schema.shape type columns = .ok shape ↔ schema.Shaped columns type shape :=
  ⟨schema.shape_error_iff columns, fun _ => schema.shape_ok_iff columns⟩

end Schema

end TypedQuery
