import Mathlib.Data.List.ReduceOption
import TypedQuery.Proofs.Meaning.Join

/-! What maps hold. A map has the first value of each key and a multimap all values of each key,
where a row without a value only adds its key. Keys are compared by the order of their type. -/

namespace TypedQuery

section Rows

variable {ρ : Type} {order : Ord Datum} {reader : Reader}

/-- What the rows with the same key carry, in their order. -/
def rowsOf (order : Ord Datum) (k : Datum) (rows : List (Datum × ρ)) : List ρ :=
  (rows.filter fun row => order.compare k row.1 = .eq).map Prod.snd

/-- The first row with the same key. -/
def firstRow? (order : Ord Datum) (k : Datum) (rows : List (Datum × ρ)) : Option (Datum × ρ) :=
  rows.find? fun row => order.compare k row.1 = .eq

/-- A map has each key of the rows once, in the order of the keys, and no other. -/
structure HasKeys (order : Ord Datum) (rows : List (Datum × ρ)) (es : List (Datum × Datum)) :
    Prop where
  ascending : (es.map Prod.fst).Pairwise fun a b => order.compare a b = .lt
  keys : ∀ k, (∃ e ∈ es, order.compare k e.1 = .eq) ↔ ∃ row ∈ rows, order.compare k row.1 = .eq

/-- Each key stands once, as the first row with the same key has it, and with the value of this
row. -/
structure KeepsFirst (order : Ord Datum) (rows es : List (Datum × Datum)) : Prop
    extends HasKeys order rows es where
  first : ∀ k v, (k, v) ∈ es → firstRow? order k rows = some (k, v)

/-- Each key stands once, as the first row with the same key has it, and with the values of all rows
with the same key that have one. -/
structure GroupsAll (order : Ord Datum) (rows : List (Datum × Option Datum))
    (es : List (Datum × Datum)) : Prop extends HasKeys order rows es where
  first : ∀ k g, (k, g) ∈ es → ∃ v?, firstRow? order k rows = some (k, v?)
  group : ∀ k g, (k, g) ∈ es → g = .list (rowsOf order k rows).reduceOption

/-- The entries that rows make, one after the other. -/
def entriesOf (reader : Reader) (fresh : ρ → Datum) (change : ρ → Datum → Datum)
    (rows : List (Datum × ρ)) : List (Datum × Datum) :=
  rows.foldl (fun es row => reader.alter row.1 (fresh row.2) (change row.2) es) []

/-- The first row of a key is the first of all its rows. -/
theorem firstRow?_eq_head? (k : Datum) (rows : List (Datum × ρ)) :
    firstRow? order k rows = (rows.filter fun row => order.compare k row.1 = .eq).head? :=
  List.head?_filter.symm

variable {fresh : ρ → Datum} {change : ρ → Datum → Datum} {rows : List (Datum × ρ)}

section Order

variable (hOrder : Std.TransCmp reader.keyOrder.compare)
include hOrder

/-- No two entries have keys that are equal in the order of their type. -/
theorem ascending_entriesOf :
    ((entriesOf reader fresh change rows).map Prod.fst).Pairwise
      fun a b => reader.keyOrder.compare a b = .lt :=
  let := reader.keyOrder
  Sorted.ascending_foldl_alter Sorted.ascending_nil

/-- What stands under a key is made of the rows with the same key, and the key is that of the first
one. -/
theorem entryAt?_entriesOf (k : Datum) :
    @Sorted.entryAt? _ _ reader.keyOrder k (entriesOf reader fresh change rows) =
      (firstRow? reader.keyOrder k rows).map fun row =>
        (row.1, (rowsOf reader.keyOrder k rows).foldl (fun found x => change x found)
          (fresh row.2)) := by
  let := reader.keyOrder
  have hStart : Sorted.Ascending (([] : List (Datum × Datum)).map Prod.fst) :=
    Sorted.ascending_nil
  have hScan (entry : Datum × Datum) (same : List (Datum × ρ)) :
      same.foldl (fun found row => some (Sorted.changed row.1 (fresh row.2) (change row.2) found))
        (some entry) = some (entry.1, (same.map Prod.snd).foldl (fun found x => change x found)
          entry.2) := by
    induction same generalizing entry with
    | nil => rfl
    | cons row same ih => exact ih (entry.1, change row.2 entry.2)
  rw [firstRow?_eq_head?, rowsOf]
  refine (Sorted.entryAt?_foldl_alter hStart k).trans ?_
  change (rows.filter fun row => reader.keyOrder.compare k row.1 = .eq).foldl _ none = _
  cases rows.filter fun row => reader.keyOrder.compare k row.1 = .eq with
  | nil => rfl
  | cons row same => exact hScan (row.1, change row.2 (fresh row.2)) same

/-- The keys of the entries are those of the rows. -/
theorem hasKeys_entriesOf : HasKeys reader.keyOrder rows (entriesOf reader fresh change rows) where
  ascending := ascending_entriesOf hOrder
  keys k := by
    let := reader.keyOrder
    have hFound : (Sorted.entryAt? k (entriesOf reader fresh change rows)).isSome =
        (firstRow? reader.keyOrder k rows).isSome := by
      rw [entryAt?_entriesOf hOrder, Option.isSome_map]
    rw [Sorted.entryAt?, firstRow?, Bool.eq_iff_iff, List.find?_isSome, List.find?_isSome] at hFound
    simpa using hFound

/-- An entry has the key of the first row with the same key, and what the rows with this key make of
it. -/
theorem entry_entriesOf {k g : Datum} (hEntry : (k, g) ∈ entriesOf reader fresh change rows) :
    ∃ row, firstRow? reader.keyOrder k rows = some row ∧ row.1 = k ∧
      (rowsOf reader.keyOrder k rows).foldl (fun found x => change x found) (fresh row.2) = g := by
  let := reader.keyOrder
  have hFound := Sorted.entryAt?_of_mem (ascending_entriesOf hOrder) hEntry
  rw [entryAt?_entriesOf hOrder] at hFound
  obtain ⟨row, hRow, hSame⟩ := Option.map_eq_some_iff.mp hFound
  exact ⟨row, hRow, congrArg Prod.fst hSame, congrArg Prod.snd hSame⟩

end Order

end Rows

section Order

variable {reader : Reader} (hOrder : Std.TransCmp reader.keyOrder.compare)
include hOrder

/-- Rows whose values are kept unless the key has one. -/
theorem keepsFirst_entriesOf {rows : List (Datum × Datum)} :
    KeepsFirst reader.keyOrder rows (entriesOf reader id (fun _ => id) rows) where
  toHasKeys := hasKeys_entriesOf hOrder
  first k v hEntry := by
    have hScan (v : Datum) (vs : List Datum) : vs.foldl (fun found _ => id found) v = v := by
      induction vs with
      | nil => rfl
      | cons _ vs ih => exact ih
    obtain ⟨row, hRow, rfl, hValue⟩ := entry_entriesOf hOrder hEntry
    rw [hScan] at hValue
    rw [hRow, ← hValue]
    rfl

/-- Rows that are added to the group of their key, if they have a value. -/
theorem groupsAll_entriesOf {rows : List (Datum × Option Datum)} :
    GroupsAll reader.keyOrder rows
      (entriesOf reader (fun _ => .list []) (fun v? => v?.elim id Run.appendItem) rows) where
  toHasKeys := hasKeys_entriesOf hOrder
  first k g hEntry := by
    obtain ⟨row, hRow, rfl, -⟩ := entry_entriesOf hOrder hEntry
    exact ⟨row.2, hRow⟩
  group k g hEntry := by
    have hScan (ds : List Datum) (vs : List (Option Datum)) :
        vs.foldl (fun found v? => v?.elim id Run.appendItem found) (.list ds) =
          .list (ds ++ vs.reduceOption) := by
      induction vs generalizing ds with
      | nil => rw [List.foldl_nil, List.reduceOption_nil, List.append_nil]
      | cons v? vs ih =>
          cases v? with
          | none => exact ih ds
          | some v =>
              rw [List.reduceOption_cons_of_some, List.append_cons]
              exact ih (ds ++ [v])
    obtain ⟨row, -, -, hGroup⟩ := entry_entriesOf hOrder hEntry
    rw [← hGroup, hScan, List.nil_append]

end Order

namespace Line

/-- The column with this index, if it has one, is NULL. -/
def NullAt (line : Line) (index : Except DataError Nat) : Prop := index >>= line = .ok .null

variable {line : Line} {indices : List Nat}

/-- A row counts as missing if all of its columns are NULL. -/
theorem allNull_eq_true_iff :
    line.allNull indices = .ok true ↔ ∀ i ∈ indices, line i = .ok .null := by
  induction indices with
  | nil => simp [allNull, pure, Except.pure]
  | cons index rest ih =>
      rw [allNull, bind_eq_ok_iff, List.forall_mem_cons, ← ih]
      constructor
      · rintro ⟨v, hRead, hRest⟩
        cases v with
        | null => exact ⟨hRead, hRest⟩
        | integer | real | text | blob => cases hRest
      · rintro ⟨hRead, hRest⟩
        exact ⟨.null, hRead, hRest⟩

/-- Columns that can be read can be tested. -/
theorem allNull_of_read (h : ∀ i ∈ indices, ∃ v, line i = .ok v) :
    ∃ b, line.allNull indices = .ok b := by
  induction indices with
  | nil => exact ⟨true, rfl⟩
  | cons index rest ih =>
      obtain ⟨⟨v, hRead⟩, hRest⟩ := List.forall_mem_cons.mp h
      rw [allNull, hRead]
      cases hNull : v.isNull with
      | true => simpa [bind, Except.bind, hNull] using ih hRest
      | false => exact ⟨false, by simp [bind, Except.bind, hNull, pure, Except.pure]⟩

end Line

/-- A line has no value to be added to a group: the column of a scalar is NULL where NULL is no
value of the type, and a struct with columns has NULL in all of them. -/
def Row.NoValue (c : Cursor) (line : Line) : Row → Prop
  | scalar type column => isNullable type = false ∧ line.NullAt (scalarIndex c column)
  | entity e => e.fields ≠ [] ∧ ∀ f ∈ e.fields, line.NullAt (c.columnIndex f.column)

/-- The test of a converter finds the lines without a value. It can fail only where the conversion
does. -/
structure Converter.Tests (v : Converter) (row : Row) (c : Cursor) : Prop where
  isEmpty_iff : ∀ line, v.isEmpty line = .ok true ↔ row.NoValue c line
  tested : ∀ line d, v.convert line = .ok d → ∃ b, v.isEmpty line = .ok b

section Tests

variable {reader : Reader} {db : Connection} {c : Cursor}

/-- A scalar is missing if its column is NULL, unless its type has a place for NULL. -/
theorem Row.tests_scalar {type : TypeExpr} {column : Option String} {index : Nat}
    (h : scalarIndex c column = .ok index) :
    ((scalar type column).converter reader ⟨[index], []⟩).Tests (scalar type column) c := by
  have hTest (line : Line) : ((scalar type column).converter reader ⟨[index], []⟩).isEmpty line =
      if isNullable type then .ok false else line.allNull [index] := rfl
  constructor
  · intro line
    rw [hTest, NoValue, Line.NullAt, h]
    cases isNullable type with
    | true => simp
    | false =>
        simp only [Bool.false_eq_true, ↓reduceIte, true_and, Line.allNull_eq_true_iff,
          List.mem_singleton, forall_eq]
        rfl
  · intro line d hConvert
    obtain ⟨v, hRead, -⟩ := bind_eq_ok_iff.mp hConvert
    rw [hTest]
    cases isNullable type with
    | true => exact ⟨false, rfl⟩
    | false =>
        refine Line.allNull_of_read fun i hi => ⟨v, ?_⟩
        rw [List.mem_singleton.mp hi]
        exact hRead

/-- Columns from which fields were read can be read. -/
theorem EntityRow.reads_of_readColumns {fields : List ColumnField} {columns : List Nat}
    {line : Line} {ds : List (String × Datum)} (hLength : fields.length = columns.length)
    (h : readColumns reader fields columns line = .ok ds) : ∀ i ∈ columns, ∃ v, line i = .ok v := by
  intro i hi
  obtain ⟨f, hf⟩ : ∃ f, (f, i) ∈ fields.zip columns := by
    rw [← List.map_snd_zip (Nat.le_of_eq hLength.symm)] at hi
    obtain ⟨⟨f, j⟩, hMem, rfl⟩ := List.mem_map.mp hi
    exact ⟨f, hMem⟩
  obtain ⟨d, -, hRead⟩ : ∃ d ∈ ds, _ := exists_of_forall₂_left (mapM_eq_ok_iff.mp h) hf
  obtain ⟨v, hValue, -⟩ := bind_eq_ok_iff.mp hRead
  exact ⟨v, hValue⟩

/-- A struct is missing if all of its columns are NULL; without columns it never is. -/
theorem EntityRow.tests {e : EntityRow} {p : Prepared}
    (h : e.fields.mapM (fun f => c.columnIndex f.column) = .ok p.columns) :
    ((Row.entity e).converter reader p).Tests (.entity e) c := by
  have hColumns := mapM_eq_ok_iff.mp h
  have hTest (line : Line) : ((Row.entity e).converter reader p).isEmpty line =
      if p.columns.isEmpty then .ok false else line.allNull p.columns := rfl
  constructor
  · intro line
    have hNull : (∀ i ∈ p.columns, line i = .ok .null) ↔
        ∀ f ∈ e.fields, line.NullAt (c.columnIndex f.column) := by
      refine (forall_mem_iff_of_forall₂ hColumns fun f i hIndex => ?_).symm
      rw [Line.NullAt, hIndex]
      rfl
    have hSome : e.fields ≠ [] ↔ p.columns.isEmpty = false := by
      rw [← List.length_pos_iff, hColumns.length_eq, List.length_pos_iff, List.isEmpty_eq_false_iff]
    rw [hTest, Row.NoValue, ← hNull, hSome]
    cases p.columns.isEmpty with
    | true => simp
    | false => simp [Line.allNull_eq_true_iff]
  · intro line d hConvert
    obtain ⟨columns, hRead, -⟩ := bind_eq_ok_iff.mp hConvert
    rw [hTest]
    split
    · exact ⟨false, rfl⟩
    · exact Line.allNull_of_read (reads_of_readColumns hColumns.length_eq hRead)

/-- After preparation lines are tested by the names of the columns. -/
theorem Row.prepared_tests (row : Row) :
    (row.prepared reader db c).Ensures fun p => (row.converter reader p).Tests row c := by
  cases row with
  | scalar type column =>
      cases column with
      | none => exact Session.Ensures.pure (tests_scalar rfl)
      | some column =>
          rw [prepared]
          exact Session.ensures_liftM.bind fun index hIndex =>
            Session.Ensures.pure (tests_scalar hIndex)
  | entity e => exact (EntityRow.prepared_columns e).mono fun p hColumns => EntityRow.tests hColumns

end Tests

/-- What a line becomes in a map. -/
def MapRow (k v : Converter) (line : Line) (row : Datum × Datum) : Prop :=
  k.convert line = .ok row.1 ∧ v.convert line = .ok row.2

/-- What a line becomes in a multimap. A line without a value is not converted but for its key. -/
def GroupRow (value : Row) (c : Cursor) (k v : Converter) (line : Line)
    (row : Datum × Option Datum) : Prop :=
  k.convert line = .ok row.1 ∧
    match row.2 with
    | none => value.NoValue c line
    | some d => ¬value.NoValue c line ∧ v.convert line = .ok d

namespace Converter

variable {reader : Reader} {k v : Converter} {c : Cursor} {value : Row}

def readPair (k v : Converter) (line : Line) : Except DataError (Datum × Datum) := do
  return (← k.convert line, ← v.convert line)

def readMember (k v : Converter) (line : Line) : Except DataError (Datum × Option Datum) := do
  let key ← k.convert line
  if ← v.isEmpty line then return (key, none) else return (key, some (← v.convert line))

theorem readPair_eq_ok_iff {line : Line} {row : Datum × Datum} :
    k.readPair v line = .ok row ↔ MapRow k v line row := by
  rw [readPair, MapRow]
  cases k.convert line <;> cases v.convert line <;>
    simp [bind, Except.bind, pure, Except.pure, Prod.ext_iff]

theorem readMember_eq_ok_iff (hTests : v.Tests value c) {line : Line}
    {row : Datum × Option Datum} :
    k.readMember v line = .ok row ↔ GroupRow value c k v line row := by
  obtain ⟨key, v?⟩ := row
  have hEmpty := hTests.isEmpty_iff line
  have hTested := hTests.tested line
  rw [readMember, GroupRow, bind_eq_ok_iff]
  constructor
  · rintro ⟨found, hKey, hRest⟩
    obtain ⟨b, hTest, hMember⟩ := bind_eq_ok_iff.mp hRest
    cases b with
    | true =>
        cases hMember
        exact ⟨hKey, hEmpty.mp hTest⟩
    | false =>
        obtain ⟨d, hConvert, hMember⟩ := bind_eq_ok_iff.mp hMember
        cases hMember
        refine ⟨hKey, fun hNone => ?_, hConvert⟩
        rw [hEmpty.mpr hNone] at hTest
        cases hTest
  · rintro ⟨hKey, hMember⟩
    refine ⟨key, hKey, bind_eq_ok_iff.mpr ?_⟩
    cases v? with
    | none => exact ⟨true, hEmpty.mpr hMember, rfl⟩
    | some d =>
        obtain ⟨hSome, hConvert⟩ := hMember
        obtain ⟨b, hTest⟩ := hTested d hConvert
        cases b with
        | true => exact absurd (hEmpty.mp hTest) hSome
        | false => exact ⟨false, hTest, bind_eq_ok_iff.mpr ⟨d, hConvert, rfl⟩⟩

/-- Going over the rows gives each key its first value. -/
theorem scan_insertEntry (lines : List Line) : lines.foldlM (k.insertEntry reader v) [] =
    entriesOf reader id (fun _ => id) <$> lines.mapM (k.readPair v) := by
  have hStep : k.insertEntry reader v = fun es line => do
      let row ← k.readPair v line
      return reader.alter row.1 (id row.2) id es := by
    funext es line
    simp only [insertEntry, readPair, bind_assoc, pure_bind, id]
  rw [hStep]
  exact foldlM_of_read lines []

/-- Going over the rows gives each key all of its values. -/
theorem scan_groupEntry (lines : List Line) : lines.foldlM (k.groupEntry reader v) [] =
    entriesOf reader (fun _ => .list []) (fun v? => v?.elim id Run.appendItem) <$>
      lines.mapM (k.readMember v) := by
  have hStep : k.groupEntry reader v = fun es line => do
      let row ← k.readMember v line
      return reader.alter row.1 (.list []) (row.2.elim id Run.appendItem) es := by
    funext es line
    simp only [groupEntry, readMember, bind_assoc]
    refine congrArg _ (funext fun key => congrArg _ (funext fun b => ?_))
    cases b with
    | true => rfl
    | false => simp only [Bool.false_eq_true, ↓reduceIte, bind_assoc, pure_bind, Option.elim_some]
  rw [hStep]
  exact foldlM_of_read lines []

end Converter

/-- Entries are made if every line can be read. -/
theorem entries_eq_ok_iff {ρ : Type} {read : Line → Except DataError (Datum × ρ)}
    {R : Line → Datum × ρ → Prop} (hRead : ∀ line row, read line = .ok row ↔ R line row)
    {reader : Reader} {fresh : ρ → Datum} {change : ρ → Datum → Datum} {lines : List Line}
    {d : Datum} :
    (do return .entries (← entriesOf reader fresh change <$> lines.mapM read)) = Except.ok d ↔
      ∃ rows, List.Forall₂ R lines rows ∧ d = .entries (entriesOf reader fresh change rows) := by
  rw [bind_eq_ok_iff]
  constructor
  · rintro ⟨es, hScan, hEnd⟩
    obtain ⟨rows, hRows, rfl⟩ := map_eq_ok_iff.mp hScan
    cases hEnd
    exact ⟨rows, (mapM_eq_ok_iff.mp hRows).imp fun line row => (hRead line row).mp, rfl⟩
  · rintro ⟨rows, hRows, rfl⟩
    have hAll := mapM_eq_ok_iff.mpr (hRows.imp fun line row => (hRead line row).mpr)
    exact ⟨_, map_eq_ok_iff.mpr ⟨rows, hAll, rfl⟩, rfl⟩

namespace Shape

variable {reader : Reader} {k v : Converter} {c : Cursor} {kind : MapKind} {key value : Row}
  {d : Datum}

/-- A map has a result exactly if every line has a key and a value. -/
theorem assemble_map_eq_ok_iff : (map kind key value).assemble reader k v c = .ok d ↔
    ∃ rows, List.Forall₂ (MapRow k v) c.lines rows ∧
      d = .entries (entriesOf reader id (fun _ => id) rows) := by
  rw [assemble, Converter.scan_insertEntry]
  exact entries_eq_ok_iff fun _ _ => Converter.readPair_eq_ok_iff

/-- A multimap has a result exactly if every line has a key, and a value or none. -/
theorem assemble_multimap_eq_ok_iff (hTests : v.Tests value c) :
    (multimap kind key value).assemble reader k v c = .ok d ↔
      ∃ rows, List.Forall₂ (GroupRow value c k v) c.lines rows ∧ d = .entries
        (entriesOf reader (fun _ => .list []) (fun v? => v?.elim id Run.appendItem) rows) := by
  rw [assemble, Converter.scan_groupEntry]
  exact entries_eq_ok_iff fun _ _ => Converter.readMember_eq_ok_iff hTests

end Shape

end TypedQuery
