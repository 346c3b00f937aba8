import TypedQuery.Declaration.Entity
import TypedQuery.Result.Row

/-!
The shape of a result, from the declared type. The outermost constructor of the type decides: `Vec`
is a list, `Option` an optional row, `HashMap` and `BTreeMap` are maps, and so on; all else is a
single row.
-/

namespace TypedQuery

/-- The columns of scalar map keys and of scalar values. -/
structure ResultColumns where
  key : Option String
  value : Option String
  deriving Inhabited

namespace Schema

variable (schema : Schema)

/-- How many related rows a relation field of a type holds, and the type of each. -/
def relationElement (type : TypeExpr) : Except SourceError (Quantity × TypeExpr) :=
  match type.constructor? with
  | some ("Vec", [element]) => .ok (.many, element)
  | some ("Option", [element]) => .ok (.optional, element)
  | _ => .error .relationType

/-- A field that is read from a column. -/
def columnField? : MappedField → Option ColumnField
  | .column name column type => some ⟨name, column, type⟩
  | .relation .. => none

/-- A struct without relation fields, as a row. -/
def plainRow (e : Entity) : EntityRow :=
  .mk [.ident e.name] (e.fields.filterMap columnField?) []

/-- The struct of a relation field of this type, with its table. It must not have relation fields of
its own. -/
def relationTarget (type : TypeExpr) : Except SourceError (Quantity × Entity × StringLiteral) := do
  let (quantity, element) ← relationElement type
  match schema.entity? element with
  | none => throw .relationTarget
  | some related =>
    match related.table with
    | none => throw .relationTable
    | some table =>
      if related.hasRelations then throw .nestedRelations else return (quantity, related, table)

/-- A relation field, with the struct that each related row becomes. -/
def relationField (name : String) (type : TypeExpr) (mapping : RelationMapping) :
    Except SourceError (RelationField × EntityRow) := do
  let (quantity, related, table) ← schema.relationTarget type
  return (⟨name, mapping.parentColumn, ⟨table.value, mapping.entityColumn, mapping.junction⟩,
    quantity⟩, plainRow related)

/-- The relation fields among some fields. -/
def relationFields : List MappedField → Except SourceError (List (RelationField × EntityRow))
  | [] => .ok []
  | .column .. :: rest => relationFields rest
  | .relation name type mapping :: rest => do
    let first ← schema.relationField name type mapping
    return first :: (← relationFields rest)

def entityRow (e : Entity) : Except SourceError EntityRow := do
  let relations ← schema.relationFields e.fields
  return .mk [.ident e.name] (e.fields.filterMap columnField?) relations

/-- What a row becomes: a struct of the module, or else the value of a column. -/
def row (type : TypeExpr) (column : Option String) : Except SourceError Row :=
  match schema.entity? type with
  | some e => return .entity (← schema.entityRow e)
  | none => .ok (.scalar type column)

/-- A map, or a multimap if its values are lists. A list of bytes is one value. -/
def mapShape (kind : MapKind) (key value : TypeExpr) (columns : ResultColumns) :
    Except SourceError Shape := do
  let keyRow ← schema.row key columns.key
  if keyRow.hasRelations then throw .mapKeyWithRelations
  match value.constructor? with
  | some ("Vec", [element]) =>
    if element.isNamed "u8" then return .map kind keyRow (← schema.row value columns.value)
    else return .multimap kind keyRow (← schema.row element columns.value)
  | _ => return .map kind keyRow (← schema.row value columns.value)

/-- The shape of a result of a declared type. -/
def shape (type : TypeExpr) (columns : ResultColumns) : Except SourceError Shape := do
  let rowOf (t : TypeExpr) := schema.row t columns.value
  match type.constructor? with
  | some ("Vec", [element]) =>
    if element.isNamed "u8" then return .single (← rowOf type)
    else return .list (← rowOf element)
  | some ("Option", [element]) =>
    if (schema.entity? element).isSome then return .optional (← rowOf element) false
    else return .optional (← rowOf type) true
  | some ("RowStream", [element]) => return .stream (← rowOf element)
  | some ("HashMap", [key, value]) => schema.mapShape .hash key value columns
  | some ("BTreeMap", [key, value]) => schema.mapShape .ordered key value columns
  | some ("MemoryCursor", []) => return .rows
  | some ("RowCount", []) => return .rowCount
  | some (name, _) =>
    if ["HashMap", "BTreeMap", "RowStream", "MemoryCursor", "RowCount"].contains name then
      throw .typeArgumentCount
    else return .single (← rowOf type)
  | none => return .single (← rowOf type)

end Schema

end TypedQuery
