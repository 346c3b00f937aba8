import TypedQuery.Program.Statement

/-!
The statements that turn rows into a result. A row is first prepared for, once for each cursor,
which binds variables; then it is converted any number of times with these bindings.
-/

namespace TypedQuery

/-- Emission counts the temporaries of the whole function, so that no two have the same number. -/
abbrev Fresh := StateM Nat

def fresh (stem : String) : Fresh Var := do
  let index ← get
  set (index + 1)
  return .temporary stem index

/-- The variables of the groups of a relation field: the index of the parent key, and the groups. -/
structure RelationBinding where
  keyIndex : Var
  groups : Var
  deriving DecidableEq, Repr

/-- What preparation binds: an index for each column, and groups for each relation field. -/
structure Bindings where
  columns : List Var
  relations : List RelationBinding
  deriving Repr

namespace EntityRow

/-- Build the struct from the current row. -/
def convert (e : EntityRow) (b : Bindings) (out cursor : Var) : Stmt :=
  let fields := (e.fields.zip b.columns).map fun (f, index) => FieldRead.mk f.name index f.type
  let relations := (e.relations.zip b.relations).map fun ((r, _), groups) =>
    GroupRead.mk r.name groups.keyIndex groups.groups r.quantity
  .build out cursor e.path fields relations

/-- Look up the columns of some fields. -/
def prepareColumns (cursor : Var) : List ColumnField → Fresh (List Var × List Stmt)
  | [] => return ([], [])
  | f :: rest => do
    let index ← fresh "index"
    let (others, stmts) ← prepareColumns cursor rest
    return (index :: others, .columnIndex index cursor f.column :: stmts)

mutual

/-- Prepare for the rows of a cursor. -/
def prepare (cursor : Var) : EntityRow → Fresh (Bindings × List Stmt)
  | .mk _ fields relations => do
    let (columns, lookups) ← prepareColumns cursor fields
    let (groups, fetches) ← prepareRelations cursor relations
    return (⟨columns, groups⟩, lookups ++ fetches)

/-- Prepare relation fields one after the other: collect the parent keys of all rows, go back before
the first row, fetch the related rows, and group what they become by their keys. -/
def prepareRelations (cursor : Var) :
    List (RelationField × EntityRow) → Fresh (List RelationBinding × List Stmt)
  | [] => return ([], [])
  | (r, entity) :: rest => do
    let keyIndex ← fresh "key_index"
    let keys ← fresh "keys"
    let groups ← fresh "groups"
    let related ← fresh "related"
    let relatedKeyIndex ← fresh "key_index"
    let relatedKey ← fresh "key"
    let item ← fresh "item"
    let (bindings, ready) ← entity.prepare related
    let (others, stmts) ← prepareRelations cursor rest
    let addRow := [
      .rowKey relatedKey related relatedKeyIndex,
      entity.convert bindings item related,
      .addToGroup groups relatedKey item]
    let group := .keyIndex relatedKeyIndex related :: ready ++ [.whileRows related addRow]
    let own := [
      .columnIndex keyIndex cursor r.parentColumn,
      .newKeys keys,
      .whileRows cursor [.collectKey keys cursor keyIndex],
      .reset cursor,
      .newGroups groups entity.path,
      .block [.fetch related keys r.query, .unlessEmpty related group]]
    return (⟨keyIndex, groups⟩ :: others, own ++ stmts)

end

/-- The test that all columns of a row are NULL, if it has columns. -/
def nullCheck? (b : Bindings) : Option NullCheck :=
  if b.columns.isEmpty then none else some ⟨b.columns, true⟩

end EntityRow

namespace Row

def prepare (cursor : Var) : Row → Fresh (Bindings × List Stmt)
  | scalar _ column => do
    let index ← fresh "index"
    let lookup :=
      match column with
      | some column => Stmt.columnIndex index cursor column
      | none => .firstColumn index
    return (⟨[index], []⟩, [lookup])
  | entity e => e.prepare cursor

/-- Convert the current row. A scalar needs the index of its column. -/
def convert? (r : Row) (b : Bindings) (out cursor : Var) : Option Stmt :=
  match r with
  | scalar type _ => b.columns.head?.map fun index => .read out cursor index type
  | entity e => some (e.convert b out cursor)

/-- Whether NULL is a value of the type. -/
def isNullable : TypeExpr → Bool
  | .path _ name _ => name = "Option"
  | .bound .. | .parenthesized _ | .verbatim _ => false

/-- The test that a row has no value. Where NULL is a value of its own there is none. -/
def nullCheck? (r : Row) (b : Bindings) : Option NullCheck :=
  match r with
  | scalar type _ =>
    if isNullable type then none else b.columns.head?.map fun index => ⟨[index], false⟩
  | entity _ => EntityRow.nullCheck? b

end Row

namespace Shape

/-- What the first row becomes. -/
def emitFirst (row : Row) (result : FirstRow) (out cursor : Var) : Fresh (List Stmt) := do
  let (bindings, ready) ← row.prepare cursor
  let item ← fresh "item"
  let body := (row.convert? bindings item cursor).toList
  return ready ++ [.firstRow out cursor item body result]

/-- Collect what all rows become. -/
def emitList (row : Row) (out cursor : Var) : Fresh (List Stmt) := do
  let (bindings, ready) ← row.prepare cursor
  let item ← fresh "item"
  let body := (row.convert? bindings item cursor).toList
  return ready ++ [.newItems out, .whileRows cursor (body ++ [.pushItem out item])]

/-- Collect entries. The key of a row is converted before its value, and a multimap tests in between
whether there is a value. -/
def emitMap (kind : MapKind) (keyRow valueRow : Row) (isMulti : Bool) (out cursor : Var) :
    Fresh (List Stmt) := do
  let (keyBindings, keyReady) ← keyRow.prepare cursor
  let (valueBindings, valueReady) ← valueRow.prepare cursor
  let key ← fresh "key"
  let value ← fresh "value"
  let convertKey := (keyRow.convert? keyBindings key cursor).toList
  let convertValue := (valueRow.convert? valueBindings value cursor).toList
  let skip :=
    if isMulti then
      (valueRow.nullCheck? valueBindings).toList.map (Stmt.skipNulls out key cursor ·)
    else []
  let add := if isMulti then Stmt.pushEntry out key value else .insertFirst out key value
  return keyReady ++ valueReady ++
    [.newMap out kind, .whileRows cursor (convertKey ++ skip ++ convertValue ++ [add])]

/-- The statements that leave the result in `out`. -/
def emit (out cursor : Var) : Shape → Fresh (List Stmt)
  | single row => emitFirst row (.required row.typeName) out cursor
  | optional row flattened =>
    emitFirst row (if flattened then .flattened else .wrapped) out cursor
  | list row => emitList row out cursor
  | stream row => do
    let items ← fresh "items"
    return (← emitList row items cursor) ++ [.stream out items]
  | map kind key value => emitMap kind key value false out cursor
  | multimap kind key value => emitMap kind key value true out cursor
  | rows => return [.copy out cursor false]
  | rowCount => do
    let count ← fresh "count"
    return [.newCount count, .whileRows cursor [.increment count], .rowCount out count]

end Shape

end TypedQuery
