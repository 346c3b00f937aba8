import TypedQuery.Program.Run
import TypedQuery.Proofs.Cursor.Lines
import TypedQuery.Proofs.Result.Elements

/-! What a generated function computes, without variables: rows are prepared for and converted by
functions on lines, and a shape assembles what they give. -/

namespace TypedQuery

/-- What preparation finds: an index for each column, and for each relation field the index of the
parent key and the related elements by key. -/
structure Prepared where
  columns : List Nat
  relations : List (Nat × List (Key × List Datum))

/-- What a kind of row becomes, and whether it has no value. -/
structure Converter where
  convert : Line → Except DataError Datum
  isEmpty : Line → Except DataError Bool

namespace Converter

/-- Stands where a shape has no such rows, and is never used. -/
def unused : Converter := ⟨fun _ => .ok default, fun _ => .ok false⟩

/-- Give the key of a line its value, unless it has one. -/
def insertEntry (reader : Reader) (key value : Converter) (es : List (Datum × Datum))
    (line : Line) : Except DataError (List (Datum × Datum)) := do
  let k ← key.convert line
  let v ← value.convert line
  return reader.alter k v id es

/-- Add a line to the group of its key. Without a value only the group is made. -/
def groupEntry (reader : Reader) (key value : Converter) (es : List (Datum × Datum))
    (line : Line) : Except DataError (List (Datum × Datum)) := do
  let k ← key.convert line
  if ← value.isEmpty line then return reader.alter k (.list []) id es
  else do
    let v ← value.convert line
    return reader.alter k (.list []) (Run.appendItem v) es

end Converter

namespace Line

/-- Whether all of some values are NULL. Those after one that is not NULL are not read. -/
def allNull (line : Line) : List Nat → Except DataError Bool
  | [] => return true
  | index :: rest => do
    if (← line index).isNull then allNull line rest else return false

/-- The distinct keys at an index. -/
def keys (index : Nat) (lines : List Line) : Except DataError (List Key) :=
  lines.foldlM (fun ks line => do
    match (← line index).toKey with
    | some k => return Sorted.insert k ks
    | none => return ks) []

/-- The data that lines become, by the keys at an index. -/
def groups (index : Nat) (convert : Line → Except DataError Datum) (lines : List Line) :
    Except DataError (List (Key × List Datum)) :=
  lines.foldlM (fun gs line => do
    let key := (← line index).toKey
    let item ← convert line
    match key with
    | some k => return Sorted.alter k [] (· ++ [item]) gs
    | none => return gs) []

/-- What the first line becomes, or what stands for a missing one. -/
def first (result : FirstRow) (convert : Line → Except DataError Datum) :
    List Line → Except DataError Datum
  | [] => Run.missing result
  | line :: _ => Run.first result <$> convert line

end Line

/-- A relation field with the group of its key, if there is one. -/
def RelationField.fill (r : RelationField) (group : Option (List Datum)) : String × Datum :=
  match r.quantity with
  | .many => (r.name, .list (group.getD []))
  | .optional => (r.name, (group.bind List.head?).elim .absent .present)

namespace EntityRow

/-- Read column fields at their indices. -/
def readColumns (reader : Reader) (fields : List ColumnField) (columns : List Nat) (line : Line) :
    Except DataError (List (String × Datum)) :=
  (fields.zip columns).mapM fun (f, index) => return (f.name, ← reader.read f.type (← line index))

/-- Fill relation fields from the groups of their keys. -/
def fillRelations (relations : List (RelationField × EntityRow))
    (prepared : List (Nat × List (Key × List Datum))) (line : Line) :
    Except DataError (List (String × Datum)) :=
  (relations.zip prepared).mapM fun ((r, _), index, groups) =>
    return r.fill ((← line index).toKey.bind fun k => Sorted.find? k groups)

/-- The struct that a line becomes. -/
def record (reader : Reader) (e : EntityRow) (p : Prepared) (line : Line) :
    Except DataError Datum := do
  let columns ← readColumns reader e.fields p.columns line
  let related ← fillRelations e.relations p.relations line
  return .record (columns ++ related)

/-- The groups of the rows that were fetched for a relation field; rows that there are must be
prepared for first. -/
def relatedGroups (reader : Reader) (entity : EntityRow) (related : Snapshot)
    (inner : Session Prepared) : Session (List (Key × List Datum)) :=
  if related.rows.isEmpty then pure []
  else do
    let keyIndex ← liftM ((Cursor.snapshot related).columnIndex RelationQuery.keyColumn)
    let p ← inner
    liftM (Line.groups keyIndex (entity.record reader p) (Cursor.snapshot related).lines)

mutual

/-- Prepare for the rows of a cursor. -/
def prepared (reader : Reader) (db : Connection) (c : Cursor) : EntityRow → Session Prepared
  | mk _ fields relations => do
    let columns ← liftM (fields.mapM fun f => c.columnIndex f.column)
    let found ← preparedRelations reader db c relations
    return ⟨columns, found⟩

/-- Prepare relation fields one after the other. -/
def preparedRelations (reader : Reader) (db : Connection) (c : Cursor) :
    List (RelationField × EntityRow) → Session (List (Nat × List (Key × List Datum)))
  | [] => return []
  | filled :: rest => do
    let found ← preparedRelation reader db c filled
    let others ← preparedRelations reader db c rest
    return found :: others

/-- Prepare a relation field: fetch what belongs to the keys of all lines, and group what it
becomes. -/
def preparedRelation (reader : Reader) (db : Connection) (c : Cursor) :
    RelationField × EntityRow → Session (Nat × List (Key × List Datum))
  | (r, entity) => do
    let index ← liftM (c.columnIndex r.parentColumn)
    let keys ← liftM (Line.keys index c.lines)
    let related ← r.query.fetch db keys
    let groups ← entity.relatedGroups reader related (prepared reader db (.snapshot related) entity)
    return (index, groups)

end

end EntityRow

namespace Row

def prepared (reader : Reader) (db : Connection) (c : Cursor) : Row → Session Prepared
  | scalar _ (some column) => do return ⟨[← liftM (c.columnIndex column)], []⟩
  | scalar _ none => return ⟨[0], []⟩
  | entity e => e.prepared reader db c

/-- What lines become after preparation. -/
def converter (reader : Reader) (p : Prepared) : Row → Converter
  | scalar type _ =>
    { convert := fun line => do reader.read type (← line (p.columns.headD 0))
      isEmpty := fun line => if isNullable type then return false else line.allNull p.columns }
  | entity e =>
    { convert := e.record reader p
      isEmpty := fun line => if p.columns.isEmpty then return false else line.allNull p.columns }

/-- The converter of a row that a shape may have. -/
def converter? (reader : Reader) (db : Connection) (c : Cursor) : Option Row → Session Converter
  | some row => do return row.converter reader (← row.prepared reader db c)
  | none => return .unused

end Row

namespace Shape

/-- The result of a shape, from what lines become as keys and as values. -/
def assemble (reader : Reader) (key value : Converter) (c : Cursor) :
    Shape → Except DataError Datum
  | single row => Line.first (.required row.typeName) value.convert c.lines
  | optional _ flattened =>
    Line.first (if flattened then .flattened else .wrapped) value.convert c.lines
  | list _ | stream _ => do return .list (← c.lines.mapM value.convert)
  | map _ _ _ => do return .entries (← c.lines.foldlM (key.insertEntry reader value) [])
  | multimap _ _ _ => do return .entries (← c.lines.foldlM (key.groupEntry reader value) [])
  | rows => do return .raw (← c.copy.1)
  | rowCount => return .count c.lines.length

/-- Prepare for the parts of a shape, and assemble its result. -/
def meaning (reader : Reader) (db : Connection) (c : Cursor) (s : Shape) : Session Datum := do
  let key ← Row.converter? reader db c s.key?
  let value ← Row.converter? reader db c s.row?
  liftM (s.assemble reader key value c)

/-- The rows that are converted: those of the answer, or a copy where relation fields need one. -/
def opened (s : Shape) (answer : Source) : Except DataError Cursor :=
  if s.copiesCursor then Cursor.snapshot <$> answer.copy.1 else .ok (.source answer)

end Shape

namespace QueryDeclaration

/-- The values that the query binds, if all its arguments have one. -/
def values? (q : QueryDeclaration) (args : List (String × Value)) : Option (List Value) :=
  q.arguments.mapM fun (name, _) => args.lookup name

/-- What the function of a query does with the values of its arguments. -/
def meaning (q : QueryDeclaration) (shape : Shape) (reader : Reader) (db : Connection)
    (values : List Value) : Session Datum := do
  let answer ← db.query q.query.sql.value values
  let c ← liftM (shape.opened answer)
  shape.meaning reader db c

end QueryDeclaration

end TypedQuery
