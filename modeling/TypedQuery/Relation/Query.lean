import TypedQuery.Connection

namespace TypedQuery

/-- A table that links parent keys with keys of the related table. -/
structure Junction where
  table : String
  /-- Column that holds the parent key. -/
  parentColumn : String
  /-- Column that refers to the related rows. -/
  entityColumn : String
  deriving DecidableEq, Repr

/-- Related rows are those of `table` whose `entityColumn` matches a key, directly or through a
junction. -/
structure RelationQuery where
  table : String
  entityColumn : String
  junction : Option Junction
  deriving DecidableEq, Repr

namespace RelationQuery

/-- Every related row carries the parent key it belongs to in this column. -/
def keyColumn : String := "__quarry_key"

/-- An SQL identifier: quoted, with quotes inside doubled. -/
def quoteIdentifier (name : String) : String :=
  "\"" ++ String.ofList (name.toList.flatMap fun c => if c = '"' then ['"', '"'] else [c]) ++ "\""

/-- The tables that the query reads from. -/
def tables (q : RelationQuery) : List String :=
  q.table :: (q.junction.map (·.table)).toList

/-- The parameters of a query that binds that many keys. -/
def placeholders (db : Connection) (count : Nat) : String :=
  ", ".intercalate ((List.range count).map fun i => db.placeholder (i + 1))

def sql (q : RelationQuery) (db : Connection) (count : Nat) : String :=
  let table := quoteIdentifier q.table
  let column := quoteIdentifier q.entityColumn
  let key := quoteIdentifier keyColumn
  match q.junction with
  | none =>
    "SELECT " ++ column ++ " AS " ++ key ++ ", * FROM " ++ table ++ " WHERE " ++ column ++
      " IN (" ++ placeholders db count ++ ")"
  | some junction =>
    let parent := quoteIdentifier junction.parentColumn
    "SELECT \"_junction\"." ++ parent ++ " AS " ++ key ++ ", " ++ table ++ ".* FROM " ++
      quoteIdentifier junction.table ++ " AS \"_junction\" INNER JOIN " ++ table ++
      " ON \"_junction\"." ++ quoteIdentifier junction.entityColumn ++ " = " ++ table ++ "." ++
      column ++ " WHERE \"_junction\"." ++ parent ++ " IN (" ++ placeholders db count ++ ")"

end RelationQuery

end TypedQuery
