import TypedQuery.Data.Sorted
import TypedQuery.Relation.Query
import TypedQuery.Source.Type

namespace TypedQuery

/-- How many related elements a relation field holds: all of a group, or its first. -/
inductive Quantity where
  | many
  | optional
  deriving DecidableEq, Repr

/-- A struct field that is read from a column of the row. -/
structure ColumnField where
  name : String
  column : String
  type : TypeExpr

/-- A relation field of a struct. Its keys are the values of `parentColumn` over all rows. -/
structure RelationField where
  name : String
  parentColumn : String
  query : RelationQuery
  quantity : Quantity

/-- A struct as it is built from a row: its path, its column fields, and its relation fields with
the structs that their rows become. -/
inductive EntityRow where
  | mk (path : List Token) (fields : List ColumnField)
      (relations : List (RelationField × EntityRow))

namespace EntityRow

def path : EntityRow → List Token
  | mk path _ _ => path

def fields : EntityRow → List ColumnField
  | mk _ fields _ => fields

def relations : EntityRow → List (RelationField × EntityRow)
  | mk _ _ relations => relations

/-- The tables that the secondary queries of the relation fields read, ascending. -/
def tables (e : EntityRow) : List String :=
  Sorted.ofList (e.relations.flatMap fun (r, _) => r.query.tables)

end EntityRow

inductive Row where
  /-- The value of a column, or of the first one if none is named. -/
  | scalar (type : TypeExpr) (column : Option String)
  | entity (e : EntityRow)

namespace Row

/-- The type of what a row becomes. -/
def typeTokens : Row → List Token
  | scalar type _ => type.tokens
  | entity e => e.path

/-- The spelling of that type in error messages. -/
def typeName (r : Row) : String := Token.compact r.typeTokens

def relations : Row → List (RelationField × EntityRow)
  | scalar .. => []
  | entity e => e.relations

def hasRelations (r : Row) : Bool := !r.relations.isEmpty

def tables : Row → List String
  | scalar .. => []
  | entity e => e.tables

end Row

/-- The two kinds of maps. -/
inductive MapKind where
  | hash
  | ordered
  deriving DecidableEq, Repr

/-- What all rows of a query become. -/
inductive Shape where
  /-- The first row; none is an error. -/
  | single (row : Row)
  /-- The first row, if any. A row that is nullable by itself is not wrapped again. -/
  | optional (row : Row) (flattened : Bool)
  | list (row : Row)
  | stream (row : Row)
  /-- One entry for each key; the first row of a key counts. -/
  | map (kind : MapKind) (key value : Row)
  /-- All rows of each key. A row without a value gives its key an empty group. -/
  | multimap (kind : MapKind) (key value : Row)
  | rows
  | rowCount

namespace Shape

/-- What each row becomes; for maps, the value of its entry. -/
def row? : Shape → Option Row
  | single row | optional row _ | list row | stream row => some row
  | map _ _ value | multimap _ _ value => some value
  | rows | rowCount => none

/-- Whether rows must be copied first. Relation fields need two passes over them. -/
def copiesCursor (s : Shape) : Bool := s.row?.any Row.hasRelations

/-- The tables that are read besides those of the query itself. -/
def tables (s : Shape) : List String := s.row?.elim [] Row.tables

end Shape

end TypedQuery
