import TypedQuery.Result.Row
import TypedQuery.Token.Literal

/-!
Statements of generated code. Each constructor is one statement form, so that code can be printed,
inspected and run.
-/

namespace TypedQuery

/-- A variable: one with a given name, or a temporary that is numbered throughout a function. -/
inductive Var where
  | named (name : String)
  | temporary (stem : String) (index : Nat)
  deriving DecidableEq, Repr

def Var.name : Var → String
  | named name => name
  | temporary stem index => "__" ++ stem ++ toString index

/-- A field that is read from the column at an index. -/
structure FieldRead where
  name : String
  index : Var
  type : TypeExpr

/-- A field that is filled from the groups of related elements, by the key of the row. -/
structure GroupRead where
  name : String
  keyIndex : Var
  groups : Var
  quantity : Quantity

/-- The test that all of some columns are NULL; several tests stand in parentheses. -/
structure NullCheck where
  columns : List Var
  parenthesized : Bool

/-- What the first row becomes, and what stands for it if there is none. -/
inductive FirstRow where
  /-- The item; without a row the function fails and names this type. -/
  | required (expected : String)
  /-- The item as a present value, or an absent one. -/
  | wrapped
  /-- The item, which may be absent by itself. -/
  | flattened
  deriving DecidableEq, Repr

inductive Stmt where
  /-- Send the query with the given arguments. -/
  | query (out : Var) (sql : StringLiteral) (args : List String)
  /-- Drain a cursor into a snapshot, which is moved over later if `mutable`. -/
  | copy (out cursor : Var) (mutable : Bool)
  | columnIndex (out cursor : Var) (column : String)
  /-- The index of the column with the parent keys of related rows. -/
  | keyIndex (out cursor : Var)
  | firstColumn (out : Var)
  | read (out cursor index : Var) (type : TypeExpr)
  | build (out cursor : Var) (path : List Token) (fields : List FieldRead)
      (relations : List GroupRead)
  | newKeys (out : Var)
  /-- Add the key of the current row, if it has one. -/
  | collectKey (keys cursor index : Var)
  | reset (cursor : Var)
  | newGroups (out : Var) (element : List Token)
  | fetch (out keys : Var) (query : RelationQuery)
  | rowKey (out cursor index : Var)
  /-- Add an item to the group of its key, if it has one. -/
  | addToGroup (groups key item : Var)
  | newItems (out : Var)
  | pushItem (items item : Var)
  | stream (out items : Var)
  | newMap (out : Var) (kind : MapKind)
  /-- Give a key its value unless it has one. -/
  | insertFirst (map key value : Var)
  | pushEntry (map key value : Var)
  /-- If all columns are NULL, give the key a group and go on with the next row. -/
  | skipNulls (map key cursor : Var) (check : NullCheck)
  | newCount (out : Var)
  | increment (count : Var)
  | rowCount (out count : Var)
  | whileRows (cursor : Var) (body : List Stmt)
  | block (body : List Stmt)
  | unlessEmpty (cursor : Var) (body : List Stmt)
  | firstRow (out cursor item : Var) (body : List Stmt) (result : FirstRow)

end TypedQuery
