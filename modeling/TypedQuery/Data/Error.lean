namespace TypedQuery

/-- Why no result could be produced. -/
inductive DataError where
  /-- A single value was expected and the query gave no row. -/
  | emptyResult (expected : String)
  | unknownColumn (name : String)
  | columnIndex (index count : Nat)
  /-- A value was read before the first or after the last row. -/
  | cursorPosition
  | rowWidth (expected found : Nat)
  | typeMismatch (expected found : String)
  | outOfRange (type : String)
  | unsupportedColumnType (column type : String)
  /-- A secondary query for the rows of `table` failed because of `source`. -/
  | relation (table : String) (source : DataError)
  | database (text : String)
  deriving DecidableEq, Repr, Inhabited

namespace DataError

def message : DataError → String
  | emptyResult expected =>
    "Query returned no rows, expected a value of type `" ++ expected ++ "`"
  | unknownColumn name => "Unknown column `" ++ name ++ "`"
  | columnIndex index count =>
    "Column index " ++ toString index ++ " out of range for " ++ toString count ++ " columns"
  | cursorPosition => "Cursor is not positioned on a row"
  | rowWidth expected found =>
    "Row has " ++ toString found ++ " values, expected " ++ toString expected
  | typeMismatch expected found => "Type mismatch: expected " ++ expected ++ ", found " ++ found
  | outOfRange type => "Value out of range for " ++ type
  | unsupportedColumnType column type =>
    "Unsupported type `" ++ type ++ "` for column `" ++ column ++ "`"
  | relation table source =>
    "Relation fetch from `" ++ table ++ "` failed: " ++ source.message
  | database text => "Database error: " ++ text

/-- The errors below this one, outermost first. -/
def sources : DataError → List DataError
  | relation _ source => source :: source.sources
  | _ => []

end DataError

end TypedQuery
