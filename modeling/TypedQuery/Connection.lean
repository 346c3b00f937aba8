import TypedQuery.Cursor.Rows

namespace TypedQuery

/-- One query as a connection sees it. -/
structure Call where
  sql : String
  args : List Value
  deriving DecidableEq

/-- A connection answers each query knowing all earlier ones, and writes the parameter with a
one-based index as `placeholder` says. -/
structure Connection where
  answer : List Call → Call → Except DataError Source
  placeholder : Nat → String

/-- A computation that sends queries and may fail. The queries sent stay known after a failure. -/
abbrev Session := ExceptT DataError (StateM (List Call))

def Connection.query (db : Connection) (sql : String) (args : List Value) : Session Source := do
  let earlier ← get
  set (earlier ++ [Call.mk sql args])
  db.answer earlier ⟨sql, args⟩

/-- Result and queries of a session that starts with none sent. -/
def Session.outcome {α : Type} (session : Session α) : Except DataError α × List Call :=
  session.run []

end TypedQuery
