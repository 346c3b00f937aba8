import TypedQuery.Data.Datum
import TypedQuery.Program.Function

namespace TypedQuery.Example

/-- A type with one argument. -/
def applied (name : String) (element : TypeExpr) : TypeExpr :=
  .path [] name (.angle false [.type element] false)

def bookEntity : Entity where
  name := "Book"
  table := some ⟨"\"book\""⟩
  fields := [.column "title" "title" (.named "String")]

/-- Authors wrote books, and have favourite books that a junction lists. -/
def authorEntity : Entity where
  name := "Author"
  table := none
  fields := [
    .column "id" "id" (.named "i64"),
    .relation "books" (applied "Vec" (.named "Book")) ⟨"id", "author_id", none⟩,
    .relation "favourite" (applied "Option" (.named "Book"))
      ⟨"id", "id", some ⟨"favourite", "author_id", "book_id"⟩⟩]

def authorSchema : Schema := [authorEntity, bookEntity]

/-- The query of all authors. -/
def authors : QueryDeclaration where
  attributes := []
  visibility := []
  name := "authors"
  query := ⟨⟨"\"SELECT * FROM author\""⟩, none, none⟩
  arguments := []
  output := applied "Vec" (.named "Author")

def bookQuery : RelationQuery := ⟨"book", "author_id", none⟩

def favouriteQuery : RelationQuery :=
  ⟨"book", "id", some ⟨"favourite", "author_id", "book_id"⟩⟩

def bookRow : EntityRow :=
  .mk [.ident "Book"] [⟨"title", "title", .named "String"⟩] []

def authorRow : EntityRow :=
  .mk [.ident "Author"] [⟨"id", "id", .named "i64"⟩]
    [(⟨"books", "id", bookQuery, .many⟩, bookRow),
      (⟨"favourite", "id", favouriteQuery, .optional⟩, bookRow)]

/-- The shape of a list of authors. -/
def authorShape : Shape := .list (.entity authorRow)

def authorRows : Source :=
  .ofRows ["id"] [[.ok (.integer 1)], [.ok (.integer 2)], [.ok (.integer 3)]]

/-- Rows of keys and titles. -/
def titles (rows : List (Int64 × String)) : Source :=
  .ofRows [RelationQuery.keyColumn, "title"]
    (rows.map fun (key, title) => [.ok (.integer key), .ok (.text title)])

def bookRows : Source := titles [(1, "Walden"), (2, "Emma"), (1, "Cape Cod")]

def favouriteRows : Source := titles [(2, "Walden"), (2, "Emma")]

/-- The rows whose first column has one of some values. -/
def selected (all : Source) (values : List Value) : Source :=
  { all with rows := all.rows.filter fun row =>
      match row.head? with
      | some (.ok v) => v ∈ values
      | _ => false }

def placeholder (index : Nat) : String := "?" ++ toString index

/-- The answers of a database with authors, their books and their favourite books. -/
def authorConnection : Connection where
  answer _ call :=
    let silent : Connection := ⟨fun _ _ => .error .cursorPosition, placeholder⟩
    if call.sql = favouriteQuery.sql silent call.args.length then
      .ok (selected favouriteRows call.args)
    else if call.sql = bookQuery.sql silent call.args.length then
      .ok (selected bookRows call.args)
    else .ok authorRows
  placeholder := placeholder

/-- The related rows of each relation field. -/
def authorRelated (r : RelationField) : Source :=
  if r.query = favouriteQuery then favouriteRows else bookRows

def book (title : String) : Datum := .record [("title", .text title)]

/-- All authors, each with the books that belong to it. -/
def hydratedAuthors : Datum :=
  .list [
    .record [("id", .integer 1), ("books", .list [book "Walden", book "Cape Cod"]),
      ("favourite", .absent)],
    .record [("id", .integer 2), ("books", .list [book "Emma"]),
      ("favourite", .present (book "Walden"))],
    .record [("id", .integer 3), ("books", .list []), ("favourite", .absent)]]

def mappingAttribute (name : String) (arguments : Tokens) : Attribute :=
  ⟨[.ident name], [.group .parenthesis arguments], false⟩

/-- The settings of a relation to a column of another table. -/
def relationSettings (parent entity : StringLiteral) : Tokens :=
  [.ident "parent", .punct '=' false, parent.token, .punct ',' false,
    .ident "entity", .punct '=' false, entity.token]

/-- Authors with the relation fields between and in front of two fields that read one column. -/
def numberedAuthorStruct : StructItem where
  attributes := []
  visibility := []
  name := "Author"
  parameters := []
  conditions := []
  fields := .named [
    ⟨[mappingAttribute "relation" (relationSettings ⟨"\"id\""⟩ ⟨"\"author_id\""⟩)], [], "books",
      applied "Vec" (.named "Book")⟩,
    ⟨[], [], "id", .named "i64"⟩,
    ⟨[mappingAttribute "relation" (relationSettings ⟨"\"book_id\""⟩ ⟨"\"id\""⟩)], [], "favourite",
      applied "Option" (.named "Book")⟩,
    ⟨[mappingAttribute "column" [.literal "\"id\""]], [], "number", .named "i32"⟩] true

def numberedAuthorEntity : Entity where
  name := "Author"
  table := none
  fields := [
    .relation "books" (applied "Vec" (.named "Book")) ⟨"id", "author_id", none⟩,
    .column "id" "id" (.named "i64"),
    .relation "favourite" (applied "Option" (.named "Book")) ⟨"book_id", "id", none⟩,
    .column "number" "id" (.named "i32")]

def numberedAuthorRow : EntityRow :=
  .mk [.ident "Author"] [⟨"id", "id", .named "i64"⟩, ⟨"number", "id", .named "i32"⟩]
    [(⟨"books", "id", bookQuery, .many⟩, bookRow),
      (⟨"favourite", "book_id", ⟨"book", "id", none⟩, .optional⟩, bookRow)]

end TypedQuery.Example
