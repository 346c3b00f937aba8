import TypedQuery.Declaration.Module
import TypedQuery.Program.Emit
import TypedQuery.Program.Print
import TypedQuery.Result.Solve
import TypedQuery.Text.Uppercase

namespace TypedQuery

/-- What is known of a query before it runs. -/
structure QueryInfo where
  name : String
  sql : StringLiteral
  /-- Tables that relation fields read, ascending. -/
  relationTables : List String
  copiesCursor : Bool
  deriving DecidableEq

/-- The body of a generated function: statements that leave the result in a variable. -/
structure QueryBody where
  stmts : List Stmt
  out : Var

namespace QueryDeclaration

variable (q : QueryDeclaration)

def columns : ResultColumns :=
  ⟨q.query.key.map StringLiteral.value, q.query.value.map StringLiteral.value⟩

/-- The shape of the result. -/
def shape (schema : Schema) : Except SourceError Shape := schema.shape q.output q.columns

def info (shape : Shape) : QueryInfo where
  name := q.name
  sql := q.query.sql
  relationTables := shape.tables
  copiesCursor := shape.copiesCursor

/-- Emission of the body: send the query, copy the rows if relation fields need two passes, and
convert them. -/
def emission (shape : Shape) : Fresh QueryBody := do
  let cursor ← fresh "cursor"
  let sent := Stmt.query cursor q.query.sql (q.arguments.map (·.1))
  if shape.copiesCursor then
    let copy ← fresh "cursor"
    let out ← fresh "out"
    return ⟨sent :: .copy copy cursor true :: (← shape.emit out copy), out⟩
  else
    let out ← fresh "out"
    return ⟨sent :: (← shape.emit out cursor), out⟩

/-- The body of the function. -/
def body (shape : Shape) : QueryBody := ((q.emission shape).run 0).1

/-- The name of the constant that describes the query. -/
def constantName : String := Text.uppercase q.name ++ "_QUERY"

end QueryDeclaration

namespace Print

def bool (b : Bool) : Tokens := word (if b then "true" else "false")

/-- The constant that describes a query. -/
def constant (n : Names) (visibility : Tokens) (name : String) (info : QueryInfo) : Tokens :=
  let tables := op "&" ++ [.group .bracket (commas (info.relationTables.map text))]
  visibility ++ word "const" ++ word name ++ op ":" ++ Names.path n ["QueryInfo"] ++ op "=" ++
    Names.path n ["QueryInfo"] ++ brace
      (field "name" (text info.name) ++ field "sql" [info.sql.token] ++
        field "relation_tables" tables ++ field "copies_cursor" (bool info.copiesCursor)) ++ op ";"

/-- The name of the type parameter of generated functions: the type of the connection. -/
def connectionType : String := "C"

def function (n : Names) (q : QueryDeclaration) (body : QueryBody) : Tokens :=
  let connection := word n.db ++ op ":" ++ op "&" ++ word connectionType ++ op ","
  let arguments := commas (q.arguments.map fun (name, type) => word name ++ op ":" ++ type.tokens)
  let bound := word connectionType ++ op ":" ++ Names.path n ["Connection"] ++ op "+" ++ op "?" ++
    word "Sized" ++ op ","
  let allowance := op "#" ++ [.group .bracket (word "allow" ++ paren (word "unused_imports"))]
  let extensions := brace (word "Cursor" ++ word "as" ++ word "_" ++ op "," ++
    word "CursorExt" ++ word "as" ++ word "_")
  let use := word "use" ++ n.runtime ++ op "::" ++ extensions ++ op ";"
  Attribute.tokensOf q.attributes ++ q.visibility ++ word "async" ++ word "fn" ++ word q.name ++
    generic [word connectionType] ++ paren (connection ++ arguments) ++ op "->" ++
    Names.path n ["QuarryResult"] ++ generic [q.output.tokens] ++ word "where" ++ bound ++
    brace (allowance ++ use ++ stmts n body.stmts ++ std ["result", "Result", "Ok"] ++
      paren (var body.out))

/-- An error of a declaration, as code that does not compile and says why. -/
def compileError (e : SourceError) : Tokens :=
  word "compile_error" ++ op "!" ++ brace (text e.message)

/-- The constant with the table of a struct. -/
def tableName (entity : Entity) : Tokens :=
  match entity.table with
  | none => []
  | some table =>
    word "impl" ++ word entity.name ++ brace
      (word "pub" ++ word "const" ++ word "TABLE_NAME" ++ op ":" ++ op "&" ++
        Token.lifetime "static" ++ word "str" ++ op "=" ++ [table.token] ++ op ";")

end Print

/-- What one query declaration becomes. -/
inductive Expansion where
  | function (declaration : QueryDeclaration) (info : QueryInfo) (body : QueryBody)
  | error (e : SourceError)

namespace Expansion

def ofQuery (schema : Schema) (q : QueryDeclaration) : Expansion :=
  match q.shape schema with
  | .ok shape => .function q (q.info shape) (q.body shape)
  | .error e => .error e

/-- The code of an expansion. There is none if the constant would have a name that is no
identifier. -/
def tokens? (options : Options) : Expansion → Option Tokens
  | error e => some (Print.compileError e)
  | function q info body =>
    let n : Names := ⟨options.runtime, QueryDeclaration.connectionName⟩
    if Text.isIdentifier q.constantName then
      some (Print.constant n q.visibility q.constantName info ++ Print.function n q body)
    else none

end Expansion

namespace DeclarationModule

variable (m : DeclarationModule)

/-- The mapping structs of the module. -/
def schema : Schema :=
  m.items.foldl (fun s item =>
    match item with
    | .struct _ (.ok (some e)) => s.insert e
    | _ => s) []

def others : Tokens :=
  m.items.flatMap fun
    | .other ts => ts
    | _ => []

/-- The structs, each after the constant with its table. -/
def structs : Tokens :=
  m.items.flatMap fun
    | .struct s (.ok (some e)) => Print.tableName e ++ s.tokens
    | .struct s _ => s.tokens
    | _ => []

/-- The errors of declarations that could not be read. -/
def errors : Tokens :=
  m.items.flatMap fun
    | .struct _ (.error e) | .query (.error e) => Print.compileError e
    | _ => []

def queries : List QueryDeclaration :=
  m.items.filterMap fun
    | .query (.ok q) => some q
    | _ => none

/-- The code of all queries. A query is read with all structs of the module, wherever they stand. -/
def functions? (options : Options) : Option Tokens :=
  (m.queries.mapM fun q => (Expansion.ofQuery m.schema q).tokens? options).map List.flatten

/-- The module with its declarations expanded: other items, structs, functions and errors. -/
def expand? (options : Options) : Option Tokens :=
  (m.functions? options).map fun functions =>
    Attribute.tokensOf m.attributes ++ m.visibility ++ Print.word "mod" ++ Print.word m.name ++
      Print.brace (m.others ++ m.structs ++ functions ++ m.errors)

end DeclarationModule

end TypedQuery
