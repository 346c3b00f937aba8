import TypedQuery.Program.Statement
import TypedQuery.Source.Parser

/-!
Statements as tokens. The path of the runtime library and the name of the connection are parameters
of the printing, so they occur nowhere else in generated code.
-/

namespace TypedQuery

/-- Names that printed code uses. -/
structure Names where
  runtime : Tokens
  db : String

namespace Print

def word (s : String) : Tokens := [.ident s]

def op (s : String) : Tokens := Token.operator s

def paren (ts : Tokens) : Tokens := [.group .parenthesis ts]

def brace (ts : Tokens) : Tokens := [.group .brace ts]

/-- A string literal with a given value. -/
def text (s : String) : Tokens := [.literal (Text.quote s)]

def var (v : Var) : Tokens := word v.name

/-- Names with `::` in front of each. -/
def below (names : List String) : Tokens := names.flatMap fun s => op "::" ++ word s

def std (names : List String) : Tokens := below ("std" :: names)

def Names.path (n : Names) (names : List String) : Tokens := n.runtime ++ below names

/-- Tokens with commas between them. -/
def commas (items : List Tokens) : Tokens := Parser.joined "," (items, false)

def generic (args : List Tokens) : Tokens := op "<" ++ commas args ++ op ">"

/-- A call of a method. -/
def call (receiver : Tokens) (method : String) (args : List Tokens) : Tokens :=
  receiver ++ op "." ++ word method ++ paren (commas args)

def question (e : Tokens) : Tokens := e ++ op "?"

def await (e : Tokens) : Tokens := e ++ op "." ++ word "await"

def letVar (v : Var) (value : Tokens) : Tokens :=
  word "let" ++ var v ++ op "=" ++ value ++ op ";"

def letMut (v : Var) (value : Tokens) : Tokens :=
  word "let" ++ word "mut" ++ var v ++ op "=" ++ value ++ op ";"

def borrowMut (v : Var) : Tokens := op "&" ++ word "mut" ++ var v

def noneValue : Tokens := std ["option", "Option", "None"]

def someOf (args : Tokens) : Tokens := std ["option", "Option", "Some"] ++ paren args

/-- A field of a struct expression. -/
def field (name : String) (value : Tokens) : Tokens := word name ++ op ":" ++ value ++ op ","

/-- The key of a column of the current row. -/
def keyOf (cursor index : Var) : Tokens :=
  call (question (call (var cursor) "value" [var index])) "to_key" []

/-- A statement for a key that is present. -/
def ifKey (found : Tokens) (body : Tokens) : Tokens :=
  word "if" ++ word "let" ++ someOf (word "key") ++ op "=" ++ found ++ brace body

def junction (n : Names) : Option Junction → Tokens
  | none => noneValue
  | some j =>
    someOf (Names.path n ["relation", "Junction"] ++ brace
      (field "table" (text j.table) ++ field "parent_column" (text j.parentColumn) ++
        field "entity_column" (text j.entityColumn)))

def relationQuery (n : Names) (q : RelationQuery) : Tokens :=
  Names.path n ["relation", "RelationQuery"] ++ brace
    (field "table" (text q.table) ++ field "entity_column" (text q.entityColumn) ++
      field "junction" (junction n q.junction))

/-- The value of a relation field. -/
def groupRead (cursor : Var) (g : GroupRead) : Tokens :=
  let get := call (var g.groups) "get" [op "&" ++ word "key"]
  let group := call (keyOf cursor g.keyIndex) "and_then" [op "|" ++ word "key" ++ op "|" ++ get]
  match g.quantity with
  | .many => call (call group "cloned" []) "unwrap_or_default" []
  | .optional =>
    let first := op "|" ++ word "items" ++ op "|" ++ call (word "items") "first" []
    call (call group "and_then" [first]) "cloned" []

/-- The value of a column of a type. -/
def read (cursor index : Var) (type : TypeExpr) : Tokens :=
  question (var cursor ++ op "." ++ word "get" ++ op "::" ++ generic [type.tokens] ++
    paren (var index))

def fieldRead (cursor : Var) (f : FieldRead) : Tokens :=
  field f.name (read cursor f.index f.type)

/-- The test that all of some columns are NULL. -/
def nullCheck (cursor : Var) (check : NullCheck) : Tokens :=
  let tests := check.columns.map fun index => question (call (var cursor) "is_null" [var index])
  let all := Parser.joined "&&" (tests, false)
  if check.parenthesized then paren all else all

def mapName : MapKind → String
  | .hash => "HashMap"
  | .ordered => "BTreeMap"

/-- The entry of a key in a map. -/
def entry (map key : Var) : Tokens := call (var map) "entry" [var key]

def newList : Tokens := std ["vec", "Vec", "new"]

/-- The group of a key in a map, which starts empty. -/
def groupOf (map key : Var) : Tokens := call (entry map key) "or_insert_with" [newList]

/-- Each row that the cursor moves to. -/
def nextRow (cursor : Var) : Tokens := call (var cursor) "move_to_next" []

/-- What stands for the first row of a result. -/
def firstValue (item : Var) : FirstRow → Tokens
  | .required _ | .flattened => var item
  | .wrapped => someOf (var item)

/-- What happens without a first row. -/
def otherwise (n : Names) : FirstRow → Tokens
  | .required expected =>
    let error := Names.path n ["QuarryError", "EmptyResult"] ++
      brace (field "expected" (text expected))
    word "return" ++ std ["result", "Result", "Err"] ++ paren error ++ op ";"
  | .wrapped | .flattened => noneValue

mutual

def stmt (n : Names) : Stmt → Tokens
  | .query out sql args =>
    let values := args.map fun a => Names.path n ["Value", "from"] ++ paren (word a)
    let list := op "&" ++ [.group .bracket (commas values)]
    letMut out (question (await (call (word n.db) "query" [[sql.token], list])))
  | .copy out cursor mutable =>
    let copy := question (Names.path n ["copy_cursor"] ++ paren (borrowMut cursor))
    if mutable then letMut out copy else letVar out copy
  | .columnIndex out cursor column =>
    letVar out (question (call (var cursor) "column_index_or_err" [text column]))
  | .keyIndex out cursor =>
    let key := Names.path n ["relation", "KEY_COLUMN"]
    letVar out (question (call (var cursor) "column_index_or_err" [key]))
  | .firstColumn out =>
    word "let" ++ var out ++ op ":" ++ word "usize" ++ op "=" ++ [.literal "0"] ++ op ";"
  | .read out cursor index type => letVar out (read cursor index type)
  | .build out cursor path fields relations =>
    letVar out (path ++ brace (fields.flatMap (fieldRead cursor) ++
      relations.flatMap fun g => field g.name (groupRead cursor g)))
  | .newKeys out =>
    letMut out (std ["collections", "BTreeSet"] ++ op "::" ++
      generic [Names.path n ["RelationKey"]] ++ op "::" ++ word "new" ++ paren [])
  | .collectKey keys cursor index =>
    ifKey (keyOf cursor index) (call (var keys) "insert" [word "key"] ++ op ";")
  | .reset cursor => call (var cursor) "reset" [] ++ op ";"
  | .newGroups out element =>
    let group := std ["vec", "Vec"] ++ generic [element]
    letMut out (std ["collections", "BTreeMap"] ++ op "::" ++
      generic [Names.path n ["RelationKey"], group] ++ op "::" ++ word "new" ++ paren [])
  | .fetch out keys query =>
    let args := [word n.db, op "&" ++ relationQuery n query, var keys]
    letMut out (question (await (Names.path n ["relation", "fetch"] ++ paren (commas args))))
  | .rowKey out cursor index => letVar out (keyOf cursor index)
  | .addToGroup groups key item =>
    let group := call (call (var groups) "entry" [word "key"]) "or_default" []
    ifKey (var key) (call group "push" [var item] ++ op ";")
  | .newItems out => letMut out (newList ++ paren [])
  | .pushItem items item => call (var items) "push" [var item] ++ op ";"
  | .stream out items =>
    letVar out (Names.path n ["stream", "from_vec"] ++ paren (var items))
  | .newMap out kind =>
    letMut out (std ["collections", mapName kind, "new"] ++ paren [])
  | .insertFirst map key value => call (entry map key) "or_insert" [var value] ++ op ";"
  | .pushEntry map key value => call (groupOf map key) "push" [var value] ++ op ";"
  | .skipNulls map key cursor check =>
    word "if" ++ nullCheck cursor check ++
      brace (groupOf map key ++ op ";" ++ word "continue" ++ op ";")
  | .newCount out =>
    word "let" ++ word "mut" ++ var out ++ op ":" ++ word "usize" ++ op "=" ++ [.literal "0"] ++
      op ";"
  | .increment count => var count ++ op "+=" ++ [.literal "1"] ++ op ";"
  | .rowCount out count => letVar out (Names.path n ["RowCount"] ++ paren (var count))
  | .whileRows cursor body => word "while" ++ nextRow cursor ++ brace (stmts n body)
  | .block body => brace (stmts n body)
  | .unlessEmpty cursor body =>
    word "if" ++ op "!" ++ call (var cursor) "is_empty" [] ++ brace (stmts n body)
  | .firstRow out cursor item body result =>
    letVar out (word "if" ++ nextRow cursor ++ brace (stmts n body ++ firstValue item result) ++
      word "else" ++ brace (otherwise n result))

def stmts (n : Names) : List Stmt → Tokens
  | [] => []
  | s :: rest => stmt n s ++ stmts n rest

end

end Print

end TypedQuery
