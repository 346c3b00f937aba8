import TypedQuery.Data.ColumnType
import TypedQuery.Program.Function
import TypedQuery.Relation.Fetch

/-!
Running generated code. A variable holds a value of one kind; a statement that meets another kind,
or an unbound variable, is stuck, which is told apart from a failure of the query.
-/

namespace TypedQuery

/-- The type that a column is read as, by the last name of its path. -/
def ColumnType.ofType? (type : TypeExpr) : Option ColumnType :=
  match type with
  | .path _ name .none =>
    match IntegerType.all.find? (·.name = name) with
    | some found => some (.integer found)
    | none =>
      match name with
      | "bool" => some .bool
      | "f64" => some .f64
      | "f32" => some .f32
      | "String" => some .string
      | _ => none
  | .path _ "Option" (.angle _ [.type element] _) => (ofType? element).map .option
  | .path _ "Vec" (.angle _ [.type element] _) => if element.isNamed "u8" then some .bytes else none
  | _ => none

/-- What the types of a module do. A module may read columns as types of its own and may give its
structs an equality of their own, so that a run takes its reader as a parameter. -/
structure Reader where
  /-- How the value of a column becomes a datum of a type. -/
  read : TypeExpr → Value → Except DataError Datum
  /-- The order of the type of map keys. Keys are the same if neither comes before the other, even
  if they differ in what they hold, and for a hash map the order says no more than this. One order
  is enough, for a function makes at most one map. -/
  keyOrder : Ord Datum

/-- The reader of the types that every module knows; a type of another name reads nothing. -/
def Reader.standard : Reader where
  read type value :=
    match ColumnType.ofType? type with
    | some column => column.decode value
    | none => .error (.typeMismatch type.spelling value.typeName)
  keyOrder := ⟨Datum.compare⟩

/-- Change the entry of a key, starting from `fresh` if no entry has the same key. An entry that is
there keeps its own key. -/
def Reader.alter (reader : Reader) (k fresh : Datum) (change : Datum → Datum) :
    List (Datum × Datum) → List (Datum × Datum) :=
  @Sorted.alter _ _ reader.keyOrder k fresh change

/-- What a variable holds. -/
inductive Slot where
  | argument (v : Value)
  | cursor (c : Cursor)
  | index (n : Nat)
  | keys (ks : List Key)
  | key (k : Option Key)
  /-- Related elements by key. -/
  | groups (gs : List (Key × List Datum))
  | datum (d : Datum)
  | items (ds : List Datum)
  | entries (es : List (Datum × Datum))
  | count (n : Nat)

/-- The variables that are bound, each once. -/
abbrev Env := List (Var × Slot)

/-- Bind a variable or change what it holds. -/
def Env.put (v : Var) (slot : Slot) : Env → Env
  | [] => [(v, slot)]
  | (w, held) :: rest => if v = w then (v, slot) :: rest else (w, held) :: put v slot rest

/-- Why a run gives no result. -/
inductive Fault where
  | stuck
  | failed (e : DataError)
  deriving DecidableEq

abbrev Run := StateT Env (ExceptT Fault (StateM (List Call)))

namespace Run

def stuck {α : Type} : Run α := throw .stuck

/-- A step that may fail. -/
def attempt {α : Type} (step : Except DataError α) : Run α :=
  match step with
  | .ok a => return a
  | .error e => throw (.failed e)

/-- A step that sends queries. -/
def send {α : Type} (step : Session α) : Run α :=
  StateT.lift (ExceptT.adapt Fault.failed step)

def assign (v : Var) (slot : Slot) : Run Unit := modify (Env.put v slot)

def slot (v : Var) : Run Slot := do
  match (← get).lookup v with
  | some held => return held
  | none => stuck

def cursor (v : Var) : Run Cursor := do
  match ← slot v with
  | .cursor c => return c
  | _ => stuck

def snapshot (v : Var) : Run Snapshot := do
  match ← cursor v with
  | .snapshot c => return c
  | .source _ => stuck

def index (v : Var) : Run Nat := do
  match ← slot v with
  | .index n => return n
  | _ => stuck

def key (v : Var) : Run (Option Key) := do
  match ← slot v with
  | .key k => return k
  | _ => stuck

def groups (v : Var) : Run (List (Key × List Datum)) := do
  match ← slot v with
  | .groups gs => return gs
  | _ => stuck

def datum (v : Var) : Run Datum := do
  match ← slot v with
  | .datum d => return d
  | _ => stuck

def items (v : Var) : Run (List Datum) := do
  match ← slot v with
  | .items ds => return ds
  | _ => stuck

def entries (v : Var) : Run (List (Datum × Datum)) := do
  match ← slot v with
  | .entries es => return es
  | _ => stuck

def count (v : Var) : Run Nat := do
  match ← slot v with
  | .count n => return n
  | _ => stuck

/-- The value of an argument of the function. -/
def argument (name : String) : Run Value := do
  match ← slot (.named name) with
  | .argument v => return v
  | _ => stuck

/-- Move a cursor to its next row. -/
def moveNext (v : Var) : Run Bool := do
  let (found, c) := (← cursor v).next
  assign v (.cursor c)
  return found

/-- The value of the current row at an index. -/
def value (cursorVar indexVar : Var) : Run Value := do
  let n ← index indexVar
  attempt ((← cursor cursorVar).value n)

/-- Read a column as a type. -/
def read (reader : Reader) (cursorVar indexVar : Var) (type : TypeExpr) : Run Datum := do
  attempt (reader.read type (← value cursorVar indexVar))

/-- The field that the group of the current row fills. -/
def groupField (cursorVar : Var) (g : GroupRead) : Run (String × Datum) := do
  let k := (← value cursorVar g.keyIndex).toKey
  let all ← groups g.groups
  let group := k.bind fun k => Sorted.find? k all
  match g.quantity with
  | .many => return (g.name, .list (group.getD []))
  | .optional => return (g.name, (group.bind List.head?).elim .absent .present)

/-- Whether all of some columns are NULL. Those after one that is not NULL are not read. -/
def allNull (cursorVar : Var) : List Var → Run Bool
  | [] => return true
  | v :: rest => do
    if (← value cursorVar v).isNull then allNull cursorVar rest else return false

/-- Change the entry of the key that a variable holds. -/
def alterEntry (reader : Reader) (map keyVar : Var) (fresh : Datum) (change : Datum → Datum) :
    Run Unit := do
  let k ← datum keyVar
  assign map (.entries (reader.alter k fresh change (← entries map)))

/-- Take a step for each row that a cursor moves to, at most `limit` times. The step tells whether
the rest of the loop's body is skipped, which ends the step only. -/
def eachRow (cursorVar : Var) (step : Run Bool) : Nat → Run Unit
  | 0 => return
  | limit + 1 => do
    if ← moveNext cursorVar then
      let _ ← step
      eachRow cursorVar step limit

def appendItem : Datum → Datum → Datum
  | d, .list ds => .list (ds ++ [d])
  | _, other => other

/-- What the first row becomes. -/
def first (result : FirstRow) (d : Datum) : Datum :=
  match result with
  | .required _ | .flattened => d
  | .wrapped => .present d

/-- What stands for a missing first row. -/
def missing : FirstRow → Except DataError Datum
  | .required expected => .error (.emptyResult expected)
  | .wrapped | .flattened => .ok .absent

mutual

/-- Run a statement. The result tells whether the rest of the body of the loop is skipped. -/
def stmt (reader : Reader) (db : Connection) : Stmt → Run Bool
  | .query out sql args => do
    let values ← args.mapM argument
    assign out (.cursor (.source (← send (db.query sql.value values))))
    return false
  | .copy out source _ => do
    let (copied, left) := (← cursor source).copy
    assign source (.cursor left)
    assign out (.cursor (.snapshot (← attempt copied)))
    return false
  | .columnIndex out source column => do
    assign out (.index (← attempt ((← cursor source).columnIndex column)))
    return false
  | .keyIndex out source => do
    assign out (.index (← attempt ((← cursor source).columnIndex RelationQuery.keyColumn)))
    return false
  | .firstColumn out => do
    assign out (.index 0)
    return false
  | .read out source indexVar type => do
    assign out (.datum (← read reader source indexVar type))
    return false
  | .build out source _ fields relations => do
    let columns ← fields.mapM fun f => return (f.name, ← read reader source f.index f.type)
    let related ← relations.mapM (groupField source)
    assign out (.datum (.record (columns ++ related)))
    return false
  | .newKeys out => do
    assign out (.keys [])
    return false
  | .collectKey keysVar source indexVar => do
    match ← slot keysVar with
    | .keys ks =>
      match (← value source indexVar).toKey with
      | some k => assign keysVar (.keys (Sorted.insert k ks))
      | none => pure ()
      return false
    | _ => stuck
  | .reset source => do
    assign source (.cursor (.snapshot (← snapshot source).reset))
    return false
  | .newGroups out _ => do
    assign out (.groups [])
    return false
  | .fetch out keysVar query => do
    match ← slot keysVar with
    | .keys ks =>
      assign out (.cursor (.snapshot (← send (query.fetch db ks))))
      return false
    | _ => stuck
  | .rowKey out source indexVar => do
    assign out (.key (← value source indexVar).toKey)
    return false
  | .addToGroup groupsVar keyVar item => do
    match ← key keyVar with
    | some k =>
      let d ← datum item
      assign groupsVar (.groups (Sorted.alter k [] (· ++ [d]) (← groups groupsVar)))
    | none => pure ()
    return false
  | .newItems out => do
    assign out (.items [])
    return false
  | .pushItem itemsVar item => do
    assign itemsVar (.items ((← items itemsVar) ++ [← datum item]))
    return false
  | .stream out itemsVar => do
    assign out (.datum (.list (← items itemsVar)))
    return false
  | .newMap out _ => do
    assign out (.entries [])
    return false
  | .insertFirst map keyVar valueVar => do
    alterEntry reader map keyVar (← datum valueVar) id
    return false
  | .pushEntry map keyVar valueVar => do
    alterEntry reader map keyVar (.list []) (appendItem (← datum valueVar))
    return false
  | .skipNulls map keyVar source check => do
    if ← allNull source check.columns then
      alterEntry reader map keyVar (.list []) id
      return true
    else return false
  | .newCount out => do
    assign out (.count 0)
    return false
  | .increment countVar => do
    assign countVar (.count ((← count countVar) + 1))
    return false
  | .rowCount out countVar => do
    assign out (.datum (.count (← count countVar)))
    return false
  | .whileRows source body => do
    let rows := (← cursor source).remaining
    eachRow source (stmts reader db body) (rows + 1)
    return false
  | .block body => stmts reader db body
  | .unlessEmpty source body => do
    if (← snapshot source).rows.isEmpty then return false else stmts reader db body
  | .firstRow out source item body result => do
    if ← moveNext source then
      let _ ← stmts reader db body
      assign out (.datum (first result (← datum item)))
    else assign out (.datum (← attempt (missing result)))
    return false

/-- Run statements until one skips the others. -/
def stmts (reader : Reader) (db : Connection) : List Stmt → Run Bool
  | [] => return false
  | s :: rest => do
    if ← stmt reader db s then return true else stmts reader db rest

end

/-- The result that a variable holds. -/
def result (v : Var) : Run Datum := do
  match ← slot v with
  | .datum d => return d
  | .items ds => return .list ds
  | .entries es => return .entries es
  | .cursor (.snapshot rows) => return .raw rows
  | _ => stuck

end Run

namespace QueryBody

/-- Run a generated function with the values of its arguments. -/
def run (body : QueryBody) (reader : Reader) (db : Connection) (args : List (String × Value)) :
    Run Datum := do
  set (args.map fun (name, v) => ((Var.named name), Slot.argument v) : Env)
  let _ ← Run.stmts reader db body.stmts
  Run.result body.out

/-- The result of a generated function, and the queries that it sent. -/
def outcomeWith (body : QueryBody) (reader : Reader) (db : Connection)
    (args : List (String × Value)) : Except Fault Datum × List Call :=
  let (result, calls) := ((body.run reader db args).run []).run []
  (result.map (·.1), calls)

/-- The outcome where every type is one that all modules know. -/
def outcome (body : QueryBody) (db : Connection) (args : List (String × Value)) :
    Except Fault Datum × List Call :=
  body.outcomeWith Reader.standard db args

end QueryBody

end TypedQuery
