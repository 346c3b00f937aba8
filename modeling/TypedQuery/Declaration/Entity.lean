import TypedQuery.Declaration.Arguments

/-!
Mapping structs. Reading the mapping of a struct takes the mapping attributes away, so that the
struct can be emitted without them.
-/

namespace TypedQuery

/-- A field of a mapping struct: read from a column of its row, or related to other rows. -/
inductive MappedField where
  | column (name : String) (column : String) (type : TypeExpr)
  | relation (name : String) (type : TypeExpr) (mapping : RelationMapping)

namespace MappedField

def isRelation : MappedField → Bool
  | column .. => false
  | relation .. => true

end MappedField

/-- A mapping struct. Only one with a table can be the target of a relation. -/
structure Entity where
  name : String
  table : Option StringLiteral
  fields : List MappedField

namespace Entity

def hasRelations (e : Entity) : Bool := e.fields.any MappedField.isRelation

/-- Reading that takes attributes away. An attribute that was taken is gone even if the reading
fails later. -/
abbrev Reading := ExceptT SourceError (StateM (List Attribute))

/-- Take the first attribute of a name and parse its arguments. -/
def takeMapping {α : Type} (name : String) (p : Parser α) : Reading (Option α) := do
  match Attribute.take? name (← get) with
  | none => return none
  | some (a, others) =>
    set others
    return some (← a.parseArguments name p)

/-- Read the mapping of a field. -/
def readMapping (f : Field) : Reading MappedField := do
  let column ← takeMapping "column" Parser.stringLiteral
  let relation ← takeMapping "relation" RelationDraft.parser
  match column, relation with
  | some _, some _ => throw .relationWithColumn
  | some column, none => return .column f.name column.value f.type
  | none, none => return .column f.name f.name f.type
  | none, some mapping => return .relation f.name f.type mapping

/-- Read the mapping of a field: the field that is left, and its mapping. -/
def readField (f : Field) : Except SourceError MappedField × Field :=
  let (result, attributes) := (readMapping f).run f.attributes
  (result, { f with attributes })

/-- Read fields up to the first one with an error. -/
def readFields : List Field → Except SourceError (List MappedField) × List Field
  | [] => (.ok [], [])
  | f :: rest =>
    match readField f with
    | (.error e, left) => (.error e, left :: rest)
    | (.ok mapped, left) =>
      let (result, others) := readFields rest
      (result.map (mapped :: ·), left :: others)

/-- Read the mapping of a struct: the struct that is left, and its mapping. A struct without named
fields is no mapping struct. -/
def ofStruct (s : StructItem) : Except SourceError (Option Entity) × StructItem :=
  let (table, attributes) := (takeMapping "table" Parser.stringLiteral).run s.attributes
  let left := { s with attributes }
  match table, s.fields with
  | .error e, _ => (.error e, left)
  | .ok table, .named fields trailing =>
    let (mapped, fields) := readFields fields
    (mapped.map fun fields => some ⟨s.name, table, fields⟩,
      { left with fields := .named fields trailing })
  | .ok (some _), _ => (.error .tableWithoutFields, left)
  | .ok none, _ => (.ok none, left)

end Entity

/-- The mapping structs of a module; of two with the same name the later one counts, and stands
first. -/
abbrev Schema := List Entity

namespace Schema

def insert (s : Schema) (e : Entity) : Schema := e :: s

def get? (s : Schema) (name : String) : Option Entity := s.find? (·.name = name)

/-- The mapping struct that a type names. Only a plain name can name one. -/
def entity? (s : Schema) (type : TypeExpr) : Option Entity := type.name?.bind s.get?

end Schema

end TypedQuery
