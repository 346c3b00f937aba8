import TypedQuery.Source.Grammar
import TypedQuery.Relation.Query

/-!
The arguments of mapping attributes. Each is a list of settings `name = "text"`; of settings with
the same name the last one counts.
-/

namespace TypedQuery

namespace Parser

/-- Read settings to the end. `setting` reads what follows a name and changes the state. -/
def settings {σ : Type} (setting : String → σ → Parser σ) : Nat → σ → Parser σ
  | 0, s => return s
  | fuel + 1, s => do
    if ← atEnd then return s
    let s ← setting (← identifier) s
    if ← atEnd then return s
    let _ ← operator ","
    settings setting fuel s

/-- Read settings to the end; every one has a token at least. -/
def allSettings {σ : Type} (setting : String → σ → Parser σ) (start : σ) : Parser σ := do
  settings setting ((← rest).length + 1) start

/-- The text that a setting is given. -/
def settingText : Parser StringLiteral := do
  let _ ← operator "="
  stringLiteral

end Parser

namespace Attribute

/-- Parse the arguments of an attribute of the given name: one group, of any delimiter. -/
def parseArguments {α : Type} (name : String) (p : Parser α) (a : Attribute) :
    Except SourceError α :=
  match a.arguments with
  | [] => .error (.missingArguments name a.isInner)
  | .punct '=' _ :: _ => .error (.ungroupedArguments name a.isInner)
  | [.group _ inner] => p.parse inner
  | _ => .error .trailingArguments

/-- The first attribute of a name, and the others. -/
def take? (name : String) : List Attribute → Option (Attribute × List Attribute)
  | [] => none
  | a :: rest =>
    if a.isNamed name then some (a, rest)
    else (take? name rest).map fun (found, others) => (found, a :: others)

end Attribute

/-- The arguments of a query: its SQL, and the columns of scalar map keys and of scalar values. -/
structure QueryText where
  sql : StringLiteral
  key : Option StringLiteral
  value : Option StringLiteral
  deriving DecidableEq, Repr

namespace QueryText

def setting (name : String) (q : QueryText) : Parser QueryText := do
  if name = "key" then return { q with key := some (← Parser.settingText) }
  else if name = "value" then return { q with value := some (← Parser.settingText) }
  else throw .unknownQueryKey

def isBlank (s : String) : Bool := s.toList.all Text.isBlank

def parser : Parser QueryText := do
  let sql ← Parser.stringLiteral
  if !(← Parser.atEnd) then
    let _ ← Parser.operator ","
  let q ← Parser.allSettings setting ⟨sql, none, none⟩
  if isBlank sql.value then throw .emptyQuery else return q

end QueryText

/-- A junction while its settings are read. -/
structure JunctionDraft where
  table : Option StringLiteral
  parent : Option StringLiteral
  entity : Option StringLiteral

namespace JunctionDraft

def setting (name : String) (j : JunctionDraft) : Parser JunctionDraft := do
  if name = "table" then return { j with table := some (← Parser.settingText) }
  else if name = "parent" then return { j with parent := some (← Parser.settingText) }
  else if name = "entity" then return { j with entity := some (← Parser.settingText) }
  else throw .unknownJunctionKey

/-- The junction, if nothing is missing. -/
def finish (j : JunctionDraft) : Except SourceError Junction :=
  match j.table, j.parent, j.entity with
  | none, _, _ => .error (.incompleteJunction "table")
  | _, none, _ => .error (.incompleteJunction "parent")
  | _, _, none => .error (.incompleteJunction "entity")
  | some table, some parent, some entity => .ok ⟨table.value, parent.value, entity.value⟩

def parser : Parser Junction := do
  (← Parser.allSettings setting ⟨none, none, none⟩).finish

end JunctionDraft

/-- How a field is related to rows of another table: a column of the parent row, the matching column
of the related table, and perhaps a junction between them. -/
structure RelationMapping where
  parentColumn : String
  entityColumn : String
  junction : Option Junction
  deriving DecidableEq, Repr

/-- A relation while its settings are read. -/
structure RelationDraft where
  parent : Option StringLiteral
  entity : Option StringLiteral
  junction : Option Junction

namespace RelationDraft

def setting (name : String) (r : RelationDraft) : Parser RelationDraft := do
  if name = "parent" then return { r with parent := some (← Parser.settingText) }
  else if name = "entity" then return { r with entity := some (← Parser.settingText) }
  else if name = "junction" then
    return { r with junction := some (← Parser.inside .parenthesis JunctionDraft.parser) }
  else throw .unknownRelationKey

/-- The relation, if no column is missing. -/
def finish (r : RelationDraft) : Except SourceError RelationMapping :=
  match r.parent, r.entity with
  | none, _ => .error .missingParent
  | _, none => .error .missingEntity
  | some parent, some entity => .ok ⟨parent.value, entity.value, r.junction⟩

def parser : Parser RelationMapping := do
  (← Parser.allSettings setting ⟨none, none, none⟩).finish

end RelationDraft

/-- Options of the expansion of a module: the path of the library that generated code uses. -/
structure Options where
  runtime : Tokens
  deriving DecidableEq, Repr

namespace Options

/-- Without options generated code uses `::quarry`. -/
def default : Options := ⟨Token.operator "::" ++ [.ident "quarry"]⟩

/-- The text of the option is read as a path. -/
def setting (name : String) (_ : Options) : Parser Options := do
  if name = "runtime" then
    let path ← Parser.parseText Parser.path (← Parser.settingText).value
    return ⟨path.tokens⟩
  else throw .unknownOption

def parser : Parser Options := Parser.allSettings setting default

end Options

end TypedQuery
