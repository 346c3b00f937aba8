import TypedQuery.Declaration.Query

namespace TypedQuery

inductive ModuleItem where
  /-- A struct without its mapping attributes, and its mapping. -/
  | struct (item : StructItem) (entity : Except SourceError (Option Entity))
  | query (declaration : Except SourceError QueryDeclaration)
  | other (tokens : Tokens)

structure DeclarationModule where
  attributes : List Attribute
  visibility : Tokens
  name : String
  items : List ModuleItem

namespace Parser

/-- Whether a function without a body comes next, with nothing between its visibility and `fn`. -/
def queryAhead : Parser Bool := do
  let test : Parser Bool := do
    let _ ← attributes
    let _ ← visibility
    if ← ahead (.word "fn") then return (← method).body.isNone else return false
  return (← peek? test).getD false

/-- The outcome of reading a declaration. A fault without a message is a fault of the whole. -/
def reported {α : Type} (outcome : Except SourceError α) : Parser (Except SourceError α) :=
  match outcome with
  | .error .unreported => throw .unreported
  | _ => return outcome

def moduleItem : Parser ModuleItem := do
  if ← queryAhead then
    let attributes ← attributes
    let visibility ← visibility
    let declared ← method
    let query := QueryDeclaration.ofMethod visibility { declared with attributes }
    return .query (← reported query)
  else
    match ← item with
    | .struct s =>
      let (entity, left) := Entity.ofStruct s
      return .struct left (← reported entity)
    | .other ts _ => return .other ts

def declarationModule : Parser DeclarationModule := do
  let attributes ← attributes
  let visibility ← visibility
  let _ ← word "mod"
  let name ← identifier
  let items ← inside .brace (repeatToEnd moduleItem)
  return { attributes, visibility, name, items }

end Parser

end TypedQuery
