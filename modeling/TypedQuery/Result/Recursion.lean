import TypedQuery.Result.Solve

/-!
The recursion of the solver. To solve a struct the solver is called again for the struct of each
relation field. `Schema.entityRow` has the same outcomes, but takes these structs as plain rows.
-/

namespace TypedQuery

/-- Solving that notes for which structs the solver is called again. There is no outcome if the
calls are nested deeper than allowed. -/
abbrev Solving := ExceptT SourceError (StateT (List Entity) Option)

namespace Schema

variable (schema : Schema)

/-- A relation field as the solver fills it, where `solve` is its call for the related struct. -/
def relationFieldBy (solve : Entity → Solving EntityRow) (name : String) (type : TypeExpr)
    (mapping : RelationMapping) : Solving (RelationField × EntityRow) := do
  let (quantity, related, table) ← schema.relationTarget type
  modify (· ++ [related])
  let row ← solve related
  return (⟨name, mapping.parentColumn, ⟨table.value, mapping.entityColumn, mapping.junction⟩,
    quantity⟩, row)

def relationFieldsBy (solve : Entity → Solving EntityRow) :
    List MappedField → Solving (List (RelationField × EntityRow))
  | [] => return []
  | .column .. :: rest => relationFieldsBy solve rest
  | .relation name type mapping :: rest => do
    let first ← schema.relationFieldBy solve name type mapping
    return first :: (← relationFieldsBy solve rest)

/-- A struct as the solver builds it, with calls nested less than `depth` deep. -/
def entityRowWithin : Nat → Entity → Solving EntityRow
  | 0, _ => fun _ => none
  | depth + 1, e => do
    let relations ← schema.relationFieldsBy (entityRowWithin depth) e.fields
    return .mk [.ident e.name] (e.fields.filterMap columnField?) relations

end Schema

end TypedQuery
