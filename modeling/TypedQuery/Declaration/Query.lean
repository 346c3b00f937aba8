import TypedQuery.Declaration.Entity

namespace TypedQuery

structure QueryDeclaration where
  /-- Attributes of the generated function. -/
  attributes : List Attribute
  visibility : Tokens
  name : String
  query : QueryText
  arguments : List (String × TypeExpr)
  output : TypeExpr

namespace QueryDeclaration

/-- The name of the connection argument of every generated function. -/
def connectionName : String := "db"

/-- Name and type of an argument. -/
def argument (a : Argument) : Except SourceError (String × TypeExpr) :=
  match a.form with
  | .receiver => .error .queryWithReceiver
  | .named name type =>
    if name = connectionName then .error .reservedArgument else .ok (name, type)
  | .pattern | .further => .error .unnamedArgument

/-- Read a declaration. The query attribute is judged first, then the body, the generic parameters,
the arguments and the return type. -/
def ofMethod (visibility : Tokens) (m : Method) : Except SourceError QueryDeclaration := do
  match Attribute.take? "query" m.attributes with
  | none => throw .missingQueryAttribute
  | some (a, attributes) =>
    let query ← a.parseArguments "query" QueryText.parser
    if m.body.isSome then throw .queryWithBody
    if !m.signature.parameters.isEmpty then throw .genericQuery
    let arguments ← m.signature.properArguments.mapM argument
    match m.signature.output with
    | none => throw .missingReturnType
    | some output =>
      return { attributes, visibility, name := m.signature.name, query, arguments, output }

end QueryDeclaration

end TypedQuery
