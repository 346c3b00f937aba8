import TypedQuery.Source.Grammar.Type

namespace TypedQuery

structure Field where
  attributes : List Attribute
  visibility : Tokens
  name : String
  type : TypeExpr

inductive Fields where
  /-- Fields with names, and whether a comma follows the last. -/
  | named (fields : List Field) (trailing : Bool)
  | positional (tokens : Tokens)
  | none

structure StructItem where
  attributes : List Attribute
  visibility : Tokens
  name : String
  parameters : Tokens
  conditions : Tokens
  fields : Fields

def Field.tokens (f : Field) : Tokens :=
  Attribute.tokensOf f.attributes ++ f.visibility ++ .ident f.name :: Token.operator ":" ++
    f.type.tokens

def StructItem.tokens (s : StructItem) : Tokens :=
  let head := Attribute.tokensOf s.attributes ++ s.visibility ++ .ident "struct" ::
    .ident s.name :: s.parameters
  match s.fields with
  | .named fields trailing =>
    head ++ s.conditions ++
      [.group .brace (Parser.joined "," (fields.map Field.tokens, trailing))]
  | .positional ts =>
    head ++ .group .parenthesis ts :: s.conditions ++ Token.operator ";"
  | .none => head ++ s.conditions ++ Token.operator ";"

inductive Item where
  | struct (s : StructItem)
  /-- Any other item, and whether it stands as it was written. -/
  | other (tokens : Tokens) (isVerbatim : Bool)

def Item.fragment : Item → Fragment
  | struct s => ⟨s.tokens, false⟩
  | other ts isVerbatim => ⟨ts, isVerbatim⟩

/-- What an argument of a function is. -/
inductive ArgumentForm where
  | receiver
  | named (name : String) (type : TypeExpr)
  | pattern
  /-- The mark of further arguments. -/
  | further

structure Argument where
  form : ArgumentForm
  tokens : Tokens

/-- A function without its body. -/
structure Signature where
  modifiers : Tokens
  name : String
  parameters : Grammar.Parameters
  arguments : List Argument
  /-- Whether a comma follows the last argument. -/
  trailing : Bool
  output : Option TypeExpr
  conditions : Tokens

namespace Signature

def tokens (s : Signature) : Tokens :=
  let output := s.output.elim [] fun t => Token.operator "->" ++ t.tokens
  s.modifiers ++ .ident "fn" :: .ident s.name :: s.parameters.tokens ++
    .group .parenthesis (Parser.joined "," (s.arguments.map (·.tokens), s.trailing)) ::
    output ++ s.conditions

/-- The arguments without a mark of further ones at the end. -/
def properArguments (s : Signature) : List Argument :=
  match s.arguments.getLast?, s.trailing with
  | some ⟨.further, _⟩, false => s.arguments.dropLast
  | _, _ => s.arguments

end Signature

/-- A function that is declared in a trait, and the body that it may have. -/
structure Method where
  attributes : List Attribute
  signature : Signature
  body : Option Tokens

end TypedQuery
