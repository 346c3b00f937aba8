import TypedQuery.Source.Grammar.Statement
import TypedQuery.Source.Item

namespace TypedQuery.Grammar

open TypedQuery.Parser

variable (g : Grammar)

/-- A receiver: `self`, perhaps by reference and perhaps mutable. -/
def receiver : Parser Tokens :=
  let reference : Parser Tokens := inTurn [operator "&", ifAhead .lifetime lifetime]
  inTurn [ifAhead (.operator "&") reference, optionalWord "mut", word "self"]

/-- Whether a receiver without a type comes next. -/
def receiverAhead : Parser Bool := do
  let test : Parser Bool := do
    let _ ← receiver
    return !(← ahead (.operator ":"))
  return (← peek? test).getD false

/-- The name that a pattern is, if it is nothing else. -/
def boundName? : Tokens → Option String
  | [.ident "mut", .ident name] => some name
  | [.ident name] => if isWord name || name = "self" then some name else none
  | _ => none

/-- The type of an argument, or the mark of further arguments. -/
def argumentType : Parser TypeExpr := do
  if ← ahead (.operator "...") then return .verbatim (← operator "...") else g.type true

/-- An argument with a type. A type with arguments in angle brackets may stand without a name. -/
def typedArgument : Parser Argument := do
  if (← ahead .identifier) && (← ahead2 (.operator "<")) then
    return ⟨.pattern, .ident "_" :: Token.operator ":" ++ (← g.typeTokens true)⟩
  else
    let pattern ← g.alternatives
    let colon ← operator ":"
    let type ← g.argumentType
    let form :=
      match boundName? pattern with
      | some name => ArgumentForm.named name type
      | none => .pattern
    return ⟨form, pattern ++ colon ++ type.tokens⟩

/-- One argument. A receiver must be the first of them. -/
def oneArgument (first : Option Argument) : Parser Argument := do
  let attributes ← attributeTokens
  if ← ahead (.operator "...") then return ⟨.further, attributes ++ (← operator "...")⟩
  else if ← receiverAhead then
    let ts ← receiver
    match first with
    | none => return ⟨.receiver, attributes ++ ts⟩
    | some ⟨.receiver, _⟩ => throw .repeatedReceiver
    | some _ => throw .misplacedReceiver
  else
    let typed ← g.typedArgument
    return { typed with tokens := attributes ++ typed.tokens }

/-- The arguments of a function and whether a comma follows the last. -/
def argumentList : Parser (List Argument × Bool) := do
  if ← atEnd then return ([], false)
  let first ← g.oneArgument none
  if ← atEnd then return ([first], false)
  let _ ← operator ","
  let (others, trailing) ← commas (g.oneArgument (some first))
  return (first :: others, trailing)

/-- Whether a function comes next, perhaps with words before `fn`. -/
def functionAhead : Parser Bool := do
  let test : Parser Bool := do
    let _ ← inTurn [optionalWord "const", optionalWord "async", optionalWord "unsafe",
      ifAhead (.word "extern") abi]
    ahead (.word "fn")
  return (← peek? test).getD false

def signature : Parser Signature := do
  let modifiers ← inTurn [optionalWord "const", optionalWord "async", optionalWord "unsafe",
    ifAhead (.word "extern") abi]
  let _ ← word "fn"
  let name ← identifier
  let parameters ← g.parameters
  let (arguments, trailing) ← inside .parenthesis g.argumentList
  let output ← if ← ahead (.operator "->") then do
      let _ ← operator "->"
      pure (some (← g.type true))
    else pure none
  let conditions ← g.conditions
  return { modifiers, name, parameters, arguments, trailing, output, conditions }

/-- A method of a trait after its attributes. Those inside its body come after them. -/
def method (attributes : List Attribute) : Parser Method := do
  let signature ← g.signature
  if ← ahead (.group .brace) then
    let (inner, statements) ← inside .brace do return (← innerAttributes, ← g.statements)
    let body := [.group .brace (Attribute.tokensOf inner ++ statements)]
    return ⟨attributes ++ inner, signature, some body⟩
  else if ← ahead (.operator ";") then
    let _ ← operator ";"
    return ⟨attributes, signature, none⟩
  else failAll [.group .brace, .operator ";"]

end TypedQuery.Grammar
