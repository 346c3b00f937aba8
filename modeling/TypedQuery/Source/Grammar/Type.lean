import TypedQuery.Source.Grammar.Path

namespace TypedQuery.Grammar

open TypedQuery.Parser

variable (g : Grammar)

/-- The group of a macro call after its path. -/
def macroArguments : Parser Tokens := do
  match ← rest with
  | .group delimiter inner :: _ =>
    advance 1
    return [.group delimiter inner]
  | _ => fail (.construct "delimiter")

/-- Statements between braces that may start with attributes of the whole. -/
def body : Parser Tokens := grouped .brace do return (← innerAttributeTokens) ++ (← g.statements)

/-- A constant in angle brackets. -/
def constArgument : Parser Tokens := do
  if ← ahead .literal then literal
  else if ← ahead .identifier then name
  else if ← ahead (.group .brace) then g.body
  else failAll []

/-- The definition of an associated type, from `=` on. A constant stands as it was written. -/
def associatedType : Parser Tokens := do
  let equals ← operator "="
  if ← ahead .literal then return equals ++ (← passed literal)
  else if ← ahead (.group .brace) then return equals ++ (← passed g.body)
  else return equals ++ (← g.typeTokens true)

/-- The bounds of an associated type, from `:` on. -/
def constraint : Parser Tokens := do
  let colon ← operator ":"
  let stop := anyAhead [.operator ",", .operator ">"]
  return colon ++ joined "+" (← g.boundsUntil stop)

/-- Whether a type can be the name of an associated type with arguments. -/
def isAssociated : TypeExpr → Bool
  | .path [] _ (.angle ..) => true
  | _ => false

/-- An argument in angle brackets. An associated type with arguments of its own stands as it was
written. -/
def genericArgument : Parser (GenericArgument TypeExpr) := do
  if (← ahead .lifetime) && !(← ahead2 (.operator "+")) then return .lifetime (← lifetime)
  else if (← ahead .identifier) && (← ahead2 (.operator "=")) then
    return .other ((← name) ++ (← g.associatedType))
  else if (← ahead .identifier) && (← ahead2 (.operator ":")) && !(← ahead2 (.operator "::")) then
    return .other ((← name) ++ (← g.constraint))
  else if ← anyAhead [.literal, .group .brace] then return .other (← g.constArgument)
  else
    let before ← rest
    let type ← g.type true
    if isAssociated type && (← ahead (.operator "=")) then
      let _ ← operator "="
      let _ ← g.type true
      return .type (.verbatim (← since before))
    else if isAssociated type && (← ahead (.operator ":")) then
      let _ ← g.constraint
      return .type (.verbatim (← since before))
    else return .type type

/-- What a type can start with, in the order in which errors name it. -/
def typeStarts : List Wanted := [
  .word "for", .group .parenthesis, .word "fn", .word "unsafe", .word "extern", .identifier,
  .operator "::", .operator "<", .group .bracket, .operator "*", .operator "&", .operator "!",
  .word "impl", .word "_", .lifetime]

/-- What a type can start with after the lifetimes that it binds. -/
def boundTypeStarts : List Wanted := [
  .identifier, .word "fn", .word "unsafe", .word "extern", .word "super", .word "self",
  .word "Self", .word "crate"]

/-- The ABI of a function. -/
def abi : Parser Tokens := do
  let start ← word "extern"
  if ← ahead .stringLiteral then return start ++ [(← stringLiteral).token] else return start

/-- An argument of a function type, perhaps with a name. A mutable receiver is none. -/
def functionTypeArgument : Parser (Option Tokens) := do
  let receiverAhead : Parser Bool := return (← ahead (.word "mut")) && (← ahead2 (.word "self"))
  let receiver := inTurn [word "mut", word "self"]
  let type : Parser Tokens := do
    if ← ahead (.operator "...") then operator "..." else g.typeTokens true
  let isNamed := (← anyAhead [.identifier, .word "_", .word "self"]) &&
    (← ahead2 (.operator ":")) && !(← ahead2 (.operator "::"))
  let label ← if isNamed then inTurn [anyName, operator ":"] else pure []
  if ← receiverAhead then
    let isTyped := !isNamed && (← ahead3 (.operator ":")) && !(← ahead3 (.operator "::"))
    let _ ← receiver
    if isTyped then
      let _ ← inTurn [operator ":", g.typeTokens true]
    return none
  else return some (label ++ (← type))

/-- The arguments of a function type; the flag says that there is no mutable receiver. The mark of
further arguments ends them. After a mutable receiver only one more argument can be read: `isOpen`
says that it has been. -/
def functionTypeArguments (isPlain isOpen : Bool) : Nat → Parser (Tokens × Bool)
  | 0 => return ([], isPlain)
  | fuel + 1 => do
    if ← atEnd then return ([], isPlain)
    let attributes ← attributeTokens
    if !isOpen && (← ahead (.operator "...")) then
      return (attributes ++ (← operator "..."), isPlain)
    let argument ← g.functionTypeArgument
    if isOpen && argument.isSome then throw .unreported
    let stillPlain := isPlain && argument.isSome
    let first := attributes ++ argument.getD []
    if ← atEnd then return (first, stillPlain)
    let comma ← operator ","
    let (others, allPlain) ←
      functionTypeArguments stillPlain (!stillPlain && (isOpen || argument.isSome)) fuel
    return (first ++ comma ++ others, allPlain)

/-- A function type after the lifetimes that it binds; `before` are the tokens from these on. -/
def functionType (before lifetimes : Tokens) : Parser TypeExpr := do
  let head ← inTurn [optionalWord "unsafe", ifAhead (.word "extern") abi, word "fn"]
  let (arguments, isPlain) ← inside .parenthesis do
    g.functionTypeArguments true false ((← rest).length + 1)
  let output ← g.returnType false
  if isPlain then
    return .verbatim (lifetimes ++ head ++ .group .parenthesis arguments :: output)
  else return .verbatim (← since before)

/-- What a group in parentheses holds where a type is expected. -/
inductive Enclosed where
  | tuple (elements : Tokens)
  /-- A bound that starts with a question mark. -/
  | optionalBound (inner : Tokens)
  | type (t : TypeExpr)

/-- The single bound that a type is, if it is one. -/
def singleBound? : TypeExpr → Option Tokens
  | .path qualifier name arguments => some (TypeExpr.path qualifier name arguments).tokens
  | .bound inner _ => some inner
  | .parenthesized _ | .verbatim _ => none

/-- A bound in parentheses and all that are added to it. -/
def enclosedBound (inner : Tokens) : Parser TypeExpr := do
  let others ← g.addedBounds
  if others.isEmpty then return .bound inner true
  else return .verbatim (.group .parenthesis inner :: others)

/-- A type that starts with a group in parentheses: a tuple, bounds, or a type in parentheses. -/
def parenthesizedType (plus : Bool) : Parser TypeExpr := do
  let content : Parser Enclosed := do
    if ← atEnd then return .tuple []
    else if ← ahead .lifetime then
      return .type (.verbatim (← g.bounds true .objectTypeWithoutTrait))
    else if ← ahead (.operator "?") then return .optionalBound (← g.traitBound)
    else
      let first ← g.type true
      if ← ahead (.operator ",") then
        let comma ← operator ","
        return .tuple (first.tokens ++ comma ++ (← commaTokens (g.typeTokens true)))
      else return .type first
  match ← inside .parenthesis content with
  | .tuple elements => return .verbatim [.group .parenthesis elements]
  | .optionalBound inner => g.enclosedBound inner
  | .type t =>
    match singleBound? t with
    | some inner =>
      if plus && (← ahead (.operator "+")) then g.enclosedBound inner
      else return .parenthesized t.tokens
    | none => return .parenthesized t.tokens

/-- A type that starts with a path: the path, a macro call, or bounds of an object. -/
def pathType (plus : Bool) (lifetimes : Tokens) : Parser TypeExpr := do
  let p ← g.typePath (← g.path false) ((← rest).length + 1)
  if p.anchored then return p.toType
  else if p.bare && (← aheadBut "!" "!=") then
    return .verbatim (p.tokens ++ (← operator "!") ++ (← macroArguments))
  else if plus && (← ahead (.operator "+")) then
    return .verbatim (lifetimes ++ p.tokens ++ (← g.moreBounds).1)
  else if lifetimes.isEmpty then return p.toType
  else return .bound (lifetimes ++ p.tokens) false

def pointerType : Parser Tokens := do
  let star ← operator "*"
  let kinds : List Wanted := [.word "const", .word "mut"]
  if ← anyAhead kinds then return star ++ (← anyName) ++ (← g.typeTokens false)
  else failAll kinds

def sliceType : Parser Tokens :=
  grouped .bracket do
    let element ← g.typeTokens true
    if ← ahead (.operator ";") then return element ++ (← operator ";") ++ (← g.expression true)
    else return element

/-- An object type that starts with `dyn`; one with a star stands as it was written. -/
def objectType (plus : Bool) : Parser Tokens := do
  let before ← rest
  let start ← word "dyn"
  let star ← optionalOperator "*"
  let bounds ← g.bounds plus .objectTypeWithoutTrait
  if star.isEmpty then return start ++ bounds else since before

/-- A type. Several bounds may follow one another only if `plus`. -/
def typeExpr (plus : Bool) : Parser TypeExpr := do
  let before ← rest
  let lifetimes ← ifAhead (.word "for") boundLifetimes
  if !lifetimes.isEmpty && !(← anyAhead boundTypeStarts) then failAll boundTypeStarts
  else if !lifetimes.isEmpty && (← ahead (.word "dyn")) then failAll []
  else if ← ahead (.group .parenthesis) then g.parenthesizedType plus
  else if ← anyAhead [.word "fn", .word "unsafe", .word "extern"] then
    g.functionType before lifetimes
  else if ← ahead (.word "dyn") then return .verbatim (← g.objectType plus)
  else if ← anyAhead [.identifier, .word "super", .word "self", .word "Self", .word "crate",
      .operator "::", .operator "<"] then
    g.pathType plus lifetimes
  else if ← ahead (.group .bracket) then return .verbatim (← g.sliceType)
  else if ← ahead (.operator "*") then return .verbatim (← g.pointerType)
  else if ← ahead (.operator "&") then
    return .verbatim (← inTurn [operator "&", ifAhead .lifetime lifetime, optionalWord "mut",
      g.typeTokens false])
  else if ← ahead (.operator "!") then return .verbatim (← operator "!")
  else if ← ahead (.word "impl") then
    return .verbatim (← inTurn [word "impl", g.bounds plus .implWithoutTrait])
  else if ← ahead (.word "_") then return .verbatim (← word "_")
  else if ← ahead .lifetime then return .verbatim (← g.bounds true .objectTypeWithoutTrait)
  else failAll typeStarts

/-- What is declared in angle brackets: the parameters, lifetimes first. -/
structure Parameters where
  lifetimes : List Tokens
  others : List Tokens
  /-- Whether a comma follows the last lifetime. -/
  separated : Bool

namespace Parameters

def isEmpty (p : Parameters) : Bool := p.lifetimes.isEmpty && p.others.isEmpty

/-- The parameters with their angle brackets, which are dropped if they hold none. -/
def tokens (p : Parameters) : Tokens :=
  if p.isEmpty then []
  else
    let comma := if p.separated || p.others.isEmpty then [] else Token.operator ","
    Token.operator "<" ++ p.lifetimes.flatten ++ comma ++ p.others.flatten ++ Token.operator ">"

/-- Sort parameters that carry their commas. -/
def ofList (found : List (Tokens × Bool)) (trailing : Bool) : Parameters :=
  let withCommas := found.zipIdx.map fun ((ts, isLifetime), index) =>
    let comma := index + 1 < found.length || trailing
    (ts ++ (if comma then Token.operator "," else []), isLifetime, comma)
  let lifetimes := withCommas.filter (·.2.1)
  ⟨lifetimes.map (·.1), (withCommas.filter (!·.2.1)).map (·.1),
    lifetimes.getLast?.all (·.2.2)⟩

end Parameters

/-- A bound of a type parameter, and whether it may hold in constants only. -/
def parameterBound : Parser (Tokens × Bool) := do
  if (← ahead (.operator "~")) && (← ahead2 (.word "const")) then
    let mark ← inTurn [operator "~", word "const"]
    return (mark ++ (← g.boundTokens), true)
  else return (← g.boundTokens, false)

/-- A type parameter. After a bound that may hold in constants only, all that follows the colon
stands as it was written; without a bound the colon is dropped. -/
def typeParameter : Parser Tokens := do
  let declared ← name
  let colon ← optionalOperator ":"
  let before ← rest
  let stop := anyAhead [.operator ",", .operator ">", .operator "="]
  let (bounds, trailing) ←
    if colon.isEmpty then pure ([], false) else chain "+" stop g.parameterBound
  let default : Parser Tokens := return (← operator "=") ++ (← g.typeTokens true)
  let type ← ifAhead (.operator "=") default
  if bounds.any (·.2) then return declared ++ colon ++ (← since before)
  else if bounds.isEmpty then return declared ++ type
  else return declared ++ colon ++ joined "+" (bounds.map (·.1), trailing) ++ type

def constParameter : Parser Tokens :=
  let default : Parser Tokens := return (← operator "=") ++ (← g.constArgument)
  inTurn [word "const", name, operator ":", g.typeTokens true, ifAhead (.operator "=") default]

/-- A parameter, and whether it is a lifetime. -/
def parameter : Parser (Tokens × Bool) := do
  let attributes ← attributeTokens
  if ← ahead .lifetime then return (attributes ++ (← lifetimeParameter), true)
  else if ← ahead .identifier then return (attributes ++ (← g.typeParameter), false)
  else if ← ahead (.word "const") then return (attributes ++ (← g.constParameter), false)
  else if ← ahead (.word "_") then return (attributes ++ (← anyName), false)
  else failAll [.lifetime, .identifier, .word "const"]

def parameters : Parser Parameters := do
  if ← ahead (.operator "<") then
    let _ ← operator "<"
    let (found, trailing) ← listUntil "," (ahead (.operator ">")) g.parameter
    let _ ← operator ">"
    return Parameters.ofList found trailing
  else return ⟨[], [], true⟩

/-- What ends the conditions of a declaration, and the bounds of one condition. -/
def conditionStops : List Wanted :=
  [.group .brace, .operator ",", .operator ";", .operator "="]

/-- Whether the conditions of a declaration, or the bounds of a type, have ended. -/
def conditionEnd : Parser Bool := do
  return (← atEnd) || (← anyAhead conditionStops) || (← aheadBut ":" "::")

/-- Whether the bounds of a lifetime have ended. -/
def outlivesEnd : Parser Bool := do
  return (← atEnd) || (← anyAhead (.operator ":" :: conditionStops))

def condition : Parser Tokens := do
  if (← ahead .lifetime) && (← ahead2 (.operator ":")) then
    let restricted ← lifetime
    let colon ← operator ":"
    return restricted ++ colon ++ joined "+" (← chain "+" outlivesEnd lifetime)
  else
    let restricted ← inTurn [ifAhead (.word "for") boundLifetimes, g.typeTokens true,
      operator ":"]
    return restricted ++ joined "+" (← g.boundsUntil conditionEnd)

/-- The conditions of a declaration; if there are none, nothing is left of them. -/
def conditions : Parser Tokens := do
  if ← ahead (.word "where") then
    let start ← word "where"
    let (found, trailing) ← chain "," conditionEnd g.condition
    return if found.isEmpty then [] else start ++ joined "," (found, trailing)
  else return []

end TypedQuery.Grammar
