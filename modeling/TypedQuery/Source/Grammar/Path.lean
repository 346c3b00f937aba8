import TypedQuery.Source.Attribute
import TypedQuery.Source.Type

/-!
The grammar of paths and bounds. Constructs that contain one another are fields of a `Grammar`, so
that what nests is read by the grammar of the next lower level.
-/

namespace TypedQuery

/-- Tokens of a construct, and whether they stand as they were written. What stands so takes no
attributes. -/
structure Fragment where
  tokens : Tokens
  isVerbatim : Bool

inductive OperandKind where
  | ordinary
  /-- A block, a branch or a loop: it ends a statement by itself. -/
  | complete
  /-- A range: no member of it can be taken. -/
  | range
  /-- An expression that stands as it was written, and takes no attributes. -/
  | verbatim
  deriving DecidableEq

/-- An expression and its kind. -/
structure Operand where
  tokens : Tokens
  kind : OperandKind

/-- Parsers for the constructs that nest. The flag of `type` allows several bounds without
parentheses; the flag of `expression` allows struct expressions, which cannot stand before a block.
A statement or an arm of a match starts with an `earlyExpression`, and a `letValue` is what `let`
compares with a pattern. -/
structure Grammar where
  type : Bool → Parser TypeExpr
  argument : Parser (GenericArgument TypeExpr)
  expression : Bool → Parser Tokens
  letValue : Parser Tokens
  earlyExpression : Parser Operand
  pattern : Parser Fragment
  statements : Parser Tokens
  item : Parser Fragment

/-- A path as it is read: whether it starts from a type in angle brackets, and whether no name in it
has arguments. -/
structure PathExpr where
  anchored : Bool
  bare : Bool
  qualifier : Tokens
  name : String
  arguments : Arguments TypeExpr

namespace PathExpr

/-- A path with one name only. -/
def start (anchored : Bool) (qualifier : Tokens) (segment : String × Arguments TypeExpr) :
    PathExpr :=
  ⟨anchored, segment.2 matches .none, qualifier, segment.1, segment.2⟩

def toType (p : PathExpr) : TypeExpr :=
  let type : TypeExpr := .path p.qualifier p.name p.arguments
  if p.anchored then .verbatim type.tokens else type

def tokens (p : PathExpr) : Tokens := p.toType.tokens

/-- The path that goes on with another name. -/
def extend (p : PathExpr) (segment : String × Arguments TypeExpr) : PathExpr :=
  { start p.anchored (p.tokens ++ Token.operator "::") segment with
    bare := p.bare && segment.2 matches .none }

/-- Whether arguments in parentheses may follow. -/
def acceptsArguments (p : PathExpr) : Bool :=
  match p.arguments with
  | .none | .angle _ [] _ => true
  | _ => false

end PathExpr

namespace Grammar

open TypedQuery.Parser

variable (g : Grammar)

def typeTokens (plus : Bool) : Parser Tokens := return (← g.type plus).tokens

/-- The type after an arrow, if there is one. -/
def returnType (plus : Bool) : Parser Tokens := do
  if ← ahead (.operator "->") then return (← operator "->") ++ (← g.typeTokens plus)
  else return []

/-- Types in parentheses and the type after an arrow, and whether a path may go on after them: the
type must be missing or stand in parentheses. -/
def parenthesizedArguments : Parser (Tokens × Bool) := do
  let arguments ← grouped .parenthesis (commaTokens (g.typeTokens true))
  if ← ahead (.operator "->") then
    let arrow ← operator "->"
    let result ← g.type false
    return (arguments ++ arrow ++ result.tokens, result matches .parenthesized _)
  else return (arguments, true)

/-- Arguments in angle brackets. -/
def angleArguments (turbofish : Bool) : Parser (Arguments TypeExpr) := do
  let _ ← operator "<"
  let (args, trailing) ← listUntil "," (ahead (.operator ">")) g.argument
  let _ ← operator ">"
  return .angle turbofish args trailing

/-- Names that a path can start from, and that take no arguments. -/
def rootWords : List Wanted := [.word "super", .word "self", .word "crate"]

/-- One name of a path with its arguments. In an expression they follow `::`. -/
def segment (inExpression : Bool) : Parser (String × Arguments TypeExpr) := do
  if ← anyAhead rootWords then return (← anyWord, .none)
  let name ← if ← ahead (.word "Self") then anyWord else identifier
  if !inExpression && (← aheadBut "<" "<=") then return (name, ← g.angleArguments false)
  else if (← ahead (.operator "::")) && (← ahead3 (.operator "<")) then
    let _ ← operator "::"
    return (name, ← g.angleArguments true)
  else return (name, .none)

/-- The names that follow a path. Only after an anchor may `::` stand before arguments in
parentheses and yet belong to the path. -/
def pathOn (inExpression anchored : Bool) (p : PathExpr) : Parser PathExpr := do
  let goesOn : Parser Bool :=
    return (← ahead (.operator "::")) && (anchored || !(← ahead3 (.group .parenthesis)))
  let others ← repeatWhile goesOn do
    let _ ← operator "::"
    g.segment inExpression
  return others.foldl PathExpr.extend p

/-- A path after the given tokens. -/
def pathAfter (inExpression anchored : Bool) (qualifier : Tokens) : Parser PathExpr := do
  let first ← g.segment inExpression
  g.pathOn inExpression anchored (PathExpr.start anchored qualifier first)

def unanchoredPath (inExpression : Bool) : Parser PathExpr := do
  g.pathAfter inExpression false (← optionalOperator "::")

/-- A path, perhaps anchored in a type between angle brackets. -/
def path (inExpression : Bool) : Parser PathExpr := do
  if ← ahead (.operator "<") then
    let trait : Parser Tokens :=
      return (← word "as") ++ (← g.unanchoredPath false).tokens
    let anchor ← inTurn [operator "<", g.typeTokens true, ifAhead (.word "as") trait,
      operator ">", operator "::"]
    g.pathAfter inExpression true anchor
  else g.unanchoredPath inExpression

/-- Whether arguments in parentheses follow a path. -/
def parenthesizedAhead (p : PathExpr) : Parser Bool := do
  let isGroupAhead := (← ahead (.group .parenthesis)) ||
    (← ahead (.operator "::")) && (← ahead3 (.group .parenthesis))
  return p.acceptsArguments && isGroupAhead

/-- The path of a trait, whose last name may have arguments in parentheses. -/
def traitPath : Parser PathExpr := do
  let p ← g.unanchoredPath false
  if ← parenthesizedAhead p then
    let _ ← optionalOperator "::"
    let (arguments, _) ← g.parenthesizedArguments
    return { p with arguments := .parenthesized arguments, bare := false }
  else return p

/-- The path of a type, which may go on after arguments in parentheses. Every round reads a group.
-/
def typePath (p : PathExpr) : Nat → Parser PathExpr
  | 0 => return p
  | fuel + 1 => do
    if ← parenthesizedAhead p then
      let _ ← optionalOperator "::"
      let (arguments, goesOn) ← g.parenthesizedArguments
      let called := { p with arguments := .parenthesized arguments, bare := false }
      if goesOn then typePath (← g.pathOn false false called) fuel else return called
    else return p

/-- A lifetime with its bounds. Without a bound the colon is dropped. -/
def lifetimeParameter : Parser Tokens := do
  let attributes ← attributeTokens
  let declared ← lifetime
  if ← ahead (.operator ":") then
    let _ ← operator ":"
    let (bounds, trailing) ← chain "+" (anyAhead [.operator ",", .operator ">"]) lifetime
    if bounds.isEmpty then return attributes ++ declared
    else return attributes ++ declared ++ Token.operator ":" ++ joined "+" (bounds, trailing)
  else return attributes ++ declared

/-- Lifetimes that a bound or a function type binds. -/
def boundLifetimes : Parser Tokens :=
  let list : Parser Tokens :=
    return joined "," (← listUntil "," (ahead (.operator ">")) lifetimeParameter)
  inTurn [word "for", operator "<", list, operator ">"]

/-- A trait in a bound. -/
def traitBound : Parser Tokens := do
  let isConst := (← ahead (.operator "~")) && (← ahead2 (.word "const"))
  let const ← if isConst then inTurn [operator "~", word "const"] else pure []
  let modifier ← optionalOperator "?"
  let lifetimes ← ifAhead (.word "for") boundLifetimes
  let path ← g.traitPath
  return const ++ modifier ++ lifetimes ++ path.tokens

/-- A bound, and whether it is a trait. -/
def bound : Parser (Tokens × Bool) := do
  if ← ahead .lifetime then return (← lifetime, false)
  else if ← ahead (.group .parenthesis) then return (← grouped .parenthesis g.traitBound, true)
  else return (← g.traitBound, true)

/-- Whether a bound can start with what comes next. -/
def boundAhead : Parser Bool := do
  match ← rest with
  | .ident _ :: _ => return true
  | _ => anyAhead [.operator "::", .operator "?", .lifetime, .group .parenthesis]

/-- The bounds after one: each follows `+`, and a last `+` may stand alone. -/
def moreBounds : Parser (Tokens × Bool) := do
  if ← ahead (.operator "+") then
    let sign ← operator "+"
    let stop : Parser Bool := return !(← boundAhead)
    let (found, trailing) ← chain "+" stop g.bound
    return (sign ++ joined "+" (found.map (·.1), trailing), found.any (·.2))
  else return ([], false)

/-- Bounds of which one must be a trait. Only one is read unless `plus` allows several. -/
def bounds (plus : Bool) (missing : SourceError) : Parser Tokens := do
  let first ← g.bound
  let others ← if plus then g.moreBounds else pure ([], false)
  if first.2 || others.2 then return first.1 ++ others.1 else throw missing

def boundTokens : Parser Tokens := return (← g.bound).1

/-- Bounds each of which follows `+`. -/
def addedBounds : Parser Tokens := do
  let more ← repeatWhile (ahead (.operator "+")) do return (← operator "+") ++ (← g.boundTokens)
  return more.flatten

/-- Bounds up to a stop, with `+` required between them. -/
def strictBounds (stop : List Wanted) : Parser Tokens :=
  return joined "+" (← listUntil "+" (anyAhead stop) g.boundTokens)

/-- Bounds for as long as `+` and no stop follows. -/
def boundsUntil (stop : Parser Bool) : Parser (List Tokens × Bool) := chain "+" stop g.boundTokens

end Grammar

end TypedQuery
