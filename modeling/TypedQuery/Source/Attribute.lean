import TypedQuery.Source.Parser

namespace TypedQuery

/-- An attribute: its path, the tokens after it, and whether it stands inside what it belongs to
rather than in front of it. -/
structure Attribute where
  path : Tokens
  arguments : Tokens
  isInner : Bool
  deriving DecidableEq, Repr

namespace Attribute

def tokens (a : Attribute) : Tokens :=
  Token.operator "#" ++ (if a.isInner then Token.operator "!" else []) ++
    [.group .bracket (a.path ++ a.arguments)]

/-- Whether the path is a given single name. -/
def isNamed (a : Attribute) (name : String) : Bool := a.path = [.ident name]

def tokensOf (attributes : List Attribute) : Tokens := attributes.flatMap tokens

end Attribute

namespace Parser

/-- Names with `::` between them and perhaps in front, without arguments. -/
def plainPath : Parser Tokens := do
  let leading ← optionalOperator "::"
  let starts : List Wanted :=
    [.identifier, .word "super", .word "self", .word "Self", .word "crate"]
  let stop : Parser Bool := return !(← anyAhead starts)
  let (names, trailing) ← chain "::" stop anyName
  if names.isEmpty then fail (.construct "path")
  else if trailing then fail (.construct "path segment")
  else return leading ++ joined "::" (names, false)

def attributeBody (isInner : Bool) : Parser Attribute :=
  inside .bracket do return ⟨← plainPath, ← everything, isInner⟩

/-- The attributes in front of something. -/
def attributes : Parser (List Attribute) :=
  repeatWhile (ahead (.operator "#")) do
    let _ ← operator "#"
    attributeBody false

def attributeTokens : Parser Tokens := return Attribute.tokensOf (← attributes)

/-- The attributes inside what they belong to. -/
def innerAttributes : Parser (List Attribute) := do
  let isInnerAhead : Parser Bool := return (← ahead (.operator "#")) && (← ahead2 (.operator "!"))
  repeatWhile isInnerAhead do
    let _ ← inTurn [operator "#", operator "!"]
    attributeBody true

def innerAttributeTokens : Parser Tokens := return Attribute.tokensOf (← innerAttributes)

/-- The restriction of a visibility, if the group ahead is one. Tokens may be left in it only after
a path. -/
def restriction? : Parser (Option (Tokens × Bool)) := do
  match ← rest with
  | .group .parenthesis inner :: _ =>
    let body : Parser Tokens := do
      if ← anyAhead [.word "crate", .word "self", .word "super"] then
        let found ← anyName
        if ← atEnd then return found else fail (.construct "restriction")
      else return (← word "in") ++ (← plainPath)
    match body.run ⟨inner, false⟩ with
    | .ok (found, s) => return some (found, !s.rest.isEmpty)
    | .error e => if Wanted.isAhead (.word "in") inner then throw e else return none
  | _ => return none

/-- A visibility; nothing is one too. -/
def visibility : Parser Tokens := do
  if ← ahead (.word "pub") then
    let visible ← word "pub"
    match ← restriction? with
    | some (found, stray) =>
      pass 1 stray
      return visible ++ [.group .parenthesis found]
    | none => return visible
  else if (← ahead (.word "crate")) && !(← ahead2 (.operator "::")) then word "crate"
  else return []

end Parser

end TypedQuery
