import TypedQuery.Source.Grammar.Signature

/-!
The grammar of items. An item is read after its attributes and its visibility; one that may
only stand inside a macro stays as it stands.
-/

namespace TypedQuery.Grammar

open TypedQuery.Parser

variable (g : Grammar)

def namedField : Parser Field := do
  let attributes ← attributes
  let visibility ← visibility
  let name ← if ← ahead (.word "_") then anyWord else identifier
  let _ ← operator ":"
  return ⟨attributes, visibility, name, ← g.type true⟩

def namedFields : Parser Fields := do
  let (fields, trailing) ← inside .brace (commas g.namedField)
  return .named fields trailing

def positionalFields : Parser Tokens :=
  inside .parenthesis (commaTokens (inTurn [attributeTokens, visibility, g.typeTokens true]))

def structItem (attributes : List Attribute) (visibility : Tokens) : Parser StructItem := do
  let _ ← word "struct"
  let name ← identifier
  let parameters := (← g.parameters).tokens
  let finish (conditions : Tokens) (fields : Fields) : StructItem :=
    { attributes, visibility, name, parameters, conditions, fields }
  if ← ahead (.word "where") then
    let conditions ← g.conditions
    if ← ahead (.group .brace) then return finish conditions (← g.namedFields)
    else if ← ahead (.operator ";") then
      let _ ← operator ";"
      return finish conditions .none
    else failAll [.group .brace, .operator ";"]
  else if ← ahead (.group .parenthesis) then
    let fields ← g.positionalFields
    let hasConditions ← ahead (.word "where")
    let conditions ← g.conditions
    if ← ahead (.operator ";") then
      let _ ← operator ";"
      return finish conditions (.positional fields)
    else if hasConditions then fail (.operator ";")
    else failAll [.word "where", .operator ";"]
  else if ← ahead (.group .brace) then return finish [] (← g.namedFields)
  else if ← ahead (.operator ";") then
    let _ ← operator ";"
    return finish [] .none
  else failAll [.word "where", .group .parenthesis, .group .brace, .operator ";"]

/-- Named fields, printed. -/
def fieldTokens : Parser Tokens :=
  grouped .brace do
    let (fields, trailing) ← commas g.namedField
    return joined "," (fields.map Field.tokens, trailing)

def variant : Parser Tokens := do
  let attributes ← attributeTokens
  let _ ← visibility
  let label ← name
  let fields ←
    if ← ahead (.group .brace) then g.fieldTokens
    else if ← ahead (.group .parenthesis) then pure [.group .parenthesis (← g.positionalFields)]
    else pure []
  let value : Parser Tokens := return (← operator "=") ++ (← g.expression true)
  return attributes ++ label ++ fields ++ (← ifAhead (.operator "=") value)

def parameterTokens : Parser Tokens := return (← g.parameters).tokens

def enumeration : Parser Tokens :=
  inTurn [word "enum", name, g.parameterTokens, g.conditions,
    grouped .brace (commaTokens g.variant)]

def union : Parser Tokens :=
  inTurn [word "union", name, g.parameterTokens, g.conditions, g.fieldTokens]

/-- What a use names. Every step reads a name or a group, so the number of tokens bounds them. -/
def useTree : Nat → Parser Tokens
  | 0 => fail .identifier
  | fuel + 1 => do
    let names : List Wanted := [.identifier, .word "self", .word "super", .word "crate"]
    if ← anyAhead names then
      let first ← anyName
      if ← ahead (.operator "::") then return first ++ (← operator "::") ++ (← useTree fuel)
      else if ← ahead (.word "as") then
        let start ← word "as"
        if ← anyAhead [.identifier, .word "_"] then return first ++ start ++ (← anyName)
        else fail (.construct "identifier or underscore")
      else return first
    else if ← ahead (.operator "*") then operator "*"
    else if ← ahead (.group .brace) then grouped .brace (commaTokens (useTree fuel))
    else failAll (names ++ [.operator "*", .group .brace])

def useItem : Parser Tokens := do
  let size := Token.sizeList (← rest)
  inTurn [word "use", optionalOperator "::", useTree (size + 1), operator ";"]

def externCrate : Parser Tokens := do
  let rename : Parser Tokens := do
    let start ← word "as"
    if ← ahead (.word "_") then return start ++ (← anyName) else return start ++ (← name)
  let head ← inTurn [word "extern", word "crate"]
  let label ← if ← ahead (.word "self") then anyName else name
  return head ++ label ++ (← ifAhead (.word "as") rename) ++ (← operator ";")

/-- The value of a constant, from `=` on. -/
def initialiser : Parser Tokens :=
  inTurn [operator "=", g.expression true, operator ";"]

/-- A static item; one without type or value stands as it was written. -/
def staticItem (head before : Tokens) : Parser Fragment := do
  let declared ← inTurn [word "static", optionalWord "mut", name]
  if ← ahead (.operator "=") then
    let _ ← g.initialiser
    return ⟨← since before, true⟩
  else
    let type ← inTurn [operator ":", g.typeTokens true]
    if ← ahead (.operator ";") then
      let _ ← operator ";"
      return ⟨← since before, true⟩
    else return ⟨head ++ declared ++ type ++ (← g.initialiser), false⟩

/-- A constant up to its type. -/
def constDeclaration : Parser Tokens := do
  let start ← word "const"
  let names : List Wanted := [.identifier, .word "_"]
  if ← anyAhead names then
    return start ++ (← inTurn [anyName, operator ":", g.typeTokens true])
  else failAll names

/-- A constant; one without value stands as it was written. -/
def constItem (head before : Tokens) : Parser Fragment := do
  let declared ← g.constDeclaration
  if ← ahead (.operator ";") then
    let _ ← operator ";"
    return ⟨← since before, true⟩
  else return ⟨head ++ declared ++ (← g.initialiser), false⟩

/-- Strict bounds after a colon; without a bound the colon is dropped. -/
def strictColonBounds (stop : List Wanted) : Parser Tokens := do
  if ← ahead (.operator ":") then
    let colon ← operator ":"
    let bounds ← g.strictBounds stop
    return if bounds.isEmpty then [] else colon ++ bounds
  else return []

/-- A type alias or an associated type. -/
structure TypeAlias where
  /-- The word `type` and the name. -/
  declared : Tokens
  parameters : Tokens
  /-- Whether angle brackets follow the name, even empty ones. -/
  isGeneric : Bool
  bounds : Tokens
  /-- Whether a colon follows the parameters, even without bounds. -/
  isBounded : Bool
  conditions : Tokens
  /-- Whether there is a `where`, even without conditions. -/
  isConditional : Bool
  /-- The definition, from `=` on. -/
  definition : Tokens

namespace TypeAlias

/-- An alias on its own: its conditions stand before its definition. -/
def itemTokens (a : TypeAlias) : Tokens :=
  a.declared ++ a.parameters ++ a.conditions ++ a.definition ++ Token.operator ";"

/-- An associated type: its conditions stand after its definition. -/
def memberTokens (a : TypeAlias) : Tokens :=
  a.declared ++ a.parameters ++ a.bounds ++ a.definition ++ a.conditions ++ Token.operator ";"

/-- Whether there is a definition and there are no bounds. -/
def isPlain (a : TypeAlias) : Bool := !a.isBounded && !a.definition.isEmpty

end TypeAlias

/-- A type alias. Conditions may stand before its definition, or after it if `late` and there are
none before. -/
def typeAlias (late : Bool) : Parser TypeAlias := do
  let declared ← inTurn [word "type", name]
  let isGeneric ← ahead (.operator "<")
  let parameters := (← g.parameters).tokens
  let isBounded ← ahead (.operator ":")
  let bounds ← g.strictColonBounds [.word "where", .operator "=", .operator ";"]
  let hasEarly ← ahead (.word "where")
  let early ← g.conditions
  let definition : Parser Tokens := return (← operator "=") ++ (← g.typeTokens true)
  let definition ← ifAhead (.operator "=") definition
  let hasLate := late && !hasEarly && (← ahead (.word "where"))
  let conditions ← if hasLate then g.conditions else pure early
  let _ ← operator ";"
  return { declared, parameters, isGeneric, bounds, isBounded, conditions, definition
           isConditional := hasEarly || hasLate }

/-- The arguments of a macro call that is an item; without braces a semicolon ends them. -/
def macroEnd : Parser Tokens := do
  let arguments ← macroArguments
  match arguments with
  | [.group .brace _] => return arguments
  | _ => return arguments ++ (← operator ";")

/-- A macro call as an item, perhaps with a name before its arguments. -/
def macroItem : Parser Tokens :=
  inTurn [plainPath, operator "!", ifAhead .identifier name, macroEnd]

/-- A macro call as a member of an item. -/
def macroMember : Parser Tokens := inTurn [plainPath, operator "!", macroEnd]

/-- A macro definition that starts with the word `macro`. -/
def macroDefinition : Parser Tokens := do
  let head ← inTurn [word "macro", name]
  let arguments ← ifAhead (.group .parenthesis) (grouped .parenthesis everything)
  if ← ahead (.group .brace) then
    return head ++ arguments ++ (← grouped .brace everything)
  else if arguments.isEmpty then failAll [.group .parenthesis, .group .brace]
  else fail (.group .brace)

/-- A function; one without a body stands as it was written. -/
def functionItem (head before : Tokens) : Parser Fragment := do
  let signature ← g.signature
  if ← ahead (.operator ";") then
    let _ ← operator ";"
    return ⟨← since before, true⟩
  else return ⟨head ++ signature.tokens ++ (← g.body), false⟩

/-- Words that start the path of a macro call. -/
def pathStarts : List Wanted :=
  [.identifier, .word "self", .word "super", .word "crate", .operator "::"]

/-- A method with its body or a semicolon. -/
def methodTokens : Parser Tokens := do
  let m ← g.method []
  return m.signature.tokens ++ m.body.getD (Token.operator ";")

/-- A constant of a trait, perhaps with a value. -/
def traitConstant : Parser Tokens := do
  let value : Parser Tokens := return (← operator "=") ++ (← g.expression true)
  if ← second [.identifier, .word "_"] then
    inTurn [g.constDeclaration, ifAhead (.operator "=") value, operator ";"]
  else if ← second [.word "async", .word "unsafe", .word "extern", .word "fn"] then g.methodTokens
  else
    let _ ← word "const"
    failAll [.identifier, .word "_", .word "async", .word "unsafe", .word "extern", .word "fn"]
where
  second (ws : List Wanted) : Parser Bool := return ws.any (·.isAhead (Tokens.skip (← rest)))

/-- A member of a trait; one with a visibility or a default mark stands as it was written. -/
def traitMember : Parser Tokens := do
  let before ← rest
  let attributes ← attributeTokens
  let marks ← inTurn [visibility, optionalWord "default"]
  let ts ←
    if ← functionAhead then g.methodTokens
    else if ← ahead (.word "const") then g.traitConstant
    else if ← ahead (.word "type") then do pure (← g.typeAlias true).memberTokens
    else if ← anyAhead pathStarts then macroMember
    else failAll ([.word "fn", .word "const", .word "type"] ++ pathStarts)
  if marks.isEmpty then return attributes ++ ts else since before

/-- A method of an implementation. It may lack a body. -/
def implMethod : Parser Tokens := do
  let signature ← g.signature
  if ← ahead (.operator ";") then return signature.tokens ++ (← operator ";")
  else return signature.tokens ++ (← g.body)

/-- A constant of an implementation; one without value stands as it was written. -/
def implConstant (head before : Tokens) : Parser Tokens := do
  let declared ← g.constDeclaration
  if ← ahead (.operator "=") then return head ++ declared ++ (← g.initialiser)
  else
    let _ ← operator ";"
    since before

/-- A member of an implementation; one without its definition stands as it was written. -/
def implMember : Parser Tokens := do
  let before ← rest
  let attributes ← attributeTokens
  let visibility ← visibility
  let isDefault := (← ahead (.word "default")) && !(← ahead2 (.operator "!"))
  let default ← if isDefault then word "default" else pure []
  let head := attributes ++ visibility ++ default
  let starts : List Wanted := [.word "fn", .word "const", .word "type"]
  if ← functionAhead then return head ++ (← g.implMethod)
  else if ← ahead (.word "const") then g.implConstant head before
  else if ← ahead (.word "type") then
    let type ← g.typeAlias true
    if type.isPlain then return head ++ type.memberTokens else since before
  else if isDefault then failAll starts
  else if !visibility.isEmpty then failAll (.word "default" :: starts)
  else if ← anyAhead pathStarts then return head ++ (← macroMember)
  else failAll (.word "default" :: starts ++ pathStarts)

/-- Members between braces, after attributes of the whole. -/
def members (member : Parser Tokens) : Parser Tokens :=
  grouped .brace do return (← innerAttributeTokens) ++ (← repeatToEnd member).flatten

/-- A trait, or another name for bounds. -/
def traitItem : Parser Tokens := do
  let modifiers ← inTurn [optionalWord "unsafe", optionalWord "auto"]
  let head := modifiers ++ (← inTurn [word "trait", name, g.parameterTokens])
  let starts : List Wanted := [.group .brace, .operator ":", .word "where"]
  if !modifiers.isEmpty || (← anyAhead starts) then
    let supertraits ← g.strictColonBounds [.word "where", .group .brace]
    return head ++ supertraits ++ (← g.conditions) ++ (← members g.traitMember)
  else if ← ahead (.operator "=") then
    let equals ← operator "="
    let bounds ← g.strictBounds [.word "where", .operator ";"]
    return head ++ equals ++ bounds ++ (← g.conditions) ++ (← operator ";")
  else failAll (starts ++ [.operator "="])

/-- Whether generic parameters follow `impl`, rather than an anchored path. -/
def implParametersAhead : Parser Bool := do
  let afterName := ((← ahead2 .identifier) || (← ahead2 .lifetime)) &&
    ((← ahead3 (.operator ":")) || (← ahead3 (.operator ",")) || (← ahead3 (.operator ">")) ||
      (← ahead3 (.operator "=")))
  return (← ahead (.operator "<")) &&
    ((← ahead2 (.operator ">")) || (← ahead2 (.operator "#")) || afterName ||
      (← ahead2 (.word "const")))

/-- An implementation; one that is visible, constant, or of something other than a trait stands as
it was written, and so does a negative type. -/
def implItem (head before : Tokens) (isVisible : Bool) : Parser Fragment := do
  let start ← inTurn [optionalWord "default", optionalWord "unsafe", word "impl"]
  let parameters ← if ← implParametersAhead then g.parameterTokens else pure []
  let isConst := (← ahead (.word "const")) ||
    (← ahead (.operator "?")) && (← ahead2 (.word "const"))
  let _ ← if isConst then inTurn [optionalOperator "?", word "const"] else pure []
  let fromPolarity ← rest
  let isNegative := (← ahead (.operator "!")) && !(← ahead2 (.group .brace))
  let polarity ← if isNegative then operator "!" else pure []
  let first ← g.type true
  let isFor ← ahead (.word "for")
  let subject ←
    if isFor then pure (polarity ++ first.tokens ++ (← inTurn [word "for", g.typeTokens true]))
    else if isNegative then since fromPolarity
    else pure first.tokens
  let ts := start ++ parameters ++ subject ++ (← g.conditions) ++ (← members g.implMember)
  let isTrait := first matches .path ..
  if isVisible || isConst || (isFor && !isTrait) then return ⟨← since before, true⟩
  else return ⟨head ++ ts, false⟩

/-- A type in an `extern` block: a name and nothing else, unless it stands as it was written. -/
def foreignType (head before : Tokens) : Parser Tokens := do
  let type ← g.typeAlias false
  if type.isGeneric || type.isBounded || type.isConditional || !type.definition.isEmpty then
    since before
  else return head ++ type.memberTokens

/-- An item in an `extern` block; one with a body or a value stands as it was written. -/
def foreignMember : Parser Tokens := do
  let before ← rest
  let attributes ← attributeTokens
  let visibility ← visibility
  let head := attributes ++ visibility
  if ← functionAhead then
    let signature ← g.signature
    if ← ahead (.group .brace) then
      let _ ← g.body
      since before
    else return head ++ signature.tokens ++ (← operator ";")
  else if ← ahead (.word "static") then
    let declared ← inTurn [word "static", optionalWord "mut", name, operator ":",
      g.typeTokens true]
    if ← ahead (.operator "=") then
      let _ ← g.initialiser
      since before
    else return head ++ declared ++ (← operator ";")
  else if ← ahead (.word "type") then g.foreignType head before
  else if visibility.isEmpty && (← anyAhead pathStarts) then return head ++ (← macroMember)
  else failAll ([.word "fn", .word "static", .word "type"] ++
    (if visibility.isEmpty then pathStarts else []))

def foreignItem : Parser Tokens := inTurn [abi, members g.foreignMember]

def moduleItem : Parser Tokens := do
  let head ← inTurn [word "mod", name]
  if ← ahead (.operator ";") then return head ++ (← operator ";")
  else if ← ahead (.group .brace) then return head ++ (← members (return (← g.item).tokens))
  else failAll [.operator ";", .group .brace]

/-- What an item can start with after its visibility, in the order in which errors name it. -/
def itemStarts : List Wanted := [
  .word "fn", .word "extern", .word "use", .word "static", .word "const", .word "unsafe",
  .word "mod", .word "type", .word "struct", .word "enum", .word "union", .word "trait",
  .word "auto", .word "impl", .word "default", .word "macro"]

/-- An item that starts with `extern` and is no function. Only one of a crate takes a visibility. -/
def externItem (head : Tokens) (isVisible : Bool) : Parser Tokens := do
  let isForeign := (← ahead2 (.group .brace)) ||
    (← ahead2 .stringLiteral) && (← ahead3 (.group .brace))
  if ← ahead2 (.word "crate") then return head ++ (← externCrate)
  else if isForeign && isVisible then throw (.expected [.word "extern"] false)
  else if isForeign then return head ++ (← g.foreignItem)
  else
    let _ ← word "extern"
    if ← ahead .stringLiteral then
      let _ ← stringLiteral
      fail (.group .brace)
    else failAll [.word "crate", .group .brace, .stringLiteral]

/-- An item that starts with `unsafe` and is no function. -/
def unsafeItem (head before : Tokens) (isVisible : Bool) : Parser Fragment := do
  let isTrait := (← ahead2 (.word "trait")) ||
    (← ahead2 (.word "auto")) && (← ahead3 (.word "trait"))
  if isTrait then return ⟨head ++ (← g.traitItem), false⟩
  else if ← ahead2 (.word "impl") then g.implItem head before isVisible
  else
    let _ ← word "unsafe"
    if ← ahead (.word "extern") then
      let _ ← g.foreignItem
      return ⟨← since before, true⟩
    else if ← ahead (.word "mod") then
      let _ ← g.moduleItem
      return ⟨← since before, true⟩
    else failAll [.word "trait", .word "auto", .word "impl", .word "extern", .word "mod"]

/-- An item that is no struct, after its attributes and its visibility; `before` are the tokens from
these on. -/
def otherItem (head before : Tokens) (isVisible : Bool) : Parser Fragment := do
  let plain (p : Parser Tokens) : Parser Fragment := return ⟨head ++ (← p), false⟩
  if ← functionAhead then g.functionItem head before
  else if ← ahead (.word "extern") then return ⟨← g.externItem head isVisible, false⟩
  else if ← ahead (.word "use") then plain useItem
  else if ← ahead (.word "static") then g.staticItem head before
  else if ← ahead (.word "const") then g.constItem head before
  else if ← ahead (.word "unsafe") then g.unsafeItem head before isVisible
  else if ← ahead (.word "mod") then plain g.moduleItem
  else if ← ahead (.word "type") then
    let type ← g.typeAlias false
    if type.isPlain then return ⟨head ++ type.itemTokens, false⟩
    else return ⟨← since before, true⟩
  else if ← ahead (.word "enum") then plain g.enumeration
  else if (← ahead (.word "union")) && (← ahead2 .identifier) then plain g.union
  else if ← ahead (.word "trait") then plain g.traitItem
  else if (← ahead (.word "auto")) && (← ahead2 (.word "trait")) then plain g.traitItem
  else if (← ahead (.word "impl")) ||
      (← ahead (.word "default")) && !(← ahead2 (.operator "!")) then
    g.implItem head before isVisible
  else if ← ahead (.word "macro") then plain macroDefinition
  else if !isVisible && (← anyAhead pathStarts) then plain macroItem
  else if ← ahead (.word "macro_rules") then
    let _ ← macroItem
    return ⟨← since before, true⟩
  else failAll (itemStarts ++ (if isVisible then [] else pathStarts))

/-- Any item of a module. -/
def parsedItem : Parser Item := do
  let before ← rest
  let attributes ← attributes
  let visibility ← visibility
  if ← ahead (.word "struct") then return .struct (← g.structItem attributes visibility)
  else
    let head := Attribute.tokensOf attributes ++ visibility
    let item ← g.otherItem head before !visibility.isEmpty
    return .other item.tokens item.isVerbatim

end TypedQuery.Grammar
