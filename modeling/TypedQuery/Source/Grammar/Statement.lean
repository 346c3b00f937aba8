import TypedQuery.Source.Grammar.Expression

namespace TypedQuery.Grammar

open TypedQuery.Parser

variable (g : Grammar)

/-- Whether a macro call in braces comes next that is a statement of its own. -/
def macroStatementAhead : Parser Bool := do
  let test : Parser Bool := do
    let _ ← plainPath
    let goesOn := (← ahead3 (.operator ".")) || (← ahead3 (.operator "?"))
    return (← ahead (.operator "!")) &&
      ((← ahead2 (.group .brace)) && !goesOn || (← ahead2 .identifier))
  return (← peek? test).getD false

/-- A macro call, perhaps with a name before its arguments. -/
def macroStatement : Parser Tokens :=
  inTurn [plainPath, operator "!", ifAhead .identifier name, macroArguments,
    optionalOperator ";"]

/-- A declaration of variables after its attributes; `before` are the tokens from these on. One with
an alternative stands as it was written. -/
def letStatement (before attributes : Tokens) : Parser Tokens := do
  let type : Parser Tokens := return (← operator ":") ++ (← g.typeTokens true)
  let head ← inTurn [word "let", g.leadingAlternatives, ifAhead (.operator ":") type]
  if ← ahead (.operator "=") then
    let value ← inTurn [operator "=", g.expression true]
    if ← ahead (.word "else") then
      let _ ← inTurn [word "else", g.block]
      return (← since before) ++ (← operator ";")
    else return attributes ++ head ++ value ++ (← operator ";")
  else return attributes ++ head ++ (← operator ";")

/-- Words of which an item in a block can start with one, whatever follows. -/
def itemWords : List Wanted := [
  .word "pub", .word "extern", .word "use", .word "fn", .word "mod", .word "type",
  .word "struct", .word "enum", .word "trait", .word "impl", .word "macro"]

/-- Whether an item comes next in a block. -/
def itemAhead : Parser Bool := do
  let second (ws : List Wanted) : Parser Bool := return ws.any (·.isAhead (Tokens.skip (← rest)))
  let asyncClosure := (← ahead2 (.word "async")) &&
    ((← ahead3 (.word "move")) || (← ahead3 (.operator "|")))
  if ← anyAhead itemWords then return true
  else if ← ahead (.word "crate") then return !(← second [.operator "::"])
  else if ← ahead (.word "static") then
    return (← second [.word "mut"]) || (← second [.identifier]) && !asyncClosure
  else if ← anyAhead [.word "const", .word "unsafe"] then return !(← second [.group .brace])
  else if ← ahead (.word "async") then second [.word "unsafe", .word "extern", .word "fn"]
  else if ← ahead (.word "union") then second [.identifier]
  else if ← ahead (.word "auto") then second [.word "trait"]
  else if ← ahead (.word "default") then second [.word "unsafe", .word "impl"]
  else return false

/-- A statement, and whether only a semicolon or the end of the block may follow. What stands as it
was written loses the attributes in front of it. -/
def statement : Parser (Tokens × Bool) := do
  let before ← rest
  let attributes ← attributeTokens
  if ← macroStatementAhead then return (attributes ++ (← macroStatement), false)
  else if ← ahead (.word "let") then return (← g.letStatement before attributes, false)
  else if ← itemAhead then
    let item ← g.item
    return (if item.isVerbatim then item.tokens else attributes ++ item.tokens, false)
  else
    let whole := attributed attributes (← g.earlyExpression)
    if ← ahead (.operator ";") then return (whole.tokens ++ (← operator ";"), false)
    else return (whole.tokens, whole.kind ≠ .complete)

/-- Statements up to the end. An expression that does not end a statement can only be the last. -/
def statementList : Parser Tokens := do
  let step : Parser Tokens := do
    if ← ahead (.operator ";") then operator ";"
    else
      let (ts, isLast) ← g.statement
      if isLast && !(← atEnd) then throw .unexpectedToken
      else return ts
  return (← repeatToEnd step).flatten

end TypedQuery.Grammar
