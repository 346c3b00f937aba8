import TypedQuery.Source.Grammar.Pattern

/-!
The grammar of expressions. Operators are read one after the other: which of them binds more tightly
does not change the tokens, but for what `let` compares with a pattern, and for the part of an
expression that its attributes belong to.
-/

namespace TypedQuery.Grammar

open TypedQuery.Parser

variable (g : Grammar)

/-- What stands between braces, as statements. -/
def block : Parser Tokens := grouped .brace g.statements

def elseBranch (fuel : Nat) : Parser Tokens := do
  match fuel with
  | 0 => fail (.word "else")
  | fuel + 1 =>
    let start ← word "else"
    if ← ahead (.word "if") then
      return start ++ (← inTurn [word "if", g.expression false, g.block,
        ifAhead (.word "else") (elseBranch fuel)])
    else if ← ahead (.group .brace) then return start ++ (← g.block)
    else failAll []

def ifExpression : Parser Tokens := do
  let fuel := (← rest).length
  inTurn [word "if", g.expression false, g.block, ifAhead (.word "else") (g.elseBranch fuel)]

def whileLoop : Parser Tokens := inTurn [word "while", g.expression false, g.body]

def forLoop : Parser Tokens :=
  inTurn [word "for", g.leadingAlternatives, word "in", g.expression false, g.body]

def plainLoop : Parser Tokens := inTurn [word "loop", g.body]

/-- One arm of a match: its tokens, whether it needs a comma after it, and whether it has one. -/
def arm : Parser (Tokens × Bool × Bool) := do
  let guard : Parser Tokens := return (← word "if") ++ (← g.expression true)
  let head ← inTurn [attributeTokens, g.leadingAlternatives, ifAhead (.word "if") guard,
    operator "=>"]
  let result ← g.earlyExpression
  let required := result.kind ≠ .complete
  let comma ←
    if required && !(← atEnd) then operator "," else optionalOperator ","
  return (head ++ result.tokens, required, !comma.isEmpty)

/-- Arms with their commas; an arm that needs one gets it unless it is the last. -/
def armTokens : List (Tokens × Bool × Bool) → Tokens
  | [] => []
  | (ts, required, comma) :: others =>
    ts ++ (if comma || (required && !others.isEmpty) then Token.operator "," else []) ++
      armTokens others

def matchExpression : Parser Tokens :=
  let arms : Parser Tokens :=
    return (← innerAttributeTokens) ++ armTokens (← repeatToEnd g.arm)
  inTurn [word "match", g.expression false, grouped .brace arms]

/-- Loops and blocks that start with a word of their own or with a brace. -/
def blockLike? : Parser (Option Operand) := do
  let complete (p : Parser Tokens) : Parser (Option Operand) := return some ⟨← p, .complete⟩
  let onBlock (spelling : String) : Parser Bool :=
    return (← ahead (.word spelling)) && (← ahead2 (.group .brace))
  let bindsLifetimes := (← ahead2 (.operator "<")) &&
    ((← ahead3 .lifetime) || (← ahead3 (.operator ">")))
  if ← ahead (.word "if") then complete g.ifExpression
  else if ← ahead (.word "while") then complete g.whileLoop
  else if (← ahead (.word "for")) && !bindsLifetimes then complete g.forLoop
  else if ← ahead (.word "loop") then complete g.plainLoop
  else if ← ahead (.word "match") then complete g.matchExpression
  else if ← onBlock "try" then complete (inTurn [word "try", g.block])
  else if ← ahead (.word "unsafe") then complete (inTurn [word "unsafe", g.body])
  else if ← onBlock "const" then return some ⟨← g.constantBlock, .verbatim⟩
  else if ← ahead (.group .brace) then complete g.body
  else return none

/-- Whether nothing is left that an optional operand could be. -/
def operandEnd (allowStruct : Bool) : Parser Bool :=
  return (← atEnd) || (← anyAhead [.operator ",", .operator ";"]) ||
    (!allowStruct && (← ahead (.group .brace)))

/-- Whether a range ends at its operator. -/
def rangeEnded (allowStruct : Bool) : Parser Bool :=
  return (← operandEnd allowStruct) || (← aheadBut "." "..")

/-- An operand unless a test holds. -/
def operandUnless (ended : Parser Bool) (allowStruct : Bool) : Parser Tokens := do
  if ← ended then return [] else g.expression allowStruct

/-- An argument of a closure. A pattern that stands as it was written loses its attributes, unless a
type follows. -/
def closureArgument : Parser Tokens := do
  let attributes ← attributeTokens
  let pattern ← g.pattern
  if ← ahead (.operator ":") then
    return attributes ++ pattern.tokens ++ (← operator ":") ++ (← g.typeTokens true)
  else if pattern.isVerbatim then return pattern.tokens
  else return attributes ++ pattern.tokens

def closure (allowStruct : Bool) : Parser Tokens := do
  let arguments : Parser Tokens :=
    return joined "," (← listUntil "," (ahead (.operator "|")) g.closureArgument)
  let head ← inTurn [optionalWord "static", optionalWord "async", optionalWord "move",
    operator "|", arguments, operator "|"]
  if ← ahead (.operator "->") then
    return head ++ (← inTurn [operator "->", g.typeTokens true, g.block])
  else return head ++ (← g.expression allowStruct)

/-- A tuple or an expression in parentheses. -/
def parenthesized : Parser Tokens := grouped .parenthesis (commaTokens (g.expression true))

/-- An array, by its elements or by one element and a length. -/
def array : Parser Tokens :=
  grouped .bracket do
    if ← atEnd then return []
    let first ← g.expression true
    if ← ahead (.operator ";") then return first ++ (← operator ";") ++ (← g.expression true)
    else if ← atEnd then return first
    else if ← ahead (.operator ",") then
      return first ++ (← operator ",") ++ (← commaTokens (g.expression true))
    else fail (.construct "`,` or `;`")

def fieldValue : Parser Tokens := do
  let attributes ← attributeTokens
  let (field, isNamed) ← member
  if !isNamed || (← ahead (.operator ":")) then
    return attributes ++ field ++ (← operator ":") ++ (← g.expression true)
  else return attributes ++ field

/-- The fields of a struct expression. A base, from which the other fields come, ends them. -/
def fieldValues : Nat → Parser Tokens
  | 0 => return []
  | fuel + 1 => do
    if ← atEnd then return []
    else if ← ahead (.operator "..") then
      let base ← operator ".."
      if ← atEnd then return base else return base ++ (← g.expression true)
    else
      let field ← g.fieldValue
      if ← atEnd then return field
      else return field ++ (← operator ",") ++ (← fieldValues fuel)

/-- An operand that starts with a path: the path, a macro call or a struct. A struct of an anchored
path stands as it was written. -/
def pathOperand (allowStruct : Bool) : Parser Operand := do
  let before ← rest
  let p ← g.path true
  if !p.anchored && p.bare && (← aheadBut "!" "!=") then
    return ⟨p.tokens ++ (← operator "!") ++ (← macroArguments), .ordinary⟩
  else if allowStruct && (← ahead (.group .brace)) then
    let fields ← grouped .brace do g.fieldValues ((← rest).length + 1)
    if p.anchored then return ⟨← since before, .verbatim⟩
    else return ⟨p.tokens ++ fields, .ordinary⟩
  else return ⟨p.tokens, .ordinary⟩

def closureAhead : Parser Bool := do
  let isAsync := (← ahead (.word "async")) &&
    ((← ahead2 (.operator "|")) || (← ahead2 (.word "move")))
  return isAsync || (← anyAhead [.operator "|", .word "static", .word "move"])

def asyncBlockAhead : Parser Bool :=
  return (← ahead (.word "async")) &&
    ((← ahead2 (.group .brace)) || (← ahead2 (.word "move")) && (← ahead3 (.group .brace)))

def labelled : Parser Tokens := do
  let label ← inTurn [lifetime, operator ":"]
  if ← ahead (.word "while") then return label ++ (← g.whileLoop)
  else if ← ahead (.word "for") then return label ++ (← g.forLoop)
  else if ← ahead (.word "loop") then return label ++ (← g.plainLoop)
  else if ← ahead (.group .brace) then return label ++ (← g.body)
  else fail (.construct "loop or block expression")

/-- An operand that a word or a sign of its own starts. -/
def markedOperand? (allowStruct : Bool) : Parser (Option Operand) := do
  let ordinary (p : Parser Tokens) : Parser (Option Operand) := return some ⟨← p, .ordinary⟩
  if ← ahead (.word "break") then
    ordinary (inTurn [word "break", ifAhead .lifetime lifetime,
      g.operandUnless (operandEnd allowStruct) allowStruct])
  else if ← ahead (.word "continue") then
    ordinary (inTurn [word "continue", ifAhead .lifetime lifetime])
  else if ← ahead (.word "return") then
    ordinary (inTurn [word "return", g.operandUnless (operandEnd true) allowStruct])
  else if ← ahead (.word "yield") then
    ordinary (inTurn [word "yield", g.operandUnless (operandEnd true) true])
  else if ← ahead (.word "let") then
    ordinary (inTurn [word "let", g.leadingAlternatives, operator "=", g.letValue])
  else if ← ahead (.operator "..") then
    return some ⟨← inTurn [rangeOperator, g.operandUnless (rangeEnded allowStruct) allowStruct],
      .range⟩
  else if ← ahead (.word "_") then return some ⟨← word "_", .verbatim⟩
  else return none

/-- An operand without what can follow it. -/
def atom (allowStruct : Bool) : Parser Operand := do
  let ordinary (p : Parser Tokens) : Parser Operand := return ⟨← p, .ordinary⟩
  if ← ahead .literal then ordinary literal
  else if ← asyncBlockAhead then
    return ⟨← inTurn [word "async", optionalWord "move", g.block], .complete⟩
  else if ← closureAhead then ordinary (g.closure allowStruct)
  else
    match ← g.blockLike? with
    | some operand => return operand
    | none =>
      if ← ahead (.word "for") then
        return ⟨← passed (inTurn [boundLifetimes, g.closure allowStruct]), .verbatim⟩
      else if ← anyAhead [.identifier, .operator "::", .operator "<", .word "self", .word "Self",
          .word "super", .word "crate"] then
        g.pathOperand allowStruct
      else if ← ahead (.group .parenthesis) then ordinary g.parenthesized
      else if ← ahead (.group .bracket) then ordinary g.array
      else if ← ahead (.word "const") then return ⟨← g.constantBlock, .verbatim⟩
      else if ← ahead .lifetime then return ⟨← g.labelled, .complete⟩
      else
        match ← g.markedOperand? allowStruct with
        | some operand => return operand
        | none => fail (.construct "expression")

/-- An argument of a method in angle brackets. -/
def methodArgument : Parser Tokens := do
  if ← ahead .literal then literal
  else if ← ahead (.group .brace) then g.body
  else g.typeTokens true

/-- A method's arguments in angle brackets, with the `::` in front of them. -/
def methodTurbofish : Parser Tokens := do
  let start ← inTurn [operator "::", operator "<"]
  let arguments ← listUntil "," (ahead (.operator ">")) g.methodArgument
  return start ++ joined "," arguments ++ (← operator ">")

/-- A member that is taken of an operand, or a method that is called. -/
def memberAccess : Parser Tokens := do
  let (field, isNamed) ← member
  if isNamed && (← ahead (.operator "::")) then
    return field ++ (← g.methodTurbofish) ++ (← g.parenthesized)
  else if isNamed && (← ahead (.group .parenthesis)) then return field ++ (← g.parenthesized)
  else return field

/-- A field, a method call or a wait, from the point on. A number with a point in it stands for two
positions. -/
def access : Parser Tokens := do
  let point ← operator "."
  if ← ahead (.word "await") then return point ++ (← word "await")
  else
    match ← number? with
    | some (isNegative, .fraction, text) =>
      let (found, isDone) ← positions isNegative text
      advanceNumber isNegative
      if isDone then return point ++ found
      else return point ++ found ++ Token.operator "." ++ (← g.memberAccess)
    | _ => return point ++ (← g.memberAccess)

/-- One step that goes on from an operand. -/
def trailer? : Parser (Option Tokens) := do
  if ← ahead (.group .parenthesis) then return some (← g.parenthesized)
  else if ← aheadBut "." ".." then return some (← g.access)
  else if ← ahead (.group .bracket) then
    return some (← grouped .bracket (g.expression true))
  else if ← ahead (.operator "?") then return some (← operator "?")
  else return none

def trailers : Parser Tokens := do
  return (← collect g.trailer? ((← rest).length + 1)).flatten

/-- An operand with all that goes on from it. -/
def withTrailers (operand : Operand) : Parser Operand := do
  if operand.kind = .range && (← aheadBut "." "..") then return operand
  let more ← g.trailers
  if more.isEmpty then return operand else return ⟨operand.tokens ++ more, .ordinary⟩

/-- An operand with its signs and with what follows it. A raw reference, and an operand that stands
as it was written, keep their attributes with them. -/
def signedOperand (allowStruct : Bool) : Nat → Parser Operand
  | 0 => fail (.construct "expression")
  | fuel + 1 => do
    let before ← rest
    let attributes ← attributeTokens
    let signed (sign : Parser Tokens) : Parser Operand := do
      let start ← sign
      return ⟨attributes ++ start ++ (← signedOperand allowStruct fuel).tokens, .ordinary⟩
    if ← ahead (.operator "&") then
      let isRaw := (← ahead2 (.word "raw")) &&
        ((← ahead3 (.word "mut")) || (← ahead3 (.word "const")))
      if isRaw then
        let _ ← inTurn [operator "&", word "raw", anyName]
        let _ ← signedOperand allowStruct fuel
        return ⟨← since before, .verbatim⟩
      else signed (inTurn [operator "&", optionalWord "mut"])
    else if ← ahead (.word "box") then signed (word "box")
    else if ← ahead (.operator "*") then signed (operator "*")
    else if ← ahead (.operator "!") then signed (operator "!")
    else if ← ahead (.operator "-") then signed (operator "-")
    else
      let operand ← g.withTrailers (← g.atom allowStruct)
      if attributes.isEmpty then return operand
      else if operand.kind = .verbatim then return ⟨← since before, .verbatim⟩
      else return ⟨attributes ++ operand.tokens, operand.kind⟩

def unary (allowStruct : Bool) : Parser Operand := do
  g.signedOperand allowStruct ((← rest).length + 1)

/-- How an operation binds, as far as that matters. -/
inductive Binding where
  | assignment
  | range
  | connective
  /-- A comparison or an operation that binds more tightly. -/
  | calculation
  | cast
  deriving DecidableEq

/-- Operators between two operands. One comes before those that it starts with. -/
def binaryOperators : List (String × Binding) := [
  ("+=", .assignment), ("-=", .assignment), ("*=", .assignment), ("/=", .assignment),
  ("%=", .assignment), ("^=", .assignment), ("&=", .assignment), ("|=", .assignment),
  ("<<=", .assignment), (">>=", .assignment), ("&&", .connective), ("||", .connective),
  ("<<", .calculation), (">>", .calculation), ("==", .calculation), ("<=", .calculation),
  ("!=", .calculation), (">=", .calculation), ("+", .calculation), ("-", .calculation),
  ("*", .calculation), ("/", .calculation), ("%", .calculation), ("^", .calculation),
  ("&", .calculation), ("|", .calculation), ("<", .calculation), (">", .calculation)]

def binaryOperator? : Parser (Option (String × Binding)) := do
  match ← rest with
  | .punct c joint :: ts =>
    return binaryOperators.find? fun (spelling, _) =>
      Wanted.isAhead (.operator spelling) (.punct c joint :: ts)
  | _ => return none

/-- What comes after a cast that cannot follow one. -/
def castContinuation? : Parser (Option String) := do
  if ← aheadBut "." ".." then
    if ← ahead2 (.word "await") then return some "`.await`"
    else if (← ahead2 .identifier) &&
        ((← ahead3 (.group .parenthesis)) || (← ahead3 (.operator "::"))) then
      return some "a method call"
    else return some "a field access"
  else if ← ahead (.operator "?") then return some "`?`"
  else if ← ahead (.group .bracket) then return some "indexing"
  else if ← ahead (.group .parenthesis) then return some "a function call"
  else return none

/-- The type of a cast, after its operator. -/
def castType : Parser Tokens := do
  let type ← g.typeTokens false
  match ← castContinuation? with
  | some continuation => throw (.continuedCast continuation)
  | none => return type

/-- An operator and its right operand. In what `let` compares, only comparisons and operations that
bind more tightly are read. -/
def operation? (allowStruct inLet : Bool) : Parser (Option (Binding × Tokens)) := do
  let operand : Parser Tokens := return (← g.unary allowStruct).tokens
  match ← binaryOperator? with
  | some (spelling, binding) =>
    if inLet && binding ≠ .calculation then return none
    else return some (binding, (← operator spelling) ++ (← operand))
  | none =>
    if ← ahead (.word "as") then
      return some (.cast, (← word "as") ++ (← g.castType))
    else if ← aheadBut ":" "::" then
      return some (.cast, (← operator ":") ++ (← g.castType))
    else if inLet then return none
    else if (← aheadBut "=" "==") && !(← ahead (.operator "=>")) then
      return some (.assignment, (← operator "=") ++ (← operand))
    else if ← ahead (.operator "..") then
      let range ← rangeOperator
      if ← rangeEnded allowStruct then return some (.range, range)
      else return some (.range, range ++ (← operand))
    else return none

def operations (allowStruct inLet : Bool) : Parser (List (Binding × Tokens)) := do
  collect (g.operation? allowStruct inLet) ((← rest).length + 1)

/-- Whether attributes in front of operations belong to the first operand, rather than to a cast of
it or to a range that it is part of. -/
def reachFirst (found : List (Binding × Tokens)) : Bool :=
  found.head?.all (·.1 ≠ .cast) &&
    (found.find? fun (binding, _) => binding = .assignment || binding = .range).all
      (·.1 ≠ .range)

/-- An operand and the operations on it. They are verbatim if attributes in front of them are lost.
-/
def operate (first : Operand) (found : List (Binding × Tokens)) : Operand :=
  if found.isEmpty then first
  else
    ⟨first.tokens ++ found.flatMap (·.2),
      if first.kind = .verbatim && reachFirst found then .verbatim else .ordinary⟩

/-- Attributes in front of an operand, unless it takes none. -/
def attributed (attributes : Tokens) (operand : Operand) : Operand :=
  if operand.kind = .verbatim then operand
  else { operand with tokens := attributes ++ operand.tokens }

/-- An expression at the start of a statement or an arm. One that ends a statement goes on only
where a point or a question mark follows. -/
def earlyOperand : Parser Operand := do
  let attributes ← attributeTokens
  match ← g.blockLike? with
  | some first =>
    if (← aheadBut "." "..") || (← ahead (.operator "?")) then
      let whole ← g.withTrailers first
      return operate (attributed attributes whole) (← g.operations true false)
    else return attributed attributes first
  | none =>
    let first ← g.unary true
    return operate (attributed attributes first) (← g.operations true false)

def expressionTokens (allowStruct : Bool) : Parser Tokens := do
  return (operate (← g.unary allowStruct) (← g.operations allowStruct false)).tokens

def letOperand : Parser Tokens := do
  return (operate (← g.unary false) (← g.operations false true)).tokens

end TypedQuery.Grammar
