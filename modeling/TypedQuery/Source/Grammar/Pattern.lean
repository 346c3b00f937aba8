import TypedQuery.Source.Grammar.Member
import TypedQuery.Source.Grammar.Type

/-!
The grammar of patterns. A pattern for which there is no finished form stands as it was written: a
range without an upper end, or a struct or tuple of an anchored path.
-/

namespace TypedQuery.Grammar

open TypedQuery.Parser

variable (g : Grammar)

/-- What a pattern can start with, in the order in which errors name it. -/
def patternStarts : List Wanted := [
  .operator "::", .operator "<", .word "_", .literal, .word "const", .word "ref", .word "mut",
  .operator "&", .group .parenthesis, .group .bracket, .operator "..", .word "const"]

/-- Whether another alternative follows. -/
def alternativeAhead : Parser Bool :=
  return (← aheadBut "|" "||") && !(← ahead (.operator "|="))

/-- Patterns with `|` between them. -/
def alternatives : Parser Tokens := do
  let first ← g.pattern
  let others ← repeatWhile alternativeAhead do return (← operator "|") ++ (← g.pattern).tokens
  return first.tokens ++ others.flatten

/-- Alternatives that may also have `|` in front. -/
def leadingAlternatives : Parser Tokens :=
  return (← optionalOperator "|") ++ (← g.alternatives)

/-- The operator of a range; the one with three points is written as its newer form. -/
def rangeOperator : Parser Tokens := do
  if ← ahead (.operator "..=") then operator "..="
  else if ← ahead (.operator "...") then
    let _ ← operator "..."
    return Token.operator "..="
  else operator ".."

/-- An expression in braces that is constant. It stands as it was written. -/
def constantBlock : Parser Tokens := passed (inTurn [word "const", g.body])

/-- What an end of a range can start with, but for a sign. -/
def rangeEndStarts : List Wanted := [
  .literal, .identifier, .operator "::", .operator "<", .word "self", .word "Self", .word "super",
  .word "crate", .word "const"]

/-- An end of a range in a pattern, if there is one. -/
def rangeEnd? : Parser (Option Fragment) := do
  let ended := (← atEnd) ||
    (← anyAhead [.operator "|", .operator "=", .operator ",", .operator ";"]) ||
    (← aheadBut ":" "::")
  if ended then return none
  let sign ← optionalOperator "-"
  if ← ahead .literal then return some ⟨sign ++ (← literal), false⟩
  else if ← ahead (.word "const") then
    return some ⟨sign ++ (← g.constantBlock), sign.isEmpty⟩
  else if ← anyAhead rangeEndStarts then return some ⟨sign ++ (← g.path true).tokens, false⟩
  else failAll rangeEndStarts

/-- The rest of a range after its lower end; `before` are the tokens from there on. -/
def rangeFrom (before low : Tokens) : Parser Fragment := do
  let range ← rangeOperator
  match ← g.rangeEnd? with
  | some high => return ⟨low ++ range ++ high.tokens, false⟩
  | none => return ⟨← since before, true⟩

/-- A member and its pattern, or a name that is bound. -/
def fieldPattern : Parser Tokens := do
  let binding ← inTurn [optionalWord "box", optionalWord "ref", optionalWord "mut"]
  let (field, isNamed) ← member
  if (binding.isEmpty && (← ahead (.operator ":"))) || !isNamed then
    let colon ← optionalOperator ":"
    let pattern ← g.leadingAlternatives
    return if colon.isEmpty then pattern else field ++ colon ++ pattern
  else return binding ++ field

/-- The fields of a struct with their commas; the flag says that attributes stand in front of the
mark of further fields, which ends them. -/
def fieldPatterns : Nat → Parser (Tokens × Bool)
  | 0 => return ([], false)
  | fuel + 1 => do
    if ← atEnd then return ([], false)
    let attributes ← attributeTokens
    if ← ahead (.operator "..") then return (← operator "..", !attributes.isEmpty)
    let field ← g.fieldPattern
    if ← atEnd then return (attributes ++ field, false)
    let comma ← operator ","
    let (others, isMarked) ← fieldPatterns fuel
    return (attributes ++ field ++ comma ++ others, isMarked)

/-- A pattern that starts with a path. -/
def pathPattern : Parser Fragment := do
  let before ← rest
  let p ← g.path true
  let plain (ts : Tokens) : Parser Fragment := do
    if p.anchored then return ⟨← since before, true⟩ else return ⟨p.tokens ++ ts, false⟩
  if !p.anchored && p.bare && (← aheadBut "!" "!=") then
    plain ((← operator "!") ++ (← macroArguments))
  else if ← ahead (.group .brace) then
    let (fields, isMarked) ← inside .brace do g.fieldPatterns ((← rest).length + 1)
    if isMarked then return ⟨← since before, true⟩ else plain [.group .brace fields]
  else if ← ahead (.group .parenthesis) then
    plain (← grouped .parenthesis (commaTokens g.leadingAlternatives))
  else if ← ahead (.operator "..") then g.rangeFrom before p.tokens
  else return ⟨p.tokens, false⟩

/-- A name that is bound, perhaps by reference, and perhaps with a pattern of its own. -/
def namePattern : Parser Tokens := do
  let subpattern : Parser Tokens := return (← operator "@") ++ (← g.pattern).tokens
  inTurn [optionalWord "ref", optionalWord "mut", anyName, ifAhead (.operator "@") subpattern]

/-- Whether a name comes next that goes on as a range: with an upper end, or before something that
can follow a pattern of its own. -/
def namedRangeAhead : Parser Bool := do
  let test : Parser Bool := do
    let _ ← identifier
    let _ ← rangeOperator
    return !((← atEnd) || (← ahead (.operator ",")))
  return (← peek? test).getD false

/-- Whether a name goes on as a path, a macro call or a range. -/
def pathPatternAhead : Parser Bool := do
  let afterName := (← ahead .identifier) &&
    ((← ahead2 (.operator "::")) || (← ahead2 (.operator "!")) || (← ahead2 (.group .brace)) ||
      (← ahead2 (.group .parenthesis)) || (← namedRangeAhead))
  let afterSelf := (← ahead (.word "self")) && (← ahead2 (.operator "::"))
  return afterName || afterSelf || (← anyAhead [.operator "::", .operator "<", .word "Self",
    .word "super", .word "crate"])

/-- A range without a lower end, or the mark of what a pattern leaves out. -/
def openRange : Parser Fragment := do
  let before ← rest
  let range ← rangeOperator
  match ← g.rangeEnd? with
  | some _ => return ⟨← since before, true⟩
  | none =>
    if range = Token.operator ".." then return ⟨range, false⟩
    else fail (.construct "range upper bound")

def patternFragment : Parser Fragment := do
  let plain (p : Parser Tokens) : Parser Fragment := return ⟨← p, false⟩
  if ← pathPatternAhead then g.pathPattern
  else if ← ahead (.word "_") then plain (word "_")
  else if ← ahead (.word "box") then plain do return (← word "box") ++ (← g.pattern).tokens
  else if ← anyAhead [.operator "-", .literal, .word "const"] then
    let before ← rest
    let low := (← g.rangeEnd?).getD ⟨[], false⟩
    if ← ahead (.operator "..") then g.rangeFrom before low.tokens else return low
  else if ← anyAhead [.word "ref", .word "mut", .word "self", .identifier] then
    plain g.namePattern
  else if ← ahead (.operator "&") then
    plain do return (← inTurn [operator "&", optionalWord "mut"]) ++ (← g.pattern).tokens
  else if ← ahead (.group .parenthesis) then
    plain (grouped .parenthesis (commaTokens g.leadingAlternatives))
  else if ← ahead (.group .bracket) then
    plain (grouped .bracket (commaTokens g.leadingAlternatives))
  else if ← aheadBut ".." "..." then g.openRange
  else failAll patternStarts

end TypedQuery.Grammar
