import TypedQuery.Source.Parser

/-!
Members of structs and tuples: names and positions. A position is a plain number, and is written in
decimal whatever its base.
-/

namespace TypedQuery.Parser

/-- The number ahead, if there is one, and whether it is negative. -/
def number? : Parser (Option (Bool × NumberLiteral × String)) := do
  let _ ← ahead .literal
  match Tokens.number? (← rest) with
  | some (isNegative, text) =>
    return (NumberLiteral.ofText? text).map fun found => (isNegative, found, text)
  | none => return none

/-- Pass over a number. -/
def advanceNumber (isNegative : Bool) : Parser Unit := advance (if isNegative then 2 else 1)

/-- The position that an integer stands for. -/
def checkPosition (isNegative : Bool) (value : Nat) (suffix : String) : Except SourceError Token :=
  if suffix ≠ "" then .error .suffixedPosition
  else if isNegative then .error .negativePosition
  else if value < 4294967296 then .ok (.literal (toString value))
  else .error .positionTooLarge

/-- A position. -/
def position : Parser Tokens := do
  match ← number? with
  | some (isNegative, .integer value suffix, _) =>
    let token ← checkPosition isNegative value suffix
    advanceNumber isNegative
    return [token]
  | _ => fail (.construct "integer literal")

/-- A member, and whether it has a name. -/
def member : Parser (Tokens × Bool) := do
  if ← ahead .identifier then return (← name, true)
  else
    match ← number? with
    | some (_, .integer _ _, _) => return (← position, false)
    | _ => fail (.construct "identifier or integer")

/-- The positions that a number with a point between them stands for, with points between them. A
point after the last of them is another one: the flag says that there is none. -/
def positions (isNegative : Bool) (text : String) : Except SourceError (Tokens × Bool) := do
  let parts := text.splitOn "."
  let isDone := parts.getLast? ≠ some ""
  let spelled := if isDone then parts else parts.dropLast
  let signed := spelled.zipIdx.map fun (part, index) =>
    if isNegative && index = 0 then "-" ++ part else part
  let found ← signed.mapM position.parseText
  return (joined "." (found, false), isDone)

end TypedQuery.Parser
