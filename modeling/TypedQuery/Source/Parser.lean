import TypedQuery.Source.Error
import TypedQuery.Token.Literal
import TypedQuery.Token.Number

/-!
Parsers over tokens. A parser sees the tokens up to the end of the group that it is in; a group that
is left before its end is remembered and reported once all else is read.
-/

namespace TypedQuery

/-- The tokens ahead, and whether a group was left with tokens in it. -/
structure Ahead where
  rest : List Token
  stray : Bool

abbrev Tokens := List Token

/-- What a parser leaves ahead is an end of what it found there. -/
structure Parser (α : Type) where
  run : Ahead → Except SourceError (α × Ahead)
  keeps : ∀ {s a t}, run s = .ok (a, t) → t.rest <:+ s.rest

/-- Words that cannot be names. -/
def reservedWords : List String := [
  "_", "abstract", "as", "become", "box", "break", "const", "continue", "crate", "do", "else",
  "enum", "extern", "false", "final", "fn", "for", "if", "impl", "in", "let", "loop", "macro",
  "match", "mod", "move", "mut", "override", "priv", "pub", "ref", "return", "Self", "self",
  "static", "struct", "super", "trait", "true", "type", "typeof", "unsafe", "unsized", "use",
  "virtual", "where", "while", "yield"]

namespace Tokens

/-- Whether an operator comes next. All its characters but the last must be joint. -/
def startWith : List Char → Tokens → Bool
  | [c], .punct d _ :: _ => c = d
  | c :: more, .punct d true :: rest => c = d && startWith more rest
  | _, _ => false

/-- The literal ahead: a truth value is one too, and so is a negative number. -/
def literal? : Tokens → Option Tokens
  | .literal text :: _ => some [.literal text]
  | .ident "true" :: _ => some [.ident "true"]
  | .ident "false" :: _ => some [.ident "false"]
  | .punct '-' _ :: .literal text :: _ =>
    if (NumberLiteral.ofText? text).isSome then some [.punct '-' false, .literal text] else none
  | _ => none

/-- The number ahead; the flag says that it is negative. -/
def number? : Tokens → Option (Bool × String)
  | .literal text :: _ => some (false, text)
  | .punct '-' _ :: .literal text :: _ => some (true, text)
  | _ => none

/-- Whether a literal comes next that belongs to no class: a terminated string, or what stands for a
token that could not be read. -/
def unclassifiedAhead : Tokens → Bool
  | .literal text :: _ => text.toList.head?.any fun c => c = 'c' || c = '('
  | _ => false

/-- The tokens after the next one; a lifetime counts as one, and nothing follows the mark of a
lifetime that has no name. -/
def skip : Tokens → Tokens
  | .punct '\'' true :: .ident _ :: rest => rest
  | .punct '\'' true :: _ => []
  | _ :: rest => rest
  | [] => []

end Tokens

namespace Wanted

/-- Whether the tokens start with what is wanted. -/
def isAhead : Wanted → Tokens → Bool
  | word spelling, .ident text :: _ => text = spelling
  | operator spelling, ts => Tokens.startWith spelling.toList ts
  | identifier, .ident text :: _ => !reservedWords.contains text
  | lifetime, .punct '\'' true :: .ident _ :: _ => true
  | literal, ts => (Tokens.literal? ts).isSome
  | stringLiteral, .literal text :: _ => (StringLiteral.ofText? text).isSome
  | group delimiter, .group found _ :: _ => found = delimiter
  | _, _ => false

/-- Whether the class of a literal is asked for. -/
def isLiteralClass (w : Wanted) : Bool := w = literal || w = stringLiteral

end Wanted

namespace Parser

instance : Monad Parser where
  pure a :=
    { run := fun s => .ok (a, s)
      keeps := by
        rintro s a t ⟨⟩
        exact List.suffix_refl _ }
  bind p f :=
    { run := fun s =>
        match p.run s with
        | .ok (a, t) => (f a).run t
        | .error e => .error e
      keeps := by
        intro s b u h
        split at h
        · rename_i a t hFirst
          exact ((f a).keeps h).trans (p.keeps hFirst)
        · cases h }

instance : MonadExceptOf SourceError Parser where
  throw e := ⟨fun _ => .error e, nofun⟩
  tryCatch p handle :=
    { run := fun s =>
        match p.run s with
        | .ok found => .ok found
        | .error e => (handle e).run s
      keeps := by
        intro s a t h
        split at h
        · cases h
          exact p.keeps ‹_›
        · exact (handle _).keeps h }

instance : MonadLift (Except SourceError) Parser where
  monadLift outcome :=
    { run := fun s =>
        match outcome with
        | .ok a => .ok (a, s)
        | .error e => .error e
      keeps := by
        intro s a t h
        split at h
        · cases h
          exact List.suffix_refl _
        · cases h }

def rest : Parser Tokens where
  run s := .ok (s.rest, s)
  keeps := by
    rintro s a t ⟨⟩
    exact List.suffix_refl _

/-- Pass over some tokens. The flag says that tokens were left in a group among them. -/
def pass (count : Nat) (stray : Bool) : Parser Unit where
  run s := .ok ((), ⟨s.rest.drop count, s.stray || stray⟩)
  keeps := by
    rintro s a t ⟨⟩
    exact List.drop_suffix _ _

def advance (count : Nat) : Parser Unit := pass count false

def atEnd : Parser Bool := return (← rest).isEmpty

/-- Whether some tokens start with what is wanted. A literal must belong to a class where one is
asked for. -/
def sees (w : Wanted) (ts : Tokens) : Parser Bool :=
  if w.isLiteralClass && Tokens.unclassifiedAhead ts then throw .unreported
  else return w.isAhead ts

/-- Whether something comes next, or after one or two more tokens. -/
def ahead (w : Wanted) : Parser Bool := do sees w (← rest)

def ahead2 (w : Wanted) : Parser Bool := do sees w (Tokens.skip (← rest))

def ahead3 (w : Wanted) : Parser Bool := do sees w (Tokens.skip (Tokens.skip (← rest)))

def anyAhead (ws : List Wanted) : Parser Bool := do ws.anyM fun w => do sees w (← rest)

/-- Whether an operator comes next that does not go on as the second one. -/
def aheadBut (spelling longer : String) : Parser Bool :=
  return (← ahead (.operator spelling)) && !(← ahead (.operator longer))

/-- Fail because something was wanted here. -/
def fail {α : Type} (w : Wanted) : Parser α := do throw (.expected [w] (← atEnd))

/-- Fail because none of some alternatives was usable. One that is present is not reported. -/
def failAll {α : Type} (ws : List Wanted) : Parser α := do
  let ts ← rest
  throw (.expected (ws.filter fun w => !w.isAhead ts) ts.isEmpty)

/-- What a parser makes of the tokens ahead, without passing over them. -/
def peek? {α : Type} (p : Parser α) : Parser (Option α) := do
  match p.run ⟨← rest, false⟩ with
  | .ok (a, _) => return some a
  | .error .unreported => throw .unreported
  | .error _ => return none

/-- A given word. -/
def word (spelling : String) : Parser Tokens := do
  match ← rest with
  | .ident text :: _ =>
    if text = spelling then
      advance 1
      return [.ident text]
    else fail (.word spelling)
  | _ => fail (.word spelling)

/-- A given operator. The tokens of the result spell it alone, whatever was joint to it. -/
def operator (spelling : String) : Parser Tokens := do
  if Tokens.startWith spelling.toList (← rest) then
    advance spelling.length
    return Token.operator spelling
  else throw (.expected [.operator spelling] false)

def isWord (text : String) : Bool := !reservedWords.contains text

def identifier : Parser String := do
  match ← rest with
  | .ident text :: _ =>
    if isWord text then
      advance 1
      return text
    else fail .identifier
  | _ => fail .identifier

/-- An identifier or a reserved word. -/
def anyWord : Parser String := do
  match ← rest with
  | .ident text :: _ =>
    advance 1
    return text
  | _ => fail (.construct "ident")

def name : Parser Tokens := return [.ident (← identifier)]

def anyName : Parser Tokens := return [.ident (← anyWord)]

def lifetime : Parser Tokens := do
  match ← rest with
  | .punct '\'' true :: .ident text :: _ =>
    advance 2
    return Token.lifetime text
  | _ => fail .lifetime

def literal : Parser Tokens := do
  let _ ← ahead .literal
  match Tokens.literal? (← rest) with
  | some found =>
    advance found.length
    return found
  | none => fail .literal

def stringLiteral : Parser StringLiteral := do
  let _ ← ahead .stringLiteral
  match ← rest with
  | .literal text :: _ =>
    match StringLiteral.ofText? text with
    | some s =>
      advance 1
      return s
    | none => fail .stringLiteral
  | _ => fail .stringLiteral

/-- Parse the inside of a group. -/
def inside {α : Type} (delimiter : Delimiter) (p : Parser α) : Parser α := do
  match ← rest with
  | .group found inner :: _ =>
    if found = delimiter then
      let (a, t) ← (p.run ⟨inner, false⟩ : Except SourceError (α × Ahead))
      pass 1 (t.stray || !t.rest.isEmpty)
      return a
    else fail (.group delimiter)
  | _ => fail (.group delimiter)

/-- A group with the tokens that a parser makes of its inside. -/
def grouped (delimiter : Delimiter) (p : Parser Tokens) : Parser Tokens :=
  return [.group delimiter (← inside delimiter p)]

/-- All tokens that are left. -/
def everything : Parser Tokens := do
  let ts ← rest
  advance ts.length
  return ts

/-- The tokens between an earlier place and here, as they stand. -/
def since (before : Tokens) : Parser Tokens :=
  return before.take (before.length - (← rest).length)

/-- The tokens that a parser passes over, as they stand. -/
def passed {α : Type} (p : Parser α) : Parser Tokens := do
  let before ← rest
  let _ ← p
  since before

/-- Parsers one after the other. -/
def inTurn (ps : List (Parser Tokens)) : Parser Tokens := return (← ps.mapM id).flatten

/-- A parser that runs only where something comes next. -/
def ifAhead (w : Wanted) (p : Parser Tokens) : Parser Tokens := do
  if ← ahead w then p else return []

def optionalWord (spelling : String) : Parser Tokens := ifAhead (.word spelling) (word spelling)

def optionalOperator (spelling : String) : Parser Tokens :=
  ifAhead (.operator spelling) (operator spelling)

/-- Collect results while the step gives one. No step is taken more often than there are tokens. -/
def collect {α : Type} (step : Parser (Option α)) : Nat → Parser (List α)
  | 0 => return []
  | fuel + 1 => do
    match ← step with
    | some a => return a :: (← collect step fuel)
    | none => return []

/-- Repeat a parser while a test holds. -/
def repeatWhile {α : Type} (test : Parser Bool) (p : Parser α) : Parser (List α) := do
  let step : Parser (Option α) := do
    if ← test then return some (← p) else return none
  collect step ((← rest).length + 1)

/-- Repeat a parser to the end. -/
def repeatToEnd {α : Type} (p : Parser α) : Parser (List α) :=
  repeatWhile (return !(← atEnd)) p

/-- Items with separators between them, and perhaps one after the last. None starts where `stop`
holds, and after an item where `last` holds no separator is read. -/
def separated {α : Type} (separator : String) (stop last : Parser Bool) (item : Parser α) :
    Nat → Parser (List α × Bool)
  | 0 => return ([], false)
  | fuel + 1 => do
    if ← stop then return ([], true)
    let a ← item
    if ← last then return ([a], false)
    let _ ← operator separator
    let (more, trailing) ← separated separator stop last item fuel
    return (a :: more, trailing)

/-- Items up to a stop, with a separator required after each that is not before the stop. -/
def listUntil {α : Type} (separator : String) (stop : Parser Bool) (item : Parser α) :
    Parser (List α × Bool) := do
  separated separator stop stop item ((← rest).length + 1)

/-- Items with commas between them up to the end. -/
def commas {α : Type} (item : Parser α) : Parser (List α × Bool) := listUntil "," atEnd item

/-- Items for as long as a separator follows them and there is no stop after it. -/
def chain {α : Type} (separator : String) (stop : Parser Bool) (item : Parser α) :
    Parser (List α × Bool) := do
  let last : Parser Bool := return !(← ahead (.operator separator))
  separated separator stop last item ((← rest).length + 1)

/-- Items with their separators. A separator after the last one stays. -/
def joined (separator : String) : List Tokens × Bool → Tokens
  | ([], _) => []
  | ([item], trailing) => item ++ (if trailing then Token.operator separator else [])
  | (item :: more, trailing) =>
    item ++ Token.operator separator ++ joined separator (more, trailing)

/-- The tokens of items with commas between them up to the end. -/
def commaTokens (item : Parser Tokens) : Parser Tokens := return joined "," (← commas item)

/-- Parse all of some tokens. -/
def parse {α : Type} (p : Parser α) (ts : Tokens) : Except SourceError α :=
  match p.run ⟨ts, false⟩ with
  | .error e => .error e
  | .ok (a, s) => if s.stray || !s.rest.isEmpty then .error .unexpectedToken else .ok a

/-- Parse a whole text. -/
def parseText {α : Type} (p : Parser α) (text : String) : Except SourceError α :=
  match Lexer.tokens text with
  | none => .error .unreadable
  | some ts => p.parse ts

end Parser

end TypedQuery
