import TypedQuery.Text.Blank
import TypedQuery.Text.Identifier
import TypedQuery.Text.Quoted
import TypedQuery.Token.Basic

/-!
From text to tokens. A scanner takes the characters ahead and gives those after what it accepts,
or `none`. Comments vanish, except that documentation comments become attributes.
-/

namespace TypedQuery.Lexer

open Text

/-- A scanner gives the characters that remain. -/
abbrev Scanner := List Char → Option (List Char)

/-- The text that was scanned to get from `before` to `after`. -/
def scanned (before after : List Char) : String :=
  String.ofList (before.take (before.length - after.length))

def startsWith (spelling : String) (cs : List Char) : Bool := spelling.toList.isPrefixOf cs

/-- An identifier without mark. -/
def identifierBody : Scanner
  | c :: rest => if isIdentifierStart c then some (rest.dropWhile isIdentifierContinue) else none
  | [] => none

/-- A suffix of a literal, if there is one. -/
def literalSuffix (cs : List Char) : List Char := (identifierBody cs).getD cs

/-- Kinds of quoted literals: they differ in the characters and escapes that they allow. -/
inductive Quotation where
  | text
  | bytes
  | terminated
  deriving DecidableEq

def hexValue? (c : Char) : Option Nat :=
  if '0' ≤ c ∧ c ≤ '9' then some (c.toNat - '0'.toNat)
  else if 'a' ≤ c ∧ c ≤ 'f' then some (c.toNat - 'a'.toNat + 10)
  else if 'A' ≤ c ∧ c ≤ 'F' then some (c.toNat - 'A'.toNat + 10)
  else none

/-- Digits and closing brace of a character code of at most six digits: its value, if that is a
character, and the rest. -/
def codePoint : List Char → (value digits : Nat) → Option (Nat × List Char)
  | [], _, _ => none
  | c :: rest, value, digits =>
    match hexValue? c with
    | some d => if digits = 6 then none else codePoint rest (value * 16 + d) (digits + 1)
    | none =>
      if digits = 0 then none
      else if c = '_' then codePoint rest value digits
      else if c = '}' ∧ value.isValidChar then some (value, rest)
      else none

/-- White space after a backslash at the end of a line. A carriage return must be followed by a
line feed, and something must follow. -/
def continuation : Scanner
  | [] => none
  | '\r' :: '\n' :: rest => continuation rest
  | '\r' :: _ => none
  | c :: rest => if c = ' ' ∨ c = '\t' ∨ c = '\n' then continuation rest else some (c :: rest)

/-- Whether the two digits of a byte escape may stand in a literal of this kind. -/
def allowsByte (kind : Quotation) (high low : Char) : Bool :=
  match hexValue? high, hexValue? low with
  | some h, some l =>
    match kind with
    | .text => h < 8
    | .bytes => true
    | .terminated => h ≠ 0 || l ≠ 0
  | _, _ => false

def allowsChar (kind : Quotation) (c : Char) : Bool :=
  match kind with
  | .text => true
  | .bytes => c.toNat < 128
  | .terminated => c ≠ '\x00'

/-- What follows a backslash. -/
def escapeSequence (kind : Quotation) : Scanner
  | 'x' :: high :: low :: rest => if allowsByte kind high low then some rest else none
  | 'u' :: '{' :: rest =>
    if kind = .bytes then none
    else
      match codePoint rest 0 0 with
      | some (value, rest) => if kind = .terminated ∧ value = 0 then none else some rest
      | none => none
  | '\n' :: rest => continuation rest
  | '\r' :: rest => continuation ('\r' :: rest)
  | c :: rest =>
    if "nrt\\'\"".toList.contains c ∨ c = '0' ∧ kind ≠ .terminated then some rest else none
  | [] => none

/-- The characters of a quoted literal and its closing quote. -/
def quotedBody (kind : Quotation) : Nat → Scanner
  | 0, _ => none
  | fuel + 1, cs =>
    match cs with
    | [] => none
    | '"' :: rest => some rest
    | '\\' :: rest =>
      match escapeSequence kind rest with
      | some rest => quotedBody kind fuel rest
      | none => none
    | '\r' :: '\n' :: rest => quotedBody kind fuel rest
    | '\r' :: _ => none
    | c :: rest => if allowsChar kind c then quotedBody kind fuel rest else none

/-- The characters of a raw literal, its closing quote and as many hashes as opened it. -/
def rawBody (kind : Quotation) (hashes : List Char) : Scanner
  | [] => none
  | '"' :: rest =>
    if hashes.isPrefixOf rest then some (rest.drop hashes.length) else rawBody kind hashes rest
  | '\r' :: '\n' :: rest => rawBody kind hashes rest
  | '\r' :: _ => none
  | c :: rest => if allowsChar kind c then rawBody kind hashes rest else none

/-- A raw literal after the letter that starts it. -/
def raw (kind : Quotation) (cs : List Char) : Option (List Char) :=
  let hashes := cs.takeWhile (· = '#')
  match cs.drop hashes.length with
  | '"' :: rest =>
    if hashes.length > 255 then none else (rawBody kind hashes rest).map literalSuffix
  | _ => none

def quoted (kind : Quotation) (cs : List Char) : Option (List Char) :=
  (quotedBody kind cs.length cs).map literalSuffix

/-- A string, byte string or terminated string, quoted or raw. -/
def stringLiteral : Scanner
  | '"' :: rest => quoted .text rest
  | 'r' :: rest => raw .text rest
  | 'b' :: '"' :: rest => quoted .bytes rest
  | 'b' :: 'r' :: rest => raw .bytes rest
  | 'c' :: '"' :: rest => quoted .terminated rest
  | 'c' :: 'r' :: rest => raw .terminated rest
  | _ => none

/-- One character or escape between single quotes, from after the opening one. -/
def charBody (kind : Quotation) (cs : List Char) : Option (List Char) :=
  let after :=
    match cs with
    | '\\' :: '\n' :: _ => none
    | '\\' :: '\r' :: _ => none
    | '\\' :: rest => escapeSequence kind rest
    | c :: rest => if kind = .text ∨ c.toNat < 128 then some rest else none
    | [] => none
  match after with
  | some ('\'' :: rest) => some (literalSuffix rest)
  | _ => none

def charLiteral : Scanner
  | '\'' :: rest => charBody .text rest
  | 'b' :: '\'' :: rest => charBody .bytes rest
  | _ => none

def isDigitOrUnderscore (c : Char) : Bool := c.isDigit || c = '_'

/-- The exponent of a number after its letter. Without a digit in it the number ends before the
letter, which is possible only after a point. -/
def exponent (before : Option (List Char)) (cs : List Char) : Option (List Char) :=
  let digits := cs.dropWhile (· = '_')
  let digits :=
    match digits with
    | '+' :: rest | '-' :: rest => rest
    | _ => digits
  let rest := digits.dropWhile isDigitOrUnderscore
  if (digits.take (digits.length - rest.length)).any Char.isDigit then some rest else before

/-- Digits with a point, an exponent or both. -/
def floatBody (cs : List Char) : Option (List Char) :=
  match cs with
  | c :: rest =>
    if c.isDigit then
      match rest.dropWhile isDigitOrUnderscore with
      | '.' :: fraction =>
        if fraction.head?.any fun d => d = '.' || isIdentifierStart d then none
        else
          match fraction.dropWhile isDigitOrUnderscore with
          | 'e' :: rest => exponent (some ('e' :: rest)) rest
          | 'E' :: rest => exponent (some ('E' :: rest)) rest
          | rest => some rest
      | 'e' :: rest => exponent none rest
      | 'E' :: rest => exponent none rest
      | _ => none
    else none
  | [] => none

/-- Digits of an integer in its base: at least one, and none too large. Letters end the digits
where they are none of the base. -/
def digitsIn (base : Nat) : List Char → (found : Bool) → Option (List Char)
  | [], found => if found then some [] else none
  | c :: rest, found =>
    if c = '_' then if !found && base = 10 then none else digitsIn base rest found
    else
      match hexValue? c with
      | some d =>
        if d < base then digitsIn base rest true
        else if c.isDigit then none
        else if found then some (c :: rest)
        else none
      | none => if found then some (c :: rest) else none

def integerBody : Scanner
  | '0' :: 'x' :: rest => digitsIn 16 rest false
  | '0' :: 'o' :: rest => digitsIn 8 rest false
  | '0' :: 'b' :: rest => digitsIn 2 rest false
  | cs => digitsIn 10 cs false

/-- A number takes an identifier right after it as its suffix. -/
def number (body : Scanner) (cs : List Char) : Option (List Char) :=
  match body cs with
  | some rest =>
    let rest := literalSuffix rest
    if rest.head?.any isIdentifierContinue then none else some rest
  | none => none

/-- Any literal. -/
def literal (cs : List Char) : Option (List Char) :=
  stringLiteral cs <|> charLiteral cs <|> number floatBody cs <|> number integerBody cs

/-- A name, perhaps with the mark `r#`, which the names of path roots cannot have. -/
def name : Scanner
  | 'r' :: '#' :: body =>
    match identifierBody body with
    | some rest =>
      if ["_", "super", "self", "Self", "crate"].contains (scanned body rest) then none
      else some rest
    | none => none
  | cs => identifierBody cs

/-- An identifier: a name that is not the start of a quoted literal. -/
def identifier (cs : List Char) : Option (List Char) :=
  let starts := ["r\"", "r#\"", "r##", "b\"", "b'", "br\"", "br#", "c\"", "cr\"", "cr#"]
  if starts.any (startsWith · cs) then none else name cs

def punctuation : List Char := "~!@#$%^&*-=+|;:,<.>/?'".toList

def isComment (cs : List Char) : Bool := startsWith "//" cs || startsWith "/*" cs

/-- Whether a punctuation character comes next. -/
def punctuationAhead (cs : List Char) : Bool :=
  !isComment cs && cs.head?.any punctuation.contains

/-- Whether a single quote followed by these characters is the mark of a lifetime: its name must not
end in another quote, nor run into a hash that is not part of the mark `r#`. -/
def lifetimeAhead (cs : List Char) : Bool :=
  match name cs with
  | some ('\'' :: _) | none => false
  | some ('#' :: _) => startsWith "r#" cs
  | some _ => true

/-- One punctuation character. A single quote is one only in front of a lifetime's name. -/
def punct (cs : List Char) : Option (Token × List Char) :=
  if punctuationAhead cs then
    match cs with
    | '\'' :: rest => if lifetimeAhead rest then some (.punct '\'' true, rest) else none
    | c :: rest => some (.punct c (punctuationAhead rest), rest)
    | [] => none
  else none

/-- One token that is no group. -/
def leaf (cs : List Char) : Option (Token × List Char) :=
  match literal cs with
  | some rest => some (.literal (scanned cs rest), rest)
  | none =>
    match punct cs with
    | some found => some found
    | none => (identifier cs).map fun rest => (.ident (scanned cs rest), rest)

/-- The characters up to the end of the line and those after its end. -/
def line : List Char → List Char × List Char
  | [] => ([], [])
  | '\n' :: rest => ([], '\n' :: rest)
  | '\r' :: '\n' :: rest => ([], '\n' :: rest)
  | c :: rest => let (text, after) := line rest; (c :: text, after)

/-- The rest of a block comment that is `depth` deep after its last opening. -/
def blockRest : Nat → List Char → Option (List Char)
  | depth, '/' :: '*' :: rest => blockRest (depth + 1) rest
  | 0, '*' :: '/' :: rest => some rest
  | depth + 1, '*' :: '/' :: rest => blockRest depth rest
  | depth, _ :: rest => blockRest depth rest
  | _, [] => none

/-- The inside of a block comment and what follows it. -/
def block (cs : List Char) : Option (List Char × List Char) :=
  match cs with
  | '/' :: '*' :: rest =>
    (blockRest 0 rest).map fun after => (rest.take (rest.length - after.length - 2), after)
  | _ => none

/-- Skip white space and comments that document nothing. -/
def skipBlank : Nat → List Char → List Char
  | 0, cs => cs
  | fuel + 1, cs =>
    if startsWith "//" cs && (!startsWith "///" cs || startsWith "////" cs)
        && !startsWith "//!" cs then
      skipBlank fuel (line cs).2
    else if startsWith "/**/" cs then skipBlank fuel (cs.drop 4)
    else if startsWith "/*" cs && (!startsWith "/**" cs || startsWith "/***" cs)
        && !startsWith "/*!" cs then
      match block cs with
      | some (_, rest) => skipBlank fuel rest
      | none => cs
    else
      match cs with
      | c :: rest =>
        if isBlank c || c = '\u200e' || c = '\u200f' then skipBlank fuel rest else cs
      | [] => []

/-- A documentation comment: whether it documents what it stands in, its text, and the rest. -/
def documentation (cs : List Char) : Option (Bool × List Char × List Char) :=
  let found :=
    if startsWith "//!" cs then
      let (text, rest) := line (cs.drop 3)
      some (true, text, rest)
    else if startsWith "/*!" cs then
      (block cs).map fun (text, rest) => (true, text.drop 1, rest)
    else if startsWith "///" cs then
      if startsWith "////" cs then none
      else
        let (text, rest) := line (cs.drop 3)
        some (false, text, rest)
    else if startsWith "/**" cs && !startsWith "/***" cs then
      (block cs).map fun (text, rest) => (false, text.drop 1, rest)
    else none
  found.filter fun (_, text, _) => !hasBareReturn text
where
  /-- Whether a carriage return stands without a line feed after it. -/
  hasBareReturn : List Char → Bool
    | [] => false
    | '\r' :: '\n' :: rest => hasBareReturn rest
    | '\r' :: _ => true
    | _ :: rest => hasBareReturn rest

/-- The attribute that a documentation comment stands for. -/
def documentationTokens (inner : Bool) (text : List Char) : List Token :=
  .punct '#' false :: (if inner then [.punct '!' false] else []) ++
    [.group .bracket
      [.ident "doc", .punct '=' false, .literal (quote (String.ofList text))]]

def opening? : Char → Option Delimiter
  | '(' => some .parenthesis
  | '[' => some .bracket
  | '{' => some .brace
  | _ => none

def closing? : Char → Option Delimiter
  | ')' => some .parenthesis
  | ']' => some .bracket
  | '}' => some .brace
  | _ => none

/-- The literal that stands for a token that could not be read. -/
def unreadMark : String := "(/*ERROR*/)"

/-- Read tokens to the end. `found` holds those of the current group, last first, and `outer` the
groups around it with the tokens before them. -/
def readTokens : Nat → List Char → (found : List Token) →
    (outer : List (Delimiter × List Token)) → Option (List Token)
  | 0, _, _, _ => none
  | fuel + 1, cs, found, outer =>
    let cs := skipBlank cs.length cs
    match documentation cs with
    | some (inner, text, rest) =>
      readTokens fuel rest ((documentationTokens inner text).reverse ++ found) outer
    | none =>
      match cs with
      | [] => if outer.isEmpty then some found.reverse else none
      | c :: rest =>
        match opening? c, closing? c with
        | some delimiter, _ =>
          if startsWith unreadMark cs then
            readTokens fuel (cs.drop unreadMark.length) (.literal unreadMark :: found) outer
          else readTokens fuel rest [] ((delimiter, found) :: outer)
        | none, some delimiter =>
          match outer with
          | (expected, before) :: outer =>
            if expected = delimiter then
              readTokens fuel rest (.group delimiter found.reverse :: before) outer
            else none
          | [] => none
        | none, none =>
          match leaf cs with
          | some (token, rest) => readTokens fuel rest (token :: found) outer
          | none => none

/-- The tokens of a text, or `none` if it has no tokens or its delimiters do not match. A byte
order mark at the start is ignored. -/
def tokens (source : String) : Option (List Token) :=
  let cs :=
    match source.toList with
    | '\uFEFF' :: rest => rest
    | cs => cs
  readTokens (cs.length + 1) cs [] []

end TypedQuery.Lexer
