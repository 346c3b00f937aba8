import TypedQuery.Text.Blank
import TypedQuery.Token.Lexer

namespace TypedQuery

/-- A string literal as it is written, with its quotes, its escapes and perhaps a suffix. -/
structure StringLiteral where
  text : String
  deriving DecidableEq, Repr, Inhabited

namespace StringLiteral

open Text Lexer

/-- The value of the digits of `\u`, and what follows the closing brace. -/
def unicodeEscape : List Char → (value : Nat) → Nat × List Char
  | [], value => (value, [])
  | '}' :: rest, value => (value, rest)
  | c :: rest, value =>
    unicodeEscape rest (match hexValue? c with | some d => value * 16 + d | none => value)

/-- The character that an escape denotes, and what follows it. -/
def escaped : List Char → Char × List Char
  | 'n' :: rest => ('\n', rest)
  | 'r' :: rest => ('\r', rest)
  | 't' :: rest => ('\t', rest)
  | '0' :: rest => ('\x00', rest)
  | 'x' :: high :: low :: rest =>
    (Char.ofNat ((hexValue? high).getD 0 * 16 + (hexValue? low).getD 0), rest)
  | 'u' :: '{' :: rest =>
    let (value, rest) := unicodeEscape rest 0
    (Char.ofNat value, rest)
  | c :: rest => (c, rest)
  | [] => ('\\', [])

/-- The text up to the closing quote. A backslash at the end of a line joins it with what follows
the white space after it, and line ends are line feeds. -/
def cooked : Nat → List Char → List Char
  | 0, _ => []
  | fuel + 1, cs =>
    match cs with
    | [] | '"' :: _ => []
    | '\\' :: '\n' :: rest => cooked fuel (rest.dropWhile isBlank)
    | '\\' :: '\r' :: rest => cooked fuel (rest.dropWhile isBlank)
    | '\\' :: rest =>
      let (c, rest) := escaped rest
      c :: cooked fuel rest
    | '\r' :: '\n' :: rest => '\n' :: cooked fuel rest
    | c :: rest => c :: cooked fuel rest

/-- The text up to a quote that is followed by the given hashes. -/
def verbatim (hashes : List Char) : List Char → List Char
  | [] => []
  | '"' :: rest => if hashes.isPrefixOf rest then [] else '"' :: verbatim hashes rest
  | c :: rest => c :: verbatim hashes rest

/-- The text that a literal denotes; a suffix is no part of it. -/
def value (s : StringLiteral) : String :=
  match s.text.toList with
  | '"' :: rest => String.ofList (cooked rest.length rest)
  | 'r' :: rest =>
    let hashes := rest.takeWhile (· = '#')
    String.ofList (verbatim hashes (rest.drop (hashes.length + 1)))
  | _ => ""

/-- The literal that a token spells, if it spells a string. -/
def ofText? (text : String) : Option StringLiteral :=
  match text.toList with
  | '"' :: _ | 'r' :: _ => some ⟨text⟩
  | _ => none

def token (s : StringLiteral) : Token := .literal s.text

end StringLiteral

end TypedQuery
