import TypedQuery.Token.Lexer

namespace TypedQuery

inductive NumberLiteral where
  | integer (value : Nat) (suffix : String)
  /-- A number with a point or an exponent. -/
  | fraction
  deriving DecidableEq, Repr

namespace NumberLiteral

open Lexer

/-- Whether an exponent follows its letter: a sign or a digit, perhaps after underscores. -/
def exponentAhead (cs : List Char) : Bool :=
  (cs.dropWhile (· = '_')).head?.any fun c => c.isDigit || c = '+' || c = '-'

/-- The number whose digits so far have the given value. A letter that is no digit starts a
suffix. -/
def ofDigits (base : Nat) : List Char → (value : Nat) → NumberLiteral
  | [], value => integer value ""
  | c :: rest, value =>
    if c = '_' then ofDigits base rest value
    else if c = '.' then fraction
    else if base = 10 && (c = 'e' || c = 'E') && exponentAhead rest then fraction
    else
      match hexValue? c with
      | some d =>
        if d < base then ofDigits base rest (value * base + d)
        else integer value (String.ofList (c :: rest))
      | none => integer value (String.ofList (c :: rest))

/-- The number that a literal spells, if it spells one. -/
def ofText? (text : String) : Option NumberLiteral :=
  match text.toList with
  | '0' :: 'x' :: rest => some (ofDigits 16 rest 0)
  | '0' :: 'o' :: rest => some (ofDigits 8 rest 0)
  | '0' :: 'b' :: rest => some (ofDigits 2 rest 0)
  | c :: rest => if c.isDigit then some (ofDigits 10 (c :: rest) 0) else none
  | [] => none

end NumberLiteral

end TypedQuery
