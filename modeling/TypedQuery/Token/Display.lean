import TypedQuery.Token.Basic

/-!
Tokens as text: separated by single spaces, but nothing follows a joint character, and only braces
are padded inside.
-/

namespace TypedQuery.Token

def Delimiter.opening : Delimiter → String
  | .parenthesis => "("
  | .brace => "\x7b "
  | .bracket => "["

def Delimiter.closing : Delimiter → String
  | .parenthesis => ")"
  | .brace => "\x7d"
  | .bracket => "]"

/-- What separates a token from the next one. -/
def separator : Token → String
  | punct _ true => ""
  | _ => " "

mutual

def text : Token → String
  | ident s => s
  | punct c _ => c.toString
  | literal s => s
  | group delimiter inner =>
    let padding := if delimiter = .brace ∧ inner ≠ [] then " " else ""
    Delimiter.opening delimiter ++ textList inner ++ padding ++ Delimiter.closing delimiter

def textList : List Token → String
  | [] => ""
  | [t] => t.text
  | t :: u :: rest => t.text ++ t.separator ++ textList (u :: rest)

end

/-- The spelling of tokens without the spaces in it, as error messages name a type. -/
def compact (ts : List Token) : String :=
  String.ofList ((textList ts).toList.filter (· ≠ ' '))

end TypedQuery.Token
