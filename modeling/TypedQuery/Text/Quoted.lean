import TypedQuery.Text.PrintableTable

namespace TypedQuery.Text

/-- Lower-case hexadecimal digits without leading zeros. -/
def hexDigits (n : Nat) : List Char := Nat.toDigits 16 n

/-- Whether a character would not show as itself inside quotes. -/
def isHidden (c : Char) : Bool :=
  if c.toNat < 128 then c.toNat < 32 || c.toNat = 127
  else within extending c || within unprintable c

/-- The spelling of a character inside quotes, given the character after it. A digit after NUL must
not be read as part of its escape. -/
def escapeChar (c : Char) (following : Option Char) : List Char :=
  if c = '\x00' then
    if following.any fun d => '0' ≤ d && d ≤ '7' then ['\\', 'x', '0', '0'] else ['\\', '0']
  else if c = '\t' then ['\\', 't']
  else if c = '\r' then ['\\', 'r']
  else if c = '\n' then ['\\', 'n']
  else if c = '"' then ['\\', '"']
  else if c = '\\' then ['\\', '\\']
  else if isHidden c then ['\\', 'u', '{'] ++ hexDigits c.toNat ++ ['}']
  else [c]

def escape : List Char → List Char
  | [] => []
  | c :: rest => escapeChar c rest.head? ++ escape rest

/-- A string literal with the given value. -/
def quote (s : String) : String := String.ofList ('"' :: escape s.toList ++ ['"'])

end TypedQuery.Text
