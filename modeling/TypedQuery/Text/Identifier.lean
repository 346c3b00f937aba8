import TypedQuery.Text.IdentifierTable

/-!
Identifiers: a letter or an underscore, followed by letters, digits, marks and underscores. A text
with the mark `r#` in front is an identifier too, and a different one.
-/

namespace TypedQuery.Text

def isIdentifierStart (c : Char) : Bool :=
  if c.toNat < 128 then c.isAlpha || c = '_' else within identifierStart c

def isIdentifierContinue (c : Char) : Bool :=
  if c.toNat < 128 then c.isAlphanum || c = '_' else within identifierContinue c

/-- Whether a text without the mark `r#` spells an identifier. -/
def isIdentifier (s : String) : Bool :=
  match s.toList with
  | [] => false
  | c :: rest => isIdentifierStart c && rest.all isIdentifierContinue

end TypedQuery.Text
