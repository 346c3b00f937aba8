import TypedQuery.Program.Emit
import TypedQuery.Program.Print
import TypedQuery.Text.Identifier

/-!
Scopes of generated code. A scope collects tokens, and all scopes that were forked from one another
count their temporaries together.
-/

namespace TypedQuery

/-- Scopes by their number, with the tokens of each that is still open. -/
structure Scopes where
  names : Names
  next : Nat
  emitted : List (Option Tokens)

namespace Scopes

/-- One empty scope. -/
def start (names : Names) : Scopes := ⟨names, 0, [some []]⟩

/-- A new temporary. Its name does not tell which scope made it. -/
def temporary (s : Scopes) (stem : String) : Var × Scopes :=
  let (v, next) := (fresh stem).run s.next
  (v, { s with next })

/-- Add tokens to a scope. -/
def push (s : Scopes) (scope : Nat) (ts : Tokens) : Scopes :=
  { s with emitted := s.emitted.modify scope (·.map (· ++ ts)) }

/-- A new empty scope, and its number. -/
def fork (s : Scopes) : Nat × Scopes :=
  (s.emitted.length, { s with emitted := s.emitted ++ [some []] })

/-- Close a scope and take its tokens, if it is open. -/
def take? (s : Scopes) (scope : Nat) : Option Tokens × Scopes :=
  ((s.emitted[scope]?).join, { s with emitted := s.emitted.set scope none })

end Scopes

/-- Whether the name of a variable is an identifier. -/
def Var.isValid (v : Var) : Bool := Text.isIdentifier v.name

end TypedQuery
