import TypedQuery.Token.Display

/-!
Types as they are written. Only paths have parts that a declaration depends on; of the others the
grammar tells two kinds apart, and all are the tokens that spell them.
-/

namespace TypedQuery

/-- One argument in angle brackets. Printing puts lifetimes before all others. -/
inductive GenericArgument (τ : Type) where
  | lifetime (tokens : List Token)
  | type (t : τ)
  | other (tokens : List Token)
  deriving Repr

inductive Arguments (τ : Type) where
  | none
  /-- Arguments in angle brackets, after `::` if `turbofish`, and with a last comma if
  `trailing`. -/
  | angle (turbofish : Bool) (args : List (GenericArgument τ)) (trailing : Bool)
  /-- Arguments in parentheses, and the type after an arrow. -/
  | parenthesized (tokens : List Token)
  deriving Repr

inductive TypeExpr where
  /-- A path: the tokens before its last name, that name, and its arguments. -/
  | path (qualifier : List Token) (name : String) (arguments : Arguments TypeExpr)
  /-- A single bound that stands as a type, perhaps in parentheses of its own. -/
  | bound (inner : List Token) (enclosed : Bool)
  /-- A type in parentheses. -/
  | parenthesized (inner : List Token)
  | verbatim (tokens : List Token)
  deriving Repr

namespace TypeExpr

instance : Inhabited TypeExpr := ⟨.verbatim []⟩

/-- A type that is a single name. -/
def named (name : String) : TypeExpr := .path [] name .none

def comma : List Token := Token.operator ","

mutual

def tokens : TypeExpr → List Token
  | path qualifier name arguments => qualifier ++ .ident name :: argumentTokens arguments
  | bound inner enclosed => if enclosed then [.group .parenthesis inner] else inner
  | parenthesized inner => [.group .parenthesis inner]
  | verbatim ts => ts

def argumentTokens : Arguments TypeExpr → List Token
  | .none => []
  | .angle turbofish args trailing =>
    let (lifetimes, separated) := lifetimeTokens args trailing
    (if turbofish then Token.operator "::" else []) ++ Token.operator "<" ++ lifetimes ++
      otherTokens args trailing separated ++ Token.operator ">"
  | .parenthesized ts => ts

/-- The lifetimes among the arguments with their commas, and whether a comma or nothing ends
them. -/
def lifetimeTokens : List (GenericArgument TypeExpr) → (trailing : Bool) → List Token × Bool
  | [], _ => ([], true)
  | a :: rest, trailing =>
    let (ts, separated) := lifetimeTokens rest trailing
    match a with
    | .lifetime l =>
      let hasComma := !rest.isEmpty || trailing
      (l ++ (if hasComma then comma else []) ++ ts, if ts.isEmpty then hasComma else separated)
    | .type _ | .other _ => (ts, separated)

/-- The arguments that are no lifetimes with their commas; `separated` says that a comma or nothing
stands before them. -/
def otherTokens : List (GenericArgument TypeExpr) → (trailing separated : Bool) → List Token
  | [], _, _ => []
  | a :: rest, trailing, separated =>
    let hasComma := !rest.isEmpty || trailing
    match a with
    | .lifetime _ => otherTokens rest trailing separated
    | .type t =>
      (if separated then [] else comma) ++ t.tokens ++ (if hasComma then comma else []) ++
        otherTokens rest trailing hasComma
    | .other ts =>
      (if separated then [] else comma) ++ ts ++ (if hasComma then comma else []) ++
        otherTokens rest trailing hasComma

end

/-- The spelling of a type in error messages. -/
def spelling (t : TypeExpr) : String := Token.compact t.tokens

/-- The name of a type that is nothing but a name. -/
def name? : TypeExpr → Option String
  | path [] name .none => some name
  | _ => none

def isNamed (t : TypeExpr) (name : String) : Bool := t.name? = some name

end TypeExpr

namespace GenericArgument

def type? : GenericArgument TypeExpr → Option TypeExpr
  | type t => some t
  | _ => none

end GenericArgument

/-- The last name of a type and its type arguments; lifetimes and other arguments do not count. A
type with arguments in parentheses has no constructor, nor has one that is no path. -/
def TypeExpr.constructor? : TypeExpr → Option (String × List TypeExpr)
  | path _ name .none => some (name, [])
  | path _ name (.angle _ args _) => some (name, args.filterMap GenericArgument.type?)
  | path _ _ (.parenthesized _) | bound .. | parenthesized _ | verbatim _ => none

end TypedQuery
