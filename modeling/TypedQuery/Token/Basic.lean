/-!
Source text as tokens. A group holds the tokens between two matching delimiters.
-/

namespace TypedQuery

inductive Delimiter where
  | parenthesis
  | brace
  | bracket
  deriving DecidableEq, Repr, Inhabited

/-- A punctuation character is joint when the next token continues its operator. -/
inductive Token where
  | ident (text : String)
  | punct (c : Char) (joint : Bool)
  | literal (text : String)
  | group (delimiter : Delimiter) (inner : List Token)
  deriving Repr, Inhabited

namespace Token

mutual

def decEq : (a b : Token) → Decidable (a = b)
  | ident s, ident t => decidable_of_iff (s = t) (by simp)
  | punct c i, punct d j => decidable_of_iff (c = d ∧ i = j) (by simp)
  | literal s, literal t => decidable_of_iff (s = t) (by simp)
  | group d xs, group e ys =>
    match decEqList xs ys with
    | isTrue h => decidable_of_iff (d = e) (by simp [h])
    | isFalse h => isFalse (by simp [h])
  | ident _, punct .. | ident _, literal _ | ident _, group .. => isFalse nofun
  | punct .., ident _ | punct .., literal _ | punct .., group .. => isFalse nofun
  | literal _, ident _ | literal _, punct .. | literal _, group .. => isFalse nofun
  | group .., ident _ | group .., punct .. | group .., literal _ => isFalse nofun

def decEqList : (xs ys : List Token) → Decidable (xs = ys)
  | [], [] => isTrue rfl
  | [], _ :: _ | _ :: _, [] => isFalse nofun
  | x :: xs, y :: ys =>
    match decEq x y with
    | isFalse h => isFalse (by simp [h])
    | isTrue h =>
      match decEqList xs ys with
      | isTrue t => isTrue (by rw [h, t])
      | isFalse t => isFalse (by simp [t])

end

instance : DecidableEq Token := decEq

mutual

/-- The number of tokens, counting those inside groups. -/
def size : Token → Nat
  | group _ inner => sizeList inner + 1
  | _ => 1

def sizeList : List Token → Nat
  | [] => 0
  | t :: ts => t.size + sizeList ts

end

/-- The characters of one operator, each joint with the next. -/
def operatorChars : List Char → List Token
  | [] => []
  | [c] => [.punct c false]
  | c :: rest => .punct c true :: operatorChars rest

/-- An operator by its spelling. -/
def operator (spelling : String) : List Token := operatorChars spelling.toList

/-- A lifetime by its name. -/
def lifetime (name : String) : List Token := [.punct '\'' true, .ident name]

end Token

end TypedQuery
