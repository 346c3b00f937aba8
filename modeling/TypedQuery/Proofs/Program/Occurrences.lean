import TypedQuery.Program.Function

/-! Where code names its identifiers, and where it binds them. A name that one `let` binds may
stand behind this statement, in the same block or in the blocks inside it, and nowhere else. -/

namespace TypedQuery

/-- Names that start as those of temporaries do. -/
def Reserved (name : String) : Prop := ['_', '_'] <+: name.toList

instance : DecidablePred Reserved := fun name =>
  inferInstanceAs (Decidable (['_', '_'] <+: name.toList))

/-- All temporaries start with two underscores. -/
theorem reserved_temporary (stem : String) (index : Nat) :
    Reserved (Var.temporary stem index).name := by
  simp [Reserved, Var.name]

/-- An identifier in code, and whether `let` or `let mut` stands in front of it. -/
structure Occurrence where
  name : String
  isBound : Bool
  deriving DecidableEq

namespace Token

/-- Whether the name that a `let` binds comes next. -/
def opensLet (afterLet : Bool) : Token → Bool
  | ident s => s = "let" || (afterLet && s = "mut")
  | punct .. | literal _ | group .. => false

mutual

/-- The identifiers in a token, or in a group at any depth. -/
def occurrences (afterLet : Bool) : Token → List Occurrence
  | ident s => [⟨s, afterLet⟩]
  | group _ inner => occurrencesIn false inner
  | punct .. | literal _ => []

def occurrencesIn (afterLet : Bool) : List Token → List Occurrence
  | [] => []
  | t :: rest => occurrences afterLet t ++ occurrencesIn (t.opensLet afterLet) rest

end

end Token

namespace Tokens

/-- All identifiers in some code, in its order. -/
def occurrences (ts : Tokens) : List Occurrence := Token.occurrencesIn false ts

def identifiers (ts : Tokens) : List String := ts.occurrences.map Occurrence.name

/-- Code without the names that temporaries have. -/
def Unreserved (ts : Tokens) : Prop := ∀ name ∈ ts.identifiers, ¬Reserved name

instance (ts : Tokens) : Decidable ts.Unreserved :=
  inferInstanceAs (Decidable (∀ name ∈ ts.identifiers, ¬Reserved name))

/-- A statement that binds a name; `rest` is what stands between the name and its end. -/
def letStatement (mutable : Bool) (name : String) (rest : Tokens) : Tokens :=
  Print.word "let" ++ (if mutable then Print.word "mut" else []) ++ Print.word name ++ rest ++
    Print.op ";"

/-- One `let` binds the name. The name occurs neither in front of this statement nor in the value
that it gets, and outside of the block of the statement it does not occur at all. -/
inductive BindsOnce (name : String) : Tokens → Prop where
  | here {before value after : Tokens} {mutable : Bool} (hBefore : name ∉ before.identifiers)
      (hValue : name ∉ value.identifiers) (hAfter : ⟨name, true⟩ ∉ after.occurrences) :
      BindsOnce name (before ++ letStatement mutable name value ++ after)
  | inside {before block after : Tokens} (hBefore : name ∉ before.identifiers)
      (hBlock : BindsOnce name block) (hAfter : name ∉ after.identifiers) :
      BindsOnce name (before ++ Print.brace block ++ after)

/-- The names of temporaries among the identifiers of code that stands behind a `let`, or not. -/
def reserved (afterLet : Bool) (ts : Tokens) : List Occurrence :=
  (Token.occurrencesIn afterLet ts).filter fun o => Reserved o.name

variable {afterLet : Bool} {name : String} {ts rest : Tokens}

/-- Of the code in front only its last tokens matter: whether they open a `let`. -/
theorem occurrencesIn_append (afterLet : Bool) (ts rest : Tokens) :
    Token.occurrencesIn afterLet (ts ++ rest) =
      Token.occurrencesIn afterLet ts ++
        Token.occurrencesIn (ts.foldl Token.opensLet afterLet) rest := by
  induction ts generalizing afterLet with
  | nil => simp [Token.occurrencesIn]
  | cons t ts ih => simp [Token.occurrencesIn, ih]

/-- What stands in front of code does not matter for its identifiers. -/
theorem map_name_occurrencesIn (afterLet : Bool) (ts : Tokens) :
    (Token.occurrencesIn afterLet ts).map Occurrence.name = ts.identifiers := by
  unfold identifiers occurrences
  induction ts generalizing afterLet with
  | nil => rfl
  | cons t ts ih =>
      have hToken : (t.occurrences afterLet).map Occurrence.name =
          (t.occurrences false).map Occurrence.name := by
        cases t <;> simp [Token.occurrences]
      rw [Token.occurrencesIn, Token.occurrencesIn, List.map_append, List.map_append, hToken, ih,
        ih (t.opensLet false)]

@[simp]
theorem identifiers_append (ts rest : Tokens) :
    (ts ++ rest).identifiers = ts.identifiers ++ rest.identifiers := by
  rw [← map_name_occurrencesIn false, occurrencesIn_append, List.map_append,
    map_name_occurrencesIn, map_name_occurrencesIn]

/-- Part of some code has no identifiers of its own. -/
theorem identifiers_subset {ts all : Tokens} (h : ts <:+: all) :
    ts.identifiers ⊆ all.identifiers := by
  obtain ⟨before, after, rfl⟩ := h
  intro name hMem
  simp [hMem]

theorem identifiers_operator (spelling : String) :
    identifiers (Token.operator spelling) = [] := by
  unfold Token.operator
  generalize spelling.toList = cs
  induction cs with
  | nil => rfl
  | cons c rest ih =>
      cases rest with
      | nil => rfl
      | cons next rest => exact ih

/-- A reserved name occurs in code if it is among its names of temporaries. -/
theorem mem_identifiers_iff (h : Reserved name) :
    name ∈ ts.identifiers ↔ ∃ isBound, ⟨name, isBound⟩ ∈ ts.reserved false := by
  constructor
  · intro hName
    obtain ⟨⟨_, isBound⟩, hMem, rfl⟩ := List.mem_map.mp hName
    exact ⟨isBound, List.mem_filter.mpr ⟨hMem, by simpa using h⟩⟩
  · rintro ⟨isBound, hMem⟩
    exact List.mem_map.mpr ⟨_, (List.mem_filter.mp hMem).1, rfl⟩

/-- The names of temporaries are found among the reserved identifiers. -/
theorem not_mem_identifiers (hName : Reserved name) (h : ∀ o ∈ ts.reserved false, o.name ≠ name) :
    name ∉ ts.identifiers := by
  rw [mem_identifiers_iff hName]
  rintro ⟨isBound, ho⟩
  exact h _ ho rfl

/-- Code without the name may stand in front. -/
theorem BindsOnce.prepend {before : Tokens} (h : ts.BindsOnce name)
    (hBefore : name ∉ before.identifiers) : BindsOnce name (before ++ ts) := by
  have hAll {front : Tokens} (hFront : name ∉ front.identifiers) :
      name ∉ identifiers (before ++ front) := by
    simp [hBefore, hFront]
  cases h with
  | here hFront hValue hAfter =>
      rw [← List.append_assoc, ← List.append_assoc]
      exact here (hAll hFront) hValue hAfter
  | inside hFront hBlock hAfter =>
      rw [← List.append_assoc, ← List.append_assoc]
      exact inside (hAll hFront) hBlock hAfter

/-- Code from declarations names no temporary. -/
theorem Unreserved.reserved (h : ts.Unreserved) : ts.reserved afterLet = [] := by
  rw [Tokens.reserved, List.filter_eq_nil_iff]
  intro o hMem
  have hName : o.name ∈ ts.identifiers := by
    rw [← map_name_occurrencesIn afterLet]
    exact List.mem_map_of_mem hMem
  simpa using h o.name hName

@[simp]
theorem reserved_nil : reserved afterLet [] = [] := rfl

@[simp]
theorem reserved_punct (c : Char) (joint : Bool) :
    reserved afterLet (.punct c joint :: rest) = reserved false rest := rfl

@[simp]
theorem reserved_literal (text : String) :
    reserved afterLet (.literal text :: rest) = reserved false rest := rfl

@[simp]
theorem reserved_group (d : Delimiter) (inner : Tokens) :
    reserved afterLet (.group d inner :: rest) = reserved false inner ++ reserved false rest := by
  simp [reserved, Token.occurrencesIn, Token.occurrences, Token.opensLet]

@[simp]
theorem reserved_let : reserved afterLet (.ident "let" :: rest) = reserved true rest := by
  simp [reserved, Token.occurrencesIn, Token.occurrences, Token.opensLet, Reserved]

@[simp]
theorem reserved_mut : reserved afterLet (.ident "mut" :: rest) = reserved afterLet rest := by
  simp [reserved, Token.occurrencesIn, Token.occurrences, Token.opensLet, Reserved]

/-- A word of the generator is passed over. -/
theorem reserved_word (h : ¬Reserved name ∧ name ≠ "let" ∧ name ≠ "mut") :
    reserved afterLet (.ident name :: rest) = reserved false rest := by
  simp [reserved, Token.occurrencesIn, Token.occurrences, Token.opensLet, h]

/-- A temporary is found, and is bound if a `let` is in front of it. -/
theorem reserved_temporary (h : Reserved name) :
    reserved afterLet (.ident name :: rest) = ⟨name, afterLet⟩ :: reserved false rest := by
  have hLet : name ≠ "let" := by
    rintro rfl
    exact absurd h (by decide)
  have hMut : name ≠ "mut" := by
    rintro rfl
    exact absurd h (by decide)
  simp [reserved, Token.occurrencesIn, Token.occurrences, Token.opensLet, h, hLet, hMut]

theorem reserved_ident (h : ¬Reserved name) : reserved afterLet [.ident name] = [] := by
  simp [reserved, Token.occurrencesIn, Token.occurrences, h]

/-- A name from a declaration may be any word. In emitted code no name comes right behind it. -/
theorem reserved_ident_punct (h : ¬Reserved name) (c : Char) (joint : Bool) :
    reserved afterLet (.ident name :: .punct c joint :: rest) = reserved false rest := by
  simp [reserved, Token.occurrencesIn, Token.occurrences, Token.opensLet, h]

/-- Names are collected from the left to the right. -/
theorem reserved_append (ts rest : Tokens) :
    reserved afterLet (ts ++ rest) =
      reserved afterLet ts ++ reserved (ts.foldl Token.opensLet afterLet) rest := by
  simp [reserved, occurrencesIn_append]

/-- No name comes right behind tokens from a declaration either. -/
theorem reserved_append_punct (c : Char) (joint : Bool) :
    reserved afterLet (ts ++ .punct c joint :: rest) =
      reserved afterLet ts ++ reserved false rest := by
  rw [reserved_append, reserved_punct]

theorem reserved_append_group (d : Delimiter) (inner : Tokens) :
    reserved afterLet (ts ++ .group d inner :: rest) =
      reserved afterLet ts ++ (reserved false inner ++ reserved false rest) := by
  rw [reserved_append, reserved_group]

/-- A `let` binds its own name; behind it come the names in its value. -/
theorem reserved_letStatement (h : Reserved name) (mutable : Bool) (value : Tokens) :
    reserved false (letStatement mutable name value) = ⟨name, true⟩ :: reserved false value := by
  cases mutable <;>
    simp [letStatement, Print.word, Print.op, Token.operator, Token.operatorChars,
      reserved_temporary h, reserved_append_punct]

end Tokens

end TypedQuery
