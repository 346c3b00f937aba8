import TypedQuery.Relation.Query

/-! Secondary queries read back from their SQL. A quoted identifier ends at the first quote that is
not followed by another one, and in the text of a query something else follows every identifier. So
no name can break out of its place, and different queries have different texts. -/

namespace TypedQuery

namespace Sql

/-- A token of SQL. An identifier is one that was quoted, without its quotes. -/
inductive Lexeme where
  | word (text : String)
  | identifier (name : String)
  | parameter (text : String)
  | symbol (c : Char)
  deriving DecidableEq

/-- The token that the characters read last belong to, if it may still go on. -/
inductive Begun where
  | nothing
  | word (text : List Char)
  | parameter (text : List Char)
  | quoted (name : List Char)
  /-- A quote after a quoted name: its end, or the first of two that stand for one. -/
  | closed (name : List Char)

/-- A character that does not continue a token. -/
def start (c : Char) : List Lexeme × Begun :=
  if c = '"' then ([], .quoted [])
  else if c = '?' then ([.parameter "?"], .nothing)
  else if c = '$' then ([], .parameter [c])
  else if c.isAlpha || c = '_' then ([], .word [c])
  else if c.isWhitespace then ([], .nothing)
  else ([.symbol c], .nothing)

/-- A character after what was begun: the tokens that it ends, and what is begun then. -/
def step (begun : Begun) (c : Char) : List Lexeme × Begun :=
  match begun with
  | .nothing => start c
  | .word text =>
    if c.isAlphanum || c = '_' then ([], .word (text ++ [c]))
    else (.word (String.ofList text) :: (start c).1, (start c).2)
  | .parameter text =>
    if c.isDigit then ([], .parameter (text ++ [c]))
    else (.parameter (String.ofList text) :: (start c).1, (start c).2)
  | .quoted name => if c = '"' then ([], .closed name) else ([], .quoted (name ++ [c]))
  | .closed name =>
    if c = '"' then ([], .quoted (name ++ [c]))
    else (.identifier (String.ofList name) :: (start c).1, (start c).2)

/-- The tokens of a text after what was begun, and what is begun at its end. -/
def scan (begun : Begun) : List Char → List Lexeme × Begun
  | [] => ([], begun)
  | c :: rest =>
    let (lexemes, next) := step begun c
    let (others, last) := scan next rest
    (lexemes ++ others, last)

/-- The token that the end of the text ends. A quoted name must be closed. -/
def finish : Begun → Option (List Lexeme)
  | .nothing => some []
  | .word text => some [.word (String.ofList text)]
  | .parameter text => some [.parameter (String.ofList text)]
  | .quoted _ => none
  | .closed name => some [.identifier (String.ofList name)]

/-- The tokens of a text that starts after what was begun. -/
def read (begun : Begun) (cs : List Char) : Option (List Lexeme) :=
  (finish (scan begun cs).2).map ((scan begun cs).1 ++ ·)

/-- The tokens of a text, unless an identifier in it is not closed. -/
def tokens (text : String) : Option (List Lexeme) := read .nothing text.toList

theorem read_cons (begun : Begun) (c : Char) (rest : List Char) :
    read begun (c :: rest) =
      (read (step begun c).2 rest).map ((step begun c).1 ++ ·) := by
  rw [read, read, scan, Option.map_map]
  exact congrArg (Option.map · _) (funext fun last => List.append_assoc _ _ _)

/-- What stands in front is read first. -/
theorem read_append (begun : Begun) (front rest : List Char) :
    read begun (front ++ rest) =
      (read (scan begun front).2 rest).map ((scan begun front).1 ++ ·) := by
  induction front generalizing begun with
  | nil => simp [scan]
  | cons c front ih =>
      rw [List.cons_append, read_cons, ih, scan, Option.map_map]
      exact congrArg (Option.map · _) (funext fun last => (List.append_assoc _ _ _).symm)

/-- A text that ends between two tokens. -/
theorem read_text {front : List Char} (rest : List Char) (h : (scan .nothing front).2 = .nothing) :
    read .nothing (front ++ rest) = (read .nothing rest).map ((scan .nothing front).1 ++ ·) := by
  rw [read_append, h]

/-- After a token that a character does not continue, reading starts anew. -/
theorem read_of_ended {begun : Begun} {ended : Lexeme} {rest : List Char}
    (hEnd : finish begun = some [ended])
    (hStep : ∀ c ∈ rest.head?, step begun c = (ended :: (start c).1, (start c).2)) :
    read begun rest = (read .nothing rest).map (ended :: ·) := by
  cases rest with
  | nil =>
      rw [read, scan, hEnd]
      rfl
  | cons c rest =>
      rw [read_cons, read_cons, hStep c rfl, Option.map_map]
      rfl

end Sql

namespace RelationQuery

open Sql

theorem scan_quoted (seen name : List Char) :
    scan (.quoted seen) (name.flatMap fun c => if c = '"' then ['"', '"'] else [c]) =
      ([], .quoted (seen ++ name)) := by
  induction name generalizing seen with
  | nil => simp [scan]
  | cons c name ih =>
      rw [List.flatMap_cons]
      by_cases hQuote : c = '"'
      · simp [hQuote, scan, step, ih]
      · simp [hQuote, scan, step, ih]

/-- A quoted identifier is read as its name, whatever stands in it, where no quote follows it. -/
theorem read_quoteIdentifier (name : String) (rest : List Char) (h : rest.head? ≠ some '"') :
    read .nothing ((quoteIdentifier name).toList ++ rest) =
      (read .nothing rest).map (.identifier name :: ·) := by
  have hClosed : read (.closed name.toList) rest =
      (read .nothing rest).map (.identifier name :: ·) := by
    refine read_of_ended (by rw [finish, String.ofList_toList]) fun c hc => ?_
    have hNoQuote : c ≠ '"' := fun hQuote => h (hQuote ▸ hc)
    rw [step, if_neg hNoQuote, String.ofList_toList]
  have hText : (quoteIdentifier name).toList ++ rest =
      '"' :: (name.toList.flatMap fun c => if c = '"' then ['"', '"'] else [c]) ++ '"' :: rest := by
    simp [quoteIdentifier]
  rw [hText, List.cons_append, read_cons]
  simp [step, start, read_append, scan_quoted, read_cons, hClosed, Function.comp_def]

/-- Parameters are written as a question mark, or as a dollar sign and their index. -/
def IsParameter (text : String) : Prop :=
  text = "?" ∨ ∃ index : Nat, text = "$" ++ toString index

theorem scan_parameter (seen digits : List Char) (h : ∀ c ∈ digits, c.isDigit) :
    scan (.parameter seen) digits = ([], .parameter (seen ++ digits)) := by
  induction digits generalizing seen with
  | nil => simp [scan]
  | cons c digits ih =>
      obtain ⟨hDigit, hDigits⟩ := List.forall_mem_cons.mp h
      simp [scan, step, hDigit, ih (seen ++ [c]) hDigits]

/-- A parameter is read as it is, where no digit follows it. -/
theorem read_parameter {text : String} (hText : IsParameter text) (rest : List Char)
    (h : ∀ c ∈ rest.head?, c.isDigit = false) :
    read .nothing (text.toList ++ rest) = (read .nothing rest).map (.parameter text :: ·) := by
  obtain rfl | ⟨index, rfl⟩ := hText
  · exact read_text rest rfl
  · have hDigits : ∀ c ∈ Nat.toDigits 10 index, c.isDigit :=
      fun c hc => Nat.isDigit_of_mem_toDigits (by decide) (by decide) hc
    have hDollar : ("$" ++ toString index).toList = '$' :: Nat.toDigits 10 index := by simp
    have hEnded : read (.parameter ('$' :: Nat.toDigits 10 index)) rest =
        (read .nothing rest).map (.parameter ("$" ++ toString index) :: ·) := by
      refine read_of_ended (by rw [finish, ← hDollar, String.ofList_toList]) fun c hc => ?_
      rw [step, h c hc, ← hDollar, String.ofList_toList]
      rfl
    rw [hDollar, List.cons_append, read_cons,
      show step .nothing '$' = ([], .parameter ['$']) from rfl, read_append,
      scan_parameter _ _ hDigits, List.singleton_append, hEnded, Option.map_map, Option.map_map]
    rfl

/-- Parameters are read one by one, where no digit follows the last of them. -/
theorem read_parameters (texts : List String) (hTexts : ∀ text ∈ texts, IsParameter text)
    (rest : List Char) (h : ∀ c ∈ rest.head?, c.isDigit = false) :
    read .nothing ((", ".intercalate texts).toList ++ rest) =
      (read .nothing rest).map
        (((texts.map Lexeme.parameter).intersperse (.symbol ',')) ++ ·) := by
  induction texts with
  | nil => simp
  | cons text texts ih =>
      obtain ⟨hText, hOthers⟩ := List.forall_mem_cons.mp hTexts
      cases texts with
      | nil => simp [read_parameter hText rest h]
      | cons next texts =>
          rw [String.intercalate_cons_cons, String.toList_append, String.toList_append,
            List.append_assoc, List.append_assoc, read_parameter hText, read_text, ih hOthers]
          · simp [Function.comp_def]
            rfl
          · rfl
          · simp

/-- The parameters of a query that binds that many keys, as they are read. -/
def parameters (db : Connection) (count : Nat) : List Lexeme :=
  ((List.range count).map fun i => Lexeme.parameter (db.placeholder (i + 1))).intersperse
    (.symbol ',')

/-- The tokens of the query with those between its last parentheses. -/
def lexemes (q : RelationQuery) (keys : List Lexeme) : List Lexeme :=
  match q.junction with
  | none =>
    [.word "SELECT", .identifier q.entityColumn, .word "AS", .identifier keyColumn, .symbol ',',
      .symbol '*', .word "FROM", .identifier q.table, .word "WHERE", .identifier q.entityColumn,
      .word "IN", .symbol '('] ++ keys ++ [.symbol ')']
  | some junction =>
    [.word "SELECT", .identifier "_junction", .symbol '.', .identifier junction.parentColumn,
      .word "AS", .identifier keyColumn, .symbol ',', .identifier q.table, .symbol '.',
      .symbol '*', .word "FROM", .identifier junction.table, .word "AS", .identifier "_junction",
      .word "INNER", .word "JOIN", .identifier q.table, .word "ON", .identifier "_junction",
      .symbol '.', .identifier junction.entityColumn, .symbol '=', .identifier q.table,
      .symbol '.', .identifier q.entityColumn, .word "WHERE", .identifier "_junction",
      .symbol '.', .identifier junction.parentColumn, .word "IN", .symbol '('] ++ keys ++
      [.symbol ')']

theorem tokens_sql (q : RelationQuery) {db : Connection}
    (hDb : ∀ index, IsParameter (db.placeholder index)) (count : Nat) :
    tokens (q.sql db count) = some (q.lexemes (parameters db count)) := by
  have hKeys (rest : List Char) (h : ∀ c ∈ rest.head?, c.isDigit = false) :
      read .nothing ((placeholders db count).toList ++ rest) =
        (read .nothing rest).map (parameters db count ++ ·) := by
    rw [placeholders, read_parameters _ _ rest h, List.map_map]
    · rfl
    · simp [hDb]
  obtain ⟨table, column, _ | junction⟩ := q
  · rw [tokens, sql]
    simp only [String.toList_append, List.append_assoc]
    rw [read_text, read_quoteIdentifier, read_text, read_quoteIdentifier, read_text,
      read_quoteIdentifier, read_text, read_quoteIdentifier, read_text, hKeys]
    · rfl
    all_goals first | rfl | simp
  · rw [tokens, sql]
    simp only [String.toList_append, List.append_assoc]
    rw [read_text, read_quoteIdentifier, read_text, read_quoteIdentifier, read_text,
      read_quoteIdentifier, read_text, read_quoteIdentifier, read_text, read_quoteIdentifier,
      read_text, read_quoteIdentifier, read_text, read_quoteIdentifier, read_text,
      read_quoteIdentifier, read_text, read_quoteIdentifier, read_text, hKeys]
    · rfl
    all_goals first | rfl | simp

/-- Different queries are read differently. -/
theorem lexemes_injective (keys : List Lexeme) : Function.Injective (lexemes · keys) := by
  rintro ⟨table, column, _ | ⟨linking, parent, entity⟩⟩
    ⟨table', column', _ | ⟨linking', parent', entity'⟩⟩ h
  all_goals simp_all [lexemes]

/-- The text of a relation query is read back as its fixed words around all its names and the
parameters of its keys, whatever the names are, so queries with the same text are the same. -/
theorem sql_reads_back (q : RelationQuery) (db : Connection)
    (hDb : ∀ index, IsParameter (db.placeholder index)) (count : Nat) :
    tokens (q.sql db count) = some (q.lexemes (parameters db count)) ∧
      ∀ other : RelationQuery, other.sql db count = q.sql db count → other = q := by
  refine ⟨tokens_sql q hDb count, fun other hSql => lexemes_injective (parameters db count) ?_⟩
  have hTokens := congrArg tokens hSql
  rw [tokens_sql other hDb, tokens_sql q hDb] at hTokens
  exact Option.some.inj hTokens

/-- A table name with a quote and a comment in it stays one identifier, as does an empty column. -/
theorem odd_names_read_back :
    let db : Connection := ⟨fun _ _ => .error .cursorPosition, fun index => "$" ++ toString index⟩
    let q : RelationQuery := ⟨"books\" --", "", none⟩
    tokens (q.sql db 2) = some
      [.word "SELECT", .identifier "", .word "AS", .identifier "__quarry_key", .symbol ',',
        .symbol '*', .word "FROM", .identifier "books\" --", .word "WHERE", .identifier "",
        .word "IN", .symbol '(', .parameter "$1", .symbol ',', .parameter "$2", .symbol ')'] ∧
      ∀ other : RelationQuery, other.sql db 2 = q.sql db 2 → other = q :=
  sql_reads_back _ _ (fun index => .inr ⟨index, rfl⟩) 2

end RelationQuery

end TypedQuery
