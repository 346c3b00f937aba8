import TypedQuery.Proofs.Program.Expansion
import TypedQuery.Proofs.Text.Uppercase

/-! The constants of the queries of a module. Each stands right before the function of its query.
Its name is made from the uppercase form of the query's name, so queries of different names clash if
their names have the same uppercase form. -/

namespace TypedQuery

namespace QueryDeclaration

/-- The query is accepted, and becomes its constant with its function behind it. -/
def Becomes (schema : Schema) (options : Options) (q : QueryDeclaration) (code : Tokens) : Prop :=
  ∃ shape, q.shape schema = .ok shape ∧
    code = Print.constant ⟨options.runtime, connectionName⟩ q.visibility q.constantName
        (q.info shape) ++
      Print.function ⟨options.runtime, connectionName⟩ q (q.body shape)

theorem becomes_of_tokens {schema : Schema} {options : Options} {q : QueryDeclaration}
    {code : Tokens} (hAccepted : ∃ shape, q.shape schema = .ok shape)
    (h : (Expansion.ofQuery schema q).tokens? options = some code) :
    q.Becomes schema options code := by
  obtain ⟨shape, hShape⟩ := hAccepted
  have hExpansion : Expansion.ofQuery schema q = .function q (q.info shape) (q.body shape) := by
    rw [Expansion.ofQuery, hShape]
  rw [hExpansion, Expansion.tokens?] at h
  exact ⟨shape, hShape, (Option.some.inj (Option.ite_none_right_eq_some.mp h).2).symm⟩

/-- Constants clash exactly if the names of their queries have one uppercase form. -/
theorem constantName_inj {q other : QueryDeclaration} :
    q.constantName = other.constantName ↔ Text.uppercase q.name = Text.uppercase other.name :=
  String.append_left_inj _

/-- The constants are different if the uppercase names are. -/
theorem nodup_constantName_iff {queries : List QueryDeclaration} :
    (queries.map constantName).Nodup ↔
      (queries.map fun q => Text.uppercase q.name).Nodup := by
  simp only [List.Nodup, List.pairwise_map, ne_eq, constantName_inj]

/-- Different names of recoverable characters are enough. -/
theorem nodup_constantName {queries : List QueryDeclaration}
    (hNames : (queries.map (·.name)).Nodup)
    (h : ∀ q ∈ queries, ∀ c ∈ q.name.toList, Text.IsRecoverable c) :
    (queries.map constantName).Nodup := by
  have hInj : ∀ s ∈ queries.map (·.name), ∀ t ∈ queries.map (·.name),
      Text.uppercase s = Text.uppercase t → s = t := by
    simp only [List.forall_mem_map]
    exact fun q hq other hOther => Text.uppercase_injOn (h q hq) (h other hOther)
  have hUppercase := hNames.map_on hInj
  rw [List.map_map] at hUppercase
  exact nodup_constantName_iff.mpr hUppercase

end QueryDeclaration

namespace DeclarationModule

open QueryDeclaration

variable {m : DeclarationModule} {options : Options} {tokens : Tokens}

/-- The functions of a module whose queries are all accepted, query by query. -/
theorem functions_of_accepted (hTokens : m.expand? options = some tokens)
    (hAccepted : ∀ q ∈ m.queries, ∃ shape, q.shape m.schema = .ok shape) :
    ∃ codes, List.Forall₂ (Becomes m.schema options) m.queries codes ∧
      tokens = Attribute.tokensOf m.attributes ++ m.visibility ++ Print.word "mod" ++
        Print.word m.name ++
        Print.brace (m.others ++ m.structs ++ codes.flatten ++ m.errors) := by
  obtain ⟨functions, hFunctions, rfl⟩ := Option.map_eq_some_iff.mp hTokens
  obtain ⟨codes, hCodes, rfl⟩ := Option.map_eq_some_iff.mp hFunctions
  refine ⟨codes, ?_, rfl⟩
  have hEach := (List.forall₂_and_left _ _).mpr ⟨hAccepted, mapM_eq_some_iff.mp hCodes⟩
  exact hEach.imp fun q code h => becomes_of_tokens h.1 h.2

/-- If all queries of a module are accepted, each has its constant right before its function. The
constants have different names exactly if the uppercase forms of the queries' names are different,
as they are where different names are made of recoverable characters. -/
theorem constants_told_apart_by_uppercase (hTokens : m.expand? options = some tokens)
    (hAccepted : ∀ q ∈ m.queries, ∃ shape, q.shape m.schema = .ok shape) :
    (∃ codes, List.Forall₂ (Becomes m.schema options) m.queries codes ∧
      tokens = Attribute.tokensOf m.attributes ++ m.visibility ++ Print.word "mod" ++
        Print.word m.name ++
        Print.brace (m.others ++ m.structs ++ codes.flatten ++ m.errors)) ∧
    ((m.queries.map constantName).Nodup ↔
      (m.queries.map fun q => Text.uppercase q.name).Nodup) ∧
    ((m.queries.map (·.name)).Nodup →
      (∀ q ∈ m.queries, ∀ c ∈ q.name.toList, Text.IsRecoverable c) →
      (m.queries.map constantName).Nodup) :=
  ⟨functions_of_accepted hTokens hAccepted, nodup_constantName_iff, nodup_constantName⟩

/-- A module with a query for each of some names. -/
def ofNames (names : List String) : DeclarationModule where
  attributes := []
  visibility := []
  name := "m"
  items := names.map fun name => .query (.ok { marked with name })

theorem queries_ofNames (names : List String) :
    (ofNames names).queries = names.map fun name => { marked with name } := by
  rw [queries, ofNames, List.filterMap_map]
  exact congrFun (List.filterMap_eq_map ..) names

/-- Queries for a number are accepted, whatever they are called. -/
theorem accepted_ofNames (names : List String) :
    ∀ q ∈ (ofNames names).queries, ∃ shape, q.shape (ofNames names).schema = .ok shape := by
  have hSchema : (ofNames names).schema = [] := by
    rw [schema_eq, ofNames, List.filterMap_map]
    exact congrArg List.reverse (List.filterMap_eq_nil_iff.mpr fun _ _ => rfl)
  rw [queries_ofNames, hSchema, List.forall_mem_map]
  exact fun name _ => ⟨_, rfl⟩

/-- A module of such queries expands if its constants have proper names. -/
theorem expands_ofNames (names : List String)
    (h : ∀ name ∈ names, Text.isIdentifier (Text.uppercase name ++ "_QUERY") = true) :
    ∃ tokens, (ofNames names).expand? Options.default = some tokens := by
  rw [← Option.ne_none_iff_exists', ne_eq, expand?_eq_none_iff, queries_ofNames]
  rintro ⟨q, hQuery, -, hName⟩
  obtain ⟨name, hMem, rfl⟩ := List.mem_map.mp hQuery
  exact Bool.false_ne_true (hName.symm.trans (h name hMem))

theorem first_and_last_have_constants :
    ∃ tokens codes, (ofNames ["first", "last"]).expand? Options.default = some tokens ∧
      List.Forall₂ (Becomes (ofNames ["first", "last"]).schema Options.default)
        (ofNames ["first", "last"]).queries codes ∧
      tokens = Print.word "mod" ++ Print.word "m" ++ Print.brace codes.flatten ∧
      ((ofNames ["first", "last"]).queries.map constantName).Nodup := by
  obtain ⟨tokens, hTokens⟩ := expands_ofNames ["first", "last"] (by decide)
  obtain ⟨⟨codes, hCodes, hModule⟩, -, hNodup⟩ :=
    constants_told_apart_by_uppercase hTokens (accepted_ofNames _)
  have hWhole : tokens = Print.word "mod" ++ Print.word "m" ++ Print.brace codes.flatten :=
    hModule.trans (congrArg (fun functions => _ ++ Print.brace functions) (List.append_nil _))
  have hLetters : ((ofNames ["first", "last"]).queries.all fun q =>
      q.name.toList.all fun c => decide (Text.IsRecoverable c)) = true := by
    decide
  simp only [List.all_eq_true, decide_eq_true_eq] at hLetters
  exact ⟨tokens, codes, hTokens, hCodes, hWhole, hNodup (by decide) hLetters⟩

/-- The module expands and its queries are all accepted. Their names differ, yet two of their
constants have the same name. -/
def ConstantsClash (m : DeclarationModule) (options : Options) : Prop :=
  (∃ tokens, m.expand? options = some tokens) ∧
    (∀ q ∈ m.queries, ∃ shape, q.shape m.schema = .ok shape) ∧
    (m.queries.map (·.name)).Nodup ∧ ¬(m.queries.map constantName).Nodup

theorem constantsClash_ofNames {names : List String}
    (hIdentifiers : ∀ name ∈ names, Text.isIdentifier (Text.uppercase name ++ "_QUERY") = true)
    (hNodup : ((ofNames names).queries.map (·.name)).Nodup)
    (hClash : ¬((ofNames names).queries.map constantName).Nodup) :
    ConstantsClash (ofNames names) Options.default :=
  ⟨expands_ofNames names hIdentifiers, accepted_ofNames names, hNodup, hClash⟩

/-- Different names are not enough, whether they differ in case or by a letter whose uppercase form
is several letters. -/
theorem different_names_share_constant :
    ConstantsClash (ofNames ["a", "A"]) Options.default ∧
      ConstantsClash (ofNames ["straße", "strasse"]) Options.default :=
  ⟨constantsClash_ofNames (by decide) (by decide) (by decide),
    constantsClash_ofNames (by decide +kernel) (by decide +kernel) (by decide +kernel)⟩

end DeclarationModule

end TypedQuery
