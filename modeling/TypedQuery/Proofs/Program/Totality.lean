import TypedQuery.Proofs.Program.Expansion
import TypedQuery.Proofs.Program.Temporaries
import TypedQuery.Proofs.Source.Reading
import TypedQuery.Proofs.Text.Uppercase

/-! What could keep a module from being expanded: a column index that was not prepared, or a name
that is no identifier. Only one thing does: the constant of a query whose name has the mark `r#`
keeps the mark, and no constant can be called so. -/

namespace TypedQuery

open Stmt

namespace EntityRow

theorem length_prepareColumns (cursor : Var) (fields : List ColumnField) (n : Nat) :
    ((prepareColumns cursor fields).run n).1.1.length = fields.length := by
  induction fields generalizing n with
  | nil => rfl
  | cons f rest ih =>
      rw [prepareColumns_cons]
      exact congrArg (· + 1) (ih (n + 1))

theorem length_prepareRelations (cursor : Var) (relations : List (RelationField × EntityRow))
    (n : Nat) : ((prepareRelations cursor relations).run n).1.1.length = relations.length := by
  induction relations generalizing n with
  | nil => rfl
  | cons relation rest ih =>
      rw [prepareRelations_cons]
      exact congrArg (· + 1) (ih _)

end EntityRow

/-- The bindings of a row serve all that is looked up in them: a scalar has the index of its column
where it is converted and where it is tested for NULL, and a struct has an index for each column
field and groups for each relation field. -/
inductive Row.Served (b : Bindings) : Row → Prop where
  | scalar {type : TypeExpr} {column : Option String} {index : Var}
      (hConvert : ∀ out cursor,
        (Row.scalar type column).convert? b out cursor = some (.read out cursor index type))
      (hCheck : Row.isNullable type = false →
        (Row.scalar type column).nullCheck? b = some ⟨[index], false⟩) :
      Served b (.scalar type column)
  | entity {e : EntityRow} (hColumns : b.columns.length = e.fields.length)
      (hRelations : b.relations.length = e.relations.length) : Served b (.entity e)

/-- What is prepared for a row serves its conversion, whatever was prepared before. -/
theorem Row.prepare_serves (row : Row) (cursor : Var) (n : Nat) :
    row.Served ((row.prepare cursor).run n).1.1 := by
  cases row with
  | scalar type column =>
      rw [prepare_scalar_run]
      refine .scalar (fun _ _ => rfl) fun hNullable => ?_
      simp [nullCheck?, hNullable]
  | entity e =>
      obtain ⟨path, fields, relations⟩ := e
      refine .entity ?_ ?_
      · rw [Row.prepare, EntityRow.prepare_run]
        exact EntityRow.length_prepareColumns cursor fields n
      · rw [Row.prepare, EntityRow.prepare_run]
        exact EntityRow.length_prepareRelations cursor relations _

namespace QueryDeclaration

variable {q : QueryDeclaration}

/-- The constant of a query can be called as it is, unless the name of the query is marked. -/
theorem isIdentifier_constantName_iff (h : Text.IsName q.name) :
    Text.isIdentifier q.constantName = true ↔ ¬Text.Marked q.name := by
  constructor
  · rintro hConstant ⟨plain, -, hMarked⟩
    have hChars : q.constantName.toList =
        'R' :: '#' :: (plain.toList.flatMap Text.uppercaseChar ++ "_QUERY".toList) := by
      have hMark : ("r#".toList).flatMap Text.uppercaseChar = ['R', '#'] := by decide
      simp only [constantName, Text.uppercase, hMarked, String.toList_append,
        String.toList_ofList, List.flatMap_append, hMark, List.cons_append, List.nil_append]
    rw [Text.isIdentifier_eq_false_of_hash hChars] at hConstant
    cases hConstant
  · intro hPlain
    have hSuffix : "_QUERY".toList.all Text.isIdentifierContinue = true := by decide
    exact Text.isIdentifier_append (Text.isIdentifier_uppercase (h.resolve_right hPlain))
      (List.all_eq_true.mp hSuffix)

/-- The temporaries of the body of a query are identifiers, and so are all its variables. -/
theorem isIdentifier_lets {shape : Shape} {v : Var} (h : v ∈ lets (q.body shape).stmts) :
    Text.isIdentifier v.name = true := by
  obtain ⟨stems, hStems, -, hPerm⟩ := q.numbers_body shape
  obtain ⟨stem, hStem, i, -, rfl⟩ := Var.mem_numbered (hPerm.subset h)
  exact Var.isIdentifier_name (hStems stem hStem) i

end QueryDeclaration

namespace DeclarationModule

variable {m : DeclarationModule} {options : Options}

/-- Only marked queries keep a module from being expanded, if all queries have names. -/
theorem expand?_eq_none_iff_marked (h : ∀ q ∈ m.queries, Text.IsName q.name) :
    m.expand? options = none ↔ ∃ q ∈ m.queries, Text.Marked q.name ∧
      ∃ shape, q.shape m.schema = .ok shape := by
  rw [expand?_eq_none_iff]
  refine exists_congr fun q => and_congr_right fun hQuery => ?_
  rw [and_comm, ← Bool.not_eq_true, q.isIdentifier_constantName_iff (h q hQuery), not_not]

/-- The module is expanded, item by item, unless a query with a marked name is accepted: nothing
else that the expansion needs can be missing. -/
structure ExpandsUnlessMarked (m : DeclarationModule) (options : Options) : Prop where
  missing : m.expand? options = none ↔ ∃ q ∈ m.queries, Text.Marked q.name ∧
    ∃ shape, q.shape m.schema = .ok shape
  items : ∀ tokens, m.expand? options = some tokens ↔
    ∃ codes, m.Emits options codes ∧ tokens = m.assemble codes
  /-- Every constant of a query without a mark can be called as it is. -/
  constants : ∀ q ∈ m.queries, Text.isIdentifier q.constantName = true ↔ ¬Text.Marked q.name
  temporaries : ∀ q ∈ m.queries, ∀ shape, ∀ v ∈ lets (q.body shape).stmts,
    Text.isIdentifier v.name = true
  /-- No converter and no NULL check looks up an index that was not prepared. -/
  indices : ∀ (row : Row) (cursor : Var) (n : Nat), row.Served ((row.prepare cursor).run n).1.1

/-- Whatever module a text declares, and whatever the options are, the module is expanded unless a
query with a marked name is accepted. -/
theorem expands_unless_marked {text : String}
    (hText : Parser.declarationModule.parseText text = .ok m) (options : Options) :
    m.ExpandsUnlessMarked options where
  missing := expand?_eq_none_iff_marked fun _ => isName_of_parseText hText
  items _ := expand?_eq_some_iff
  constants q hQuery := q.isIdentifier_constantName_iff (isName_of_parseText hText hQuery)
  temporaries _ _ _ _ := QueryDeclaration.isIdentifier_lets
  indices := Row.prepare_serves

/-- A module with one query, as a text. -/
def singleQuery (name : String) : String :=
  "mod m \x7b #[query(\"S\")] fn " ++ name ++ "() -> i64; \x7d"

theorem single_query_expands_unless_marked :
    ∃ m, Parser.declarationModule.parseText (singleQuery "f") = .ok m ∧
      m.queries.map (·.name) = ["f"] ∧ m.ExpandsUnlessMarked Options.default := by
  have hRead : (Parser.declarationModule.parseText (singleQuery "f")).toOption.map
      (fun m => m.queries.map (·.name)) = some ["f"] := by
    decide +kernel
  cases hText : Parser.declarationModule.parseText (singleQuery "f") with
  | error e => simp [hText, Except.toOption] at hRead
  | ok m =>
      rw [hText] at hRead
      exact ⟨m, rfl, Option.some.inj hRead, expands_unless_marked hText Options.default⟩

/-- The same query with the mark `r#` is accepted, and the module has no expansion. -/
theorem single_marked_query_has_no_expansion :
    ∃ m, Parser.declarationModule.parseText (singleQuery "r#f") = .ok m ∧ m.errors = [] ∧
      (∃ q ∈ m.queries, ∃ shape, q.shape m.schema = .ok shape) ∧
      m.expand? Options.default = none := by
  have hRead : (Parser.declarationModule.parseText (singleQuery "r#f")).toOption.map
      (fun m => (m.errors, m.expand? Options.default)) = some ([], none) := by
    decide +kernel
  cases hText : Parser.declarationModule.parseText (singleQuery "r#f") with
  | error e => simp [hText, Except.toOption] at hRead
  | ok m =>
      rw [hText] at hRead
      obtain ⟨hErrors, hMissing⟩ := Prod.mk.inj (Option.some.inj hRead)
      obtain ⟨q, hQuery, hAccepted, -⟩ := expand?_eq_none_iff.mp hMissing
      exact ⟨m, rfl, hErrors, ⟨q, hQuery, hAccepted⟩, hMissing⟩

end DeclarationModule

end TypedQuery
