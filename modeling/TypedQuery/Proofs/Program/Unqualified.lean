import TypedQuery.Proofs.Result.Mapping
import TypedQuery.Proofs.Source.Lexing

/-! Names that are looked up by themselves: neither behind a path nor as the name of a lifetime. A
name that stands so in a type stands so in every type that a constructor makes of it. -/

namespace TypedQuery

namespace Tokens

/-- Tokens after which a name is not looked up by itself: it continues a path, or it is the name of
a lifetime. -/
def Qualifies (front : Tokens) : Prop :=
  Token.operator "::" <:+ front ∨ [.punct '\'' true] <:+ front

/-- The name stands in the tokens, at any depth, and is looked up by itself. -/
inductive Unqualified (name : String) : Tokens → Prop where
  | here {front back : Tokens} (h : ¬Qualifies front) :
      Unqualified name (front ++ .ident name :: back)
  | inside {delimiter : Delimiter} {inner all : Tokens} (hGroup : .group delimiter inner ∈ all)
      (h : Unqualified name inner) : Unqualified name all

/-- What stands behind these tokens is looked up as if it stood alone. -/
def Opens (front : Tokens) : Prop := ∀ more, Qualifies (front ++ more) → Qualifies more

variable {name : String} {front ts : Tokens}

/-- Only a colon and a quote continue into what stands behind them. -/
theorem opens_of_punct {c : Char} {joint : Bool} (hColon : c ≠ ':') (hQuote : c ≠ '\'')
    (hLast : [.punct c joint] <:+ front) : Opens front := by
  obtain ⟨front, rfl⟩ := hLast
  intro more h
  unfold Qualifies at h ⊢
  rw [List.append_assoc] at h
  simp only [← List.reverse_prefix, List.reverse_append] at h ⊢
  have hOperator : (Token.operator "::").reverse = [.punct ':' false, .punct ':' true] := rfl
  rw [hOperator] at h ⊢
  cases hMore : more.reverse with
  | nil => simp_all [hColon.symm, hQuote.symm]
  | cons last rest =>
      cases rest with
      | nil => simp_all [hColon.symm]
      | cons before rest => simp_all

theorem Unqualified.between (h : Unqualified name ts) (hFront : Opens front) (back : Tokens) :
    Unqualified name (front ++ ts ++ back) := by
  cases h with
  | @here before after hAlone =>
      have hWhole : Unqualified name (front ++ before ++ .ident name :: (after ++ back)) :=
        .here (mt (hFront before) hAlone)
      simpa using hWhole
  | inside hGroup h =>
      exact .inside (List.mem_append_left _ (List.mem_append_right _ hGroup)) h

/-- A name alone is looked up by itself. -/
theorem unqualified_ident (name : String) : Unqualified name [.ident name] := by
  have hFront : ¬Qualifies [] := by
    rintro (h | h) <;> cases List.suffix_nil.mp h
  exact .here hFront

theorem Unqualified.mem_identifiers (h : Unqualified name ts) : name ∈ ts.identifiers := by
  induction h with
  | here =>
      refine identifiers_subset ⟨_, _, List.append_cons _ _ _ |>.symm⟩ ?_
      rw [identifiers_ident]
      exact List.mem_singleton_self _
  | @inside delimiter inner all hGroup _ ih =>
      obtain ⟨front, back, rfl⟩ := List.append_of_mem hGroup
      have hInner : name ∈ identifiers [.group delimiter inner] := by
        rwa [identifiers_group]
      exact identifiers_subset ⟨front, back, (List.append_cons _ _ _).symm⟩ hInner

end Tokens

namespace TypeExpr

/-- The types among the arguments stand behind a comma, if not first of all. -/
theorem exists_otherTokens {args : List (GenericArgument TypeExpr)} {argument : TypeExpr}
    (hMem : .type argument ∈ args) (trailing separated : Bool) :
    ∃ front back, otherTokens args trailing separated = front ++ argument.tokens ++ back ∧
      (front = [] ∧ separated = true ∨ ∃ more, front = more ++ comma) := by
  induction args generalizing separated with
  | nil => cases hMem
  | cons a rest ih =>
      -- An argument with another one behind it has a comma, so the rest is separated.
      have hLater (own : Tokens) (hRest : .type argument ∈ rest) :
          ∃ front back, (if separated then [] else comma) ++ own ++
              (if !rest.isEmpty || trailing then comma else []) ++
              otherTokens rest trailing (!rest.isEmpty || trailing) =
                front ++ argument.tokens ++ back ∧
            (front = [] ∧ separated = true ∨ ∃ more, front = more ++ comma) := by
        have hComma : (!rest.isEmpty || trailing) = true := by
          cases rest with
          | nil => cases hRest
          | cons => rfl
        obtain ⟨front, back, hTokens, hFront⟩ := ih hRest (!rest.isEmpty || trailing)
        rw [hTokens, hComma, if_pos rfl]
        refine ⟨(if separated then [] else comma) ++ own ++ comma ++ front, back, ?_, Or.inr ?_⟩
        · simp only [List.append_assoc]
        · rcases hFront with ⟨rfl, -⟩ | ⟨more, rfl⟩
          · exact ⟨_, List.append_nil _⟩
          · exact ⟨_, (List.append_assoc _ _ _).symm⟩
      cases a with
      | lifetime l =>
          rw [otherTokens]
          exact ih (by simpa using hMem) separated
      | type t =>
          rw [otherTokens]
          rcases List.mem_cons.mp hMem with hSame | hRest
          · cases hSame
            refine ⟨if separated then [] else comma,
              (if !rest.isEmpty || trailing then comma else []) ++
                otherTokens rest trailing (!rest.isEmpty || trailing), ?_, ?_⟩
            · simp only [List.append_assoc]
            · cases separated with
              | false => exact Or.inr ⟨[], rfl⟩
              | true => exact Or.inl ⟨rfl, rfl⟩
          · exact hLater t.tokens hRest
      | other ts =>
          rw [otherTokens]
          exact hLater ts (by simpa using hMem)

/-- What separates lifetimes from the other arguments is a comma, if there are any lifetimes. -/
theorem lifetimeTokens_separated {args : List (GenericArgument TypeExpr)} {trailing : Bool}
    (h : (lifetimeTokens args trailing).2 = true) :
    (lifetimeTokens args trailing).1 = [] ∨
      ∃ more, (lifetimeTokens args trailing).1 = more ++ comma := by
  induction args with
  | nil => exact Or.inl (by rw [lifetimeTokens])
  | cons a rest ih =>
      rw [lifetimeTokens] at h ⊢
      cases a with
      | type | other => exact ih h
      | lifetime l =>
          dsimp only at h ⊢
          by_cases hNone : (lifetimeTokens rest trailing).1 = []
          · rw [hNone, List.isEmpty_nil, if_pos rfl] at h
            exact Or.inr ⟨l, by rw [hNone, h, if_pos rfl, List.append_nil]⟩
          · rw [if_neg (mt List.isEmpty_iff.mp hNone)] at h
            obtain ⟨more, hMore⟩ := (ih h).resolve_left hNone
            exact Or.inr ⟨_, by rw [hMore, ← List.append_assoc]⟩

/-- The types among the arguments are looked up by themselves: in front of each stands the bracket
or a comma. -/
theorem opens_argument {args : List (GenericArgument TypeExpr)} {trailing : Bool} {front : Tokens}
    (h : front = [] ∧ (lifetimeTokens args trailing).2 = true ∨ ∃ more, front = more ++ comma)
    (before : Tokens) : Tokens.Opens
      (before ++ Token.operator "<" ++ (lifetimeTokens args trailing).1 ++ front) := by
  have hComma {more ts : Tokens} (hts : ts = more ++ comma) (before : Tokens) :
      Tokens.Opens (before ++ ts) := by
    rw [hts, ← List.append_assoc]
    exact Tokens.opens_of_punct (by decide) (by decide) (List.suffix_append _ comma)
  rcases h with ⟨rfl, hSeparated⟩ | ⟨more, hMore⟩
  · rw [List.append_nil]
    rcases lifetimeTokens_separated hSeparated with hNone | ⟨more, hMore⟩
    · rw [hNone, List.append_nil]
      exact Tokens.opens_of_punct (by decide) (by decide)
        (List.suffix_append _ (Token.operator "<"))
    · exact hComma hMore _
  · exact hComma hMore _

/-- A name in an argument of a type stands in the type. -/
theorem Applies.unqualified {type argument : TypeExpr} {constructor name : String}
    {args : List TypeExpr} (h : type.Applies constructor args) (hMem : argument ∈ args)
    (hName : Tokens.Unqualified name argument.tokens) : Tokens.Unqualified name type.tokens := by
  cases h with
  | bare => cases hMem
  | angle qualifier constructor turbofish all trailing =>
      obtain ⟨a, ha, hArgument⟩ := List.mem_filterMap.mp hMem
      have hOwn : a = .type argument := by
        cases a <;> simp_all [GenericArgument.type?]
      subst hOwn
      obtain ⟨front, back, hTokens, hFront⟩ :=
        exists_otherTokens ha trailing (lifetimeTokens all trailing).2
      have hOpens := opens_argument hFront
        (qualifier ++ .ident constructor :: if turbofish then Token.operator "::" else [])
      have hWhole := hName.between hOpens (back ++ Token.operator ">")
      rw [tokens, argumentTokens]
      dsimp only
      rw [hTokens]
      simpa only [List.append_assoc, List.cons_append] using hWhole

end TypeExpr

end TypedQuery
