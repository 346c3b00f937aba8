import TypedQuery.Program.Function
import TypedQuery.Proofs.Source.Lexing
import TypedQuery.Proofs.Steps

/-! The names that parsers read. A parser passes over tokens from front to end, so that a name is
among the identifiers ahead even if much was read before it. -/

namespace TypedQuery

namespace Parser

variable {α β : Type}

/-- A sequence of parsers runs the second one on what the first one leaves. -/
theorem run_bind (p : Parser α) (f : α → Parser β) (s : Ahead) :
    (p >>= f).run s = match p.run s with
      | .ok (a, t) => (f a).run t
      | .error e => .error e := rfl

/-- An outcome that is known reads nothing. -/
theorem run_lift (outcome : Except SourceError α) (s : Ahead) :
    (liftM outcome : Parser α).run s = match outcome with
      | .ok a => .ok (a, s)
      | .error e => .error e := rfl

/-- A sequence succeeds exactly if both parsers do, one behind the other. -/
theorem run_bind_ok_iff {p : Parser α} {f : α → Parser β} {s u : Ahead} {b : β} :
    (p >>= f).run s = .ok (b, u) ↔ ∃ a t, p.run s = .ok (a, t) ∧ (f a).run t = .ok (b, u) := by
  rw [run_bind]
  rcases p.run s with e | ⟨a, t⟩ <;> simp

theorem run_pure_ok_iff {a b : α} {s t : Ahead} :
    (pure a : Parser α).run s = .ok (b, t) ↔ a = b ∧ s = t := by
  change Except.ok (a, s) = _ ↔ _
  simp

theorem run_lift_ok_iff {outcome : Except SourceError α} {a : α} {s t : Ahead} :
    (liftM outcome : Parser α).run s = .ok (a, t) ↔ outcome = .ok a ∧ s = t := by
  rw [run_lift]
  cases outcome <;> simp

/-- All results of the parser are of this kind. -/
def Returns (p : Parser α) (Q : α → Prop) : Prop := ∀ s a t, p.run s = .ok (a, t) → Q a

/-- These names of a result are identifiers that were ahead. -/
def Reads (p : Parser α) (names : α → List String) : Prop :=
  ∀ s a t, p.run s = .ok (a, t) → names a ⊆ Tokens.identifiers s.rest

section Rules

variable {Q : α → Prop} {Q' : β → Prop} {names : α → List String} {names' : β → List String}

theorem Returns.pure {a : α} (h : Q a) : (pure a : Parser α).Returns Q := by
  intro s b t hRun
  obtain ⟨rfl, -⟩ := run_pure_ok_iff.mp hRun
  exact h

/-- What a parser gives may be used to say what the next one gives. -/
theorem Returns.bind {p : Parser α} {f : α → Parser β} (hFirst : p.Returns Q)
    (h : ∀ a, Q a → (f a).Returns Q') : (p >>= f).Returns Q' := by
  intro s b u hRun
  obtain ⟨a, t, hStart, hRest⟩ := run_bind_ok_iff.mp hRun
  exact h a (hFirst s a t hStart) t b u hRest

/-- If only the last parser matters, nothing is asked of those before it. -/
theorem Returns.last {p : Parser α} {f : α → Parser β} (h : ∀ a, (f a).Returns Q') :
    (p >>= f).Returns Q' := by
  intro s b u hRun
  obtain ⟨a, t, -, hRest⟩ := run_bind_ok_iff.mp hRun
  exact h a t b u hRest

/-- The identifiers behind a token are identifiers ahead. -/
theorem Reads.last {p : Parser α} {f : α → Parser β} (h : ∀ a, (f a).Reads names') :
    (p >>= f).Reads names' := by
  intro s b u hRun
  obtain ⟨a, t, hStart, hRest⟩ := run_bind_ok_iff.mp hRun
  obtain ⟨front, hFront⟩ := p.keeps hStart
  rw [← hFront, Tokens.identifiers_append]
  exact List.Subset.trans (h a t b u hRest) (List.subset_append_right _ _)

/-- What was read stays, whatever is read behind it. -/
theorem Reads.first {p : Parser α} {f : α → Parser β} (hFirst : p.Reads names)
    (h : ∀ a, (f a).Returns fun b => names' b ⊆ names a) : (p >>= f).Reads names' := by
  intro s b u hRun
  obtain ⟨a, t, hStart, hRest⟩ := run_bind_ok_iff.mp hRun
  exact List.Subset.trans (h a t b u hRest) (hFirst s a t hStart)

/-- A parser that reads nothing may give what has no names. -/
theorem Reads.pure {a : α} (h : names a = []) : (pure a : Parser α).Reads names := by
  intro s b t hRun
  obtain ⟨rfl, -⟩ := run_pure_ok_iff.mp hRun
  rw [h]
  exact List.nil_subset _

theorem Returns.throw (e : SourceError) : (throw e : Parser α).Returns Q := by
  rintro s a t ⟨⟩

end Rules

theorem returns_fail {Q : α → Prop} (w : Wanted) : (fail w : Parser α).Returns Q :=
  .last fun _ => .throw _

theorem returns_failAll {Q : α → Prop} (ws : List Wanted) : (failAll ws : Parser α).Returns Q :=
  .last fun _ => .throw _

theorem reads_identifier : identifier.Reads fun name => [name] := by
  intro s name t hRun
  unfold identifier at hRun
  obtain ⟨ts, s', hRest, hRun⟩ := run_bind_ok_iff.mp hRun
  cases hRest
  split at hRun
  · rename_i text rest hAhead
    split at hRun
    · obtain ⟨_, _, -, hRun⟩ := run_bind_ok_iff.mp hRun
      obtain ⟨rfl, -⟩ := run_pure_ok_iff.mp hRun
      rw [hAhead]
      rw [Tokens.identifiers_cons, Tokens.identifiers_ident]
      exact List.subset_append_left _ _
    · exact absurd hRun ((returns_fail (Q := fun _ => False) _) _ _ _)
  · exact absurd hRun ((returns_fail (Q := fun _ => False) _) _ _ _)

end Parser

namespace Grammar

/-- The name of a function is among the names ahead of its signature. -/
theorem reads_signature (g : Grammar) : g.signature.Reads fun s => [s.name] := by
  unfold signature
  refine .last fun _ => .last fun _ => .first Parser.reads_identifier fun name => ?_
  refine .last fun parameters => .last fun arguments => .last fun hasOutput => ?_
  cases hasOutput with
  | true =>
      refine .last fun _ => .last fun _ => .last fun _ => .last fun _ => ?_
      exact .pure (List.Subset.refl _)
  | false => exact .last fun _ => .last fun _ => .pure (List.Subset.refl _)

/-- The name of a method is the one in its signature. -/
theorem reads_method (g : Grammar) (attributes : List Attribute) :
    (g.method attributes).Reads fun m => [m.signature.name] := by
  unfold method
  refine .first g.reads_signature fun s => .last fun hasBody => ?_
  cases hasBody with
  | true => exact .last fun _ => .pure (List.Subset.refl _)
  | false =>
      refine .last fun ends => ?_
      cases ends with
      | true => exact .last fun _ => .pure (List.Subset.refl _)
      | false => exact Parser.returns_failAll _

end Grammar

/-- A query has the name of its method, with the mark if there is one. -/
theorem QueryDeclaration.name_ofMethod {visibility : Tokens} {m : Method} {q : QueryDeclaration}
    (h : ofMethod visibility m = .ok q) : q.name = m.signature.name := by
  unfold ofMethod at h
  split at h
  · cases h
  · obtain ⟨query, -, h⟩ := bind_eq_ok_iff.mp h
    generalize m.body.isSome = hasBody at h
    generalize m.signature.parameters.isEmpty = isPlain at h
    cases hasBody with
    | true => cases h
    | false =>
        cases isPlain with
        | false => cases h
        | true =>
            obtain ⟨arguments, -, h⟩ := bind_eq_ok_iff.mp h
            split at h
            · cases h
            · cases h
              rfl

/-- The name of the function, if the item is a query that could be read. -/
def ModuleItem.queryNames : ModuleItem → List String
  | .query (.ok q) => [q.name]
  | .query (.error _) | .struct .. | .other _ => []

namespace Parser

variable {α : Type} {names : α → List String}

/-- A construct that nests is read at some level of the grammar. -/
theorem reads_nested {p : Grammar → Parser α} (h : ∀ g, (p g).Reads names) :
    (nested p).Reads names :=
  .last fun _ => h _

theorem reads_method : method.Reads fun m => [m.signature.name] :=
  .last fun attributes => reads_nested fun g => g.reads_method attributes

/-- A fault that is reported later does not stop the parser. -/
theorem returns_reported (outcome : Except SourceError α) :
    (reported outcome).Returns fun found => found = outcome := by
  unfold reported
  split
  · exact .throw _
  · exact .pure rfl

/-- An item names the query that it declares, if it is one. -/
theorem reads_moduleItem : moduleItem.Reads ModuleItem.queryNames := by
  unfold moduleItem
  refine .last fun isQuery => ?_
  cases isQuery with
  | true =>
      refine .last fun attributes => .last fun visibility => .first reads_method fun declared => ?_
      refine .bind (returns_reported _) fun found hFound => .pure ?_
      subst hFound
      cases hQuery : QueryDeclaration.ofMethod visibility { declared with attributes } with
      | error e => exact List.nil_subset _
      | ok q =>
          have hName := QueryDeclaration.name_ofMethod hQuery
          simp [ModuleItem.queryNames, hName]
  | false =>
      refine .last fun found => ?_
      cases found with
      | struct s => exact .last fun _ => .pure rfl
      | other ts => exact .pure rfl

/-- A repetition names what its steps name, in their order. -/
theorem reads_collect {step : Parser (Option α)}
    (h : step.Reads fun found => found.elim [] names) (fuel : Nat) :
    (collect step fuel).Reads fun found => found.flatMap names := by
  induction fuel with
  | zero => exact .pure rfl
  | succ fuel ih =>
      intro s all u hRun
      rw [collect] at hRun
      obtain ⟨found, t, hStep, hRun⟩ := run_bind_ok_iff.mp hRun
      cases found with
      | none =>
          obtain ⟨rfl, -⟩ := run_pure_ok_iff.mp hRun
          exact List.nil_subset _
      | some a =>
          obtain ⟨more, t', hMore, hRun⟩ := run_bind_ok_iff.mp hRun
          obtain ⟨rfl, -⟩ := run_pure_ok_iff.mp hRun
          obtain ⟨front, hFront⟩ := step.keeps hStep
          refine List.append_subset.mpr ⟨h _ _ _ hStep, ?_⟩
          rw [← hFront, Tokens.identifiers_append]
          exact List.Subset.trans (ih _ _ _ hMore) (List.subset_append_right _ _)

theorem reads_repeatToEnd {p : Parser α} (h : p.Reads names) :
    (repeatToEnd p).Reads fun found => found.flatMap names := by
  refine .last fun ts => reads_collect (.last fun goesOn => ?_) _
  cases goesOn with
  | true => exact .first h fun a => .pure (List.Subset.refl _)
  | false => exact .pure rfl

/-- The names in a group are names of the code around it. -/
theorem reads_inside {p : Parser α} (h : p.Reads names) (delimiter : Delimiter) :
    (inside delimiter p).Reads names := by
  intro s a t hRun
  unfold inside at hRun
  obtain ⟨ts, s', hRest, hRun⟩ := run_bind_ok_iff.mp hRun
  cases hRest
  split at hRun
  · rename_i found inner rest hAhead
    split at hRun
    · obtain ⟨⟨b, u⟩, s'', hInner, hRun⟩ := run_bind_ok_iff.mp hRun
      obtain ⟨_, _, -, hRun⟩ := run_bind_ok_iff.mp hRun
      obtain ⟨rfl, -⟩ := run_pure_ok_iff.mp hRun
      obtain ⟨hInner, -⟩ := run_lift_ok_iff.mp hInner
      rw [hAhead, Tokens.identifiers_cons, Tokens.identifiers_group]
      exact List.Subset.trans (h _ _ _ hInner) (List.subset_append_left _ _)
    · exact absurd hRun ((returns_fail (Q := fun _ => False) _) _ _ _)
  · exact absurd hRun ((returns_fail (Q := fun _ => False) _) _ _ _)

/-- The names of all queries of a module are among the names of its text. -/
theorem reads_declarationModule :
    declarationModule.Reads fun m => m.items.flatMap ModuleItem.queryNames := by
  unfold declarationModule
  refine .last fun _ => .last fun _ => .last fun _ => .last fun _ => ?_
  exact .first (reads_inside (reads_repeatToEnd reads_moduleItem) .brace) fun items =>
    .pure (List.Subset.refl _)

/-- The names of a text are identifiers among its tokens, and so they are spelled like names. -/
theorem isName_of_parseText {p : Parser α} (h : p.Reads names) {text : String} {a : α}
    (hText : p.parseText text = .ok a) : ∀ name ∈ names a, Text.IsName name := by
  unfold parseText at hText
  split at hText
  · cases hText
  · rename_i ts hTokens
    unfold parse at hText
    split at hText
    · cases hText
    · rename_i found rest hRun
      split at hText
      · cases hText
      · obtain rfl := Except.ok.inj hText
        exact fun name hName => Lexer.named_tokens hTokens name (h _ _ _ hRun hName)

end Parser

/-- In a module that was read from a text every query has a name. -/
theorem DeclarationModule.isName_of_parseText {text : String} {m : DeclarationModule}
    (h : Parser.declarationModule.parseText text = .ok m) {q : QueryDeclaration}
    (hQuery : q ∈ m.queries) : Text.IsName q.name := by
  refine Parser.isName_of_parseText Parser.reads_declarationModule h q.name ?_
  obtain ⟨item, hItem, hFound⟩ := List.mem_filterMap.mp hQuery
  refine List.mem_flatMap.mpr ⟨item, hItem, ?_⟩
  split at hFound
  · obtain rfl := Option.some.inj hFound
    exact List.mem_singleton_self _
  · cases hFound

end TypedQuery
