import TypedQuery.Proofs.Program.Emission

namespace TypedQuery

/-- One thing that a statement does with a cursor. -/
inductive CursorUse where
  /-- Bind a variable to the answer of a query. -/
  | sends (out : Var)
  /-- Drain a cursor into a snapshot. -/
  | copies (out cursor : Var) (mutable : Bool)
  /-- Bind a variable to related rows. -/
  | fetches (out : Var) (query : RelationQuery)
  /-- Move over a cursor, or to its first row. -/
  | walks (cursor : Var)
  /-- Go back before the first row, or ask whether there are rows without a move. Only a snapshot
  can do either. -/
  | rewinds (cursor : Var)

namespace CursorUse

/-- The cursor that is moved to later rows. -/
def advanced? : CursorUse → Option Var
  | copies _ cursor _ | walks cursor => some cursor
  | _ => none

/-- The variable that is bound to a snapshot. -/
def snapshot? : CursorUse → Option Var
  | copies out _ _ | fetches out _ => some out
  | _ => none

def query? : CursorUse → Option RelationQuery
  | fetches _ q => some q
  | _ => none

end CursorUse

namespace Stmt

open CursorUse

/-- What a statement does by itself. -/
def ownUses : Stmt → List CursorUse
  | query out _ _ => [sends out]
  | copy out cursor mutable => [copies out cursor mutable]
  | fetch out _ q => [fetches out q]
  | whileRows cursor _ | firstRow _ cursor _ _ _ => [walks cursor]
  | reset cursor | unlessEmpty cursor _ => [rewinds cursor]
  | _ => []

mutual

/-- What a statement and the statements inside it do, in the order of the code. -/
def uses : Stmt → List CursorUse
  | whileRows cursor body => walks cursor :: usesAll body
  | firstRow _ cursor _ body _ => walks cursor :: usesAll body
  | unlessEmpty cursor body => rewinds cursor :: usesAll body
  | block body => usesAll body
  | s => ownUses s

def usesAll : List Stmt → List CursorUse
  | [] => []
  | s :: rest => uses s ++ usesAll rest

end

@[simp]
theorem usesAll_nil : usesAll [] = [] := by
  rw [usesAll]

@[simp]
theorem usesAll_cons (s : Stmt) (rest : List Stmt) :
    usesAll (s :: rest) = uses s ++ usesAll rest := by
  rw [usesAll]

@[simp]
theorem usesAll_append (code rest : List Stmt) :
    usesAll (code ++ rest) = usesAll code ++ usesAll rest := by
  induction code with
  | nil => simp
  | cons s code ih => simp [ih]

theorem usesAll_eq_nil {code : List Stmt} (h : ∀ s ∈ code, uses s = []) : usesAll code = [] := by
  induction code with
  | nil => simp
  | cons s rest ih =>
      rw [List.forall_mem_cons] at h
      rw [usesAll_cons, h.1, ih h.2]
      rfl

/-- Code that moves over one cursor and the related rows that it fetches, and over nothing else. -/
def KeepsTo (cursor : Var) (code : List Stmt) : Prop :=
  ∀ u ∈ usesAll code,
    (∃ i q, u = fetches (.temporary "related" i) q) ∨
      ∃ v, (u = walks v ∨ u = rewinds v) ∧ (v = cursor ∨ ∃ q, fetches v q ∈ usesAll code)

theorem KeepsTo.of_usesAll_eq_nil {cursor : Var} {code : List Stmt} (h : usesAll code = []) :
    KeepsTo cursor code := by
  simp [KeepsTo, h]

/-- Two pieces that keep to one cursor keep to it together. -/
theorem KeepsTo.append {cursor : Var} {code rest : List Stmt} (hCode : KeepsTo cursor code)
    (hRest : KeepsTo cursor rest) : KeepsTo cursor (code ++ rest) := by
  have hWiden {part : List Stmt} {u : CursorUse} (hPart : KeepsTo cursor part)
      (hSub : ∀ w ∈ usesAll part, w ∈ usesAll (code ++ rest)) (hu : u ∈ usesAll part) :
      (∃ i q, u = fetches (.temporary "related" i) q) ∨
        ∃ v, (u = walks v ∨ u = rewinds v) ∧
          (v = cursor ∨ ∃ q, fetches v q ∈ usesAll (code ++ rest)) := by
    rcases hPart u hu with hFetch | ⟨v, hMove, hOwn⟩
    · exact Or.inl hFetch
    · exact Or.inr ⟨v, hMove, hOwn.imp_right fun ⟨q, hq⟩ => ⟨q, hSub _ hq⟩⟩
  intro u hu
  rw [usesAll_append, List.mem_append] at hu
  rcases hu with hu | hu
  · exact hWiden hCode (fun w hw => by simp [hw]) hu
  · exact hWiden hRest (fun w hw => by simp [hw]) hu

end Stmt

open Stmt CursorUse

namespace EntityRow

mutual

/-- The secondary queries of a struct and of the structs inside it, in the order in which they are
sent. -/
def queries : EntityRow → List RelationQuery
  | mk _ _ relations => relationQueries relations

def relationQueries : List (RelationField × EntityRow) → List RelationQuery
  | [] => []
  | (r, entity) :: rest => r.query :: queries entity ++ relationQueries rest

end

/-- A lookup asks for a column and moves nothing. -/
theorem usesAll_prepareColumns (cursor : Var) (fields : List ColumnField) (n : Nat) :
    usesAll ((prepareColumns cursor fields).run n).1.2 = [] := by
  rw [prepareColumns_run]
  apply usesAll_eq_nil
  intro s hs
  obtain ⟨⟨f, i⟩, -, rfl⟩ := List.mem_map.mp hs
  rfl

section Relation

variable (cursor : Var) (r : RelationField) (entity : EntityRow) (bindings : Bindings)
  (ready : List Stmt) (n : Nat)

/-- The code of a relation field moves over its cursor and goes back, fetches the related rows, and
moves over them. -/
theorem usesAll_relationCode :
    usesAll (relationCode cursor r entity bindings ready n) =
      [walks cursor, rewinds cursor, fetches (.temporary "related" (n + 3)) r.query,
        rewinds (.temporary "related" (n + 3))] ++ usesAll ready ++
        [walks (.temporary "related" (n + 3))] := by
  simp [relationCode, relatedCode, groupingCode, convert, uses, ownUses]

variable {ready}

/-- A collector goes over its cursor and back, and over what it fetches. -/
theorem relationCode_keepsTo (h : KeepsTo (.temporary "related" (n + 3)) ready) :
    KeepsTo cursor (relationCode cursor r entity bindings ready n) := by
  intro u hu
  rw [usesAll_relationCode] at hu ⊢
  simp only [List.mem_append, List.mem_cons, List.not_mem_nil, or_false] at hu ⊢
  rcases hu with ((rfl | rfl | rfl | rfl) | hu) | rfl
  · exact Or.inr ⟨cursor, Or.inl rfl, Or.inl rfl⟩
  · exact Or.inr ⟨cursor, Or.inr rfl, Or.inl rfl⟩
  · exact Or.inl ⟨_, _, rfl⟩
  · exact Or.inr ⟨_, Or.inr rfl, Or.inr ⟨r.query, by simp⟩⟩
  · rcases h u hu with hFetch | ⟨v, hMove, rfl | ⟨q, hq⟩⟩
    · exact Or.inl hFetch
    · exact Or.inr ⟨_, hMove, Or.inr ⟨r.query, by simp⟩⟩
    · exact Or.inr ⟨v, hMove, Or.inr ⟨q, by simp [hq]⟩⟩
  · exact Or.inr ⟨_, Or.inl rfl, Or.inr ⟨r.query, by simp⟩⟩

end Relation

mutual

/-- Preparation moves over its cursor for each relation field, and over what it fetches. -/
theorem prepare_keepsTo (cursor : Var) : (e : EntityRow) → (n : Nat) →
    KeepsTo cursor ((e.prepare cursor).run n).1.2
  | .mk path fields relations, n => by
      rw [prepare_run]
      have hLookups := usesAll_prepareColumns cursor fields n
      exact (KeepsTo.of_usesAll_eq_nil hLookups).append
        (prepareRelations_keepsTo cursor relations _)

theorem prepareRelations_keepsTo (cursor : Var) :
    (relations : List (RelationField × EntityRow)) → (n : Nat) →
    KeepsTo cursor ((prepareRelations cursor relations).run n).1.2
  | [], n => by
      rw [prepareRelations_nil]
      exact KeepsTo.of_usesAll_eq_nil usesAll_nil
  | (r, entity) :: rest, n => by
      rw [prepareRelations_cons]
      have hInner := prepare_keepsTo (.temporary "related" (n + 3)) entity (n + 7)
      exact (relationCode_keepsTo cursor r entity _ n hInner).append
        (prepareRelations_keepsTo cursor rest _)

end

mutual

/-- Preparation fetches with the queries of the struct. -/
theorem queries_prepare (cursor : Var) : (e : EntityRow) → (n : Nat) →
    (usesAll ((e.prepare cursor).run n).1.2).filterMap query? = e.queries
  | .mk path fields relations, n => by
      rw [prepare_run, queries]
      simp only [usesAll_append, usesAll_prepareColumns, List.nil_append]
      exact queries_prepareRelations cursor relations _

/-- Collectors fetch in the order of their fields. -/
theorem queries_prepareRelations (cursor : Var) :
    (relations : List (RelationField × EntityRow)) → (n : Nat) →
    (usesAll ((prepareRelations cursor relations).run n).1.2).filterMap query? =
      relationQueries relations
  | [], n => by
      rw [prepareRelations_nil, relationQueries]
      simp
  | (r, entity) :: rest, n => by
      rw [prepareRelations_cons, relationQueries]
      simp only [usesAll_append, usesAll_relationCode, List.filterMap_append]
      rw [queries_prepare, queries_prepareRelations]
      simp [query?, List.filterMap_cons]

end

/-- Without relation fields preparation looks up columns, and no more. -/
theorem usesAll_prepare_of_plain (cursor : Var) {e : EntityRow} (n : Nat)
    (hPlain : e.relations = []) : usesAll ((e.prepare cursor).run n).1.2 = [] := by
  obtain ⟨path, fields, relations⟩ := e
  obtain rfl : relations = [] := hPlain
  rw [prepare_run]
  simp [usesAll_prepareColumns, prepareRelations_nil]

end EntityRow

end TypedQuery
