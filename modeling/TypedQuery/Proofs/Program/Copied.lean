import TypedQuery.Proofs.Program.Visibility
import TypedQuery.Proofs.Result.Elements

/-! The tokens that emitted code takes from declarations: names and types of fields, names of
structs and arguments, and the declared type. What holds of all tokens of the declarations, and of
every part of such tokens, holds of whatever is taken. -/

namespace TypedQuery

open Stmt

variable {P : Tokens → Prop}

/-- What a statement takes from declarations satisfies the condition. -/
def Stmt.Takes (P : Tokens → Prop) : Stmt → Prop
  | query _ _ args => ∀ a ∈ args, P [.ident a]
  | read _ _ _ type => P type.tokens
  | build _ _ path fields relations =>
    P path ∧ (∀ f ∈ fields, P [.ident f.name] ∧ P f.type.tokens) ∧
      ∀ g ∈ relations, P [.ident g.name]
  | newGroups _ element => P element
  | _ => True

/-- A declared field. Of a relation field only the name counts: its type is read as the name of a
struct. -/
def MappedField.Takes (P : Tokens → Prop) : MappedField → Prop
  | column name _ type => P [.ident name] ∧ P type.tokens
  | relation name _ _ => P [.ident name]

structure Entity.Takes (P : Tokens → Prop) (e : Entity) : Prop where
  name : P [.ident e.name]
  fields : ∀ f ∈ e.fields, f.Takes P

/-- What is built from a row. -/
inductive EntityRow.Takes (P : Tokens → Prop) : EntityRow → Prop where
  | mk {path : List Token} {fields : List ColumnField}
      {relations : List (RelationField × EntityRow)} (hPath : P path)
      (hFields : ∀ f ∈ fields, P [.ident f.name] ∧ P f.type.tokens)
      (hNames : ∀ r ∈ relations, P [.ident r.1.name])
      (hRelated : ∀ r ∈ relations, Takes P r.2) : Takes P (.mk path fields relations)

def Row.Takes (P : Tokens → Prop) : Row → Prop
  | scalar type _ => P type.tokens
  | entity e => e.Takes P

def Shape.Takes (P : Tokens → Prop) (shape : Shape) : Prop := ∀ row ∈ shape.parts, row.Takes P

/-- Each type among generic arguments stands in their tokens. -/
theorem TypeExpr.infix_of_mem_otherTokens {args : List (GenericArgument TypeExpr)}
    {argument : TypeExpr} (hMem : .type argument ∈ args) (trailing separated : Bool) :
    argument.tokens <:+: otherTokens args trailing separated := by
  induction args generalizing separated with
  | nil => cases hMem
  | cons a rest ih =>
      cases a with
      | lifetime l =>
          rw [otherTokens]
          exact ih (by simpa using hMem) separated
      | type t =>
          rw [otherTokens]
          rcases List.mem_cons.mp hMem with hSame | hMem
          · cases hSame
            rw [List.append_assoc]
            exact List.infix_append _ _ _
          · exact (ih hMem _).trans (List.suffix_append _ _).isInfix
      | other ts =>
          rw [otherTokens]
          exact (ih (by simpa using hMem) _).trans (List.suffix_append _ _).isInfix

/-- The types that a constructor is applied to stand in the tokens of the type. -/
theorem TypeExpr.Applies.isInfix {type argument : TypeExpr} {name : String} {args : List TypeExpr}
    (h : type.Applies name args) (hMem : argument ∈ args) : argument.tokens <:+: type.tokens := by
  cases h with
  | bare => cases hMem
  | angle qualifier name turbofish all trailing =>
      obtain ⟨a, ha, hArgument⟩ := List.mem_filterMap.mp hMem
      have hOwn : a = .type argument := by
        cases a <;> simp_all [GenericArgument.type?]
      subst hOwn
      rw [tokens, argumentTokens]
      refine (infix_of_mem_otherTokens ha trailing (lifetimeTokens all trailing).2).trans ?_
      refine List.IsInfix.trans ?_ (List.suffix_append _ _).isInfix
      refine List.IsInfix.trans ?_ (List.suffix_cons _ _).isInfix
      exact List.infix_append _ _ _

namespace Schema

variable {schema : Schema} (hSchema : ∀ e ∈ schema, e.Takes P)
include hSchema

/-- A struct that is found has been declared, so its tokens are those of a declaration. -/
theorem takes_of_entity? {type : TypeExpr} {e : Entity} (h : schema.entity? type = some e) :
    e.Takes P := by
  obtain ⟨name, -, hFound⟩ := Option.bind_eq_some_iff.mp h
  exact hSchema e (List.mem_of_find?_eq_some hFound)

omit hSchema in
/-- Column fields bring their names and types from the declared struct. -/
theorem takes_columnFields {e : Entity} (h : e.Takes P) :
    ∀ f ∈ e.fields.filterMap columnField?, P [.ident f.name] ∧ P f.type.tokens := by
  intro f hMem
  obtain ⟨field, hField, hColumn⟩ := List.mem_filterMap.mp hMem
  cases field with
  | column name column type =>
      obtain rfl := Option.some.inj hColumn
      exact h.fields _ hField
  | relation => cases hColumn

/-- What a struct is built as has no other tokens than the struct. -/
theorem BuildsEntity.takes {e : Entity} {built : EntityRow} (h : schema.BuildsEntity e built)
    (he : e.Takes P) : built.Takes P := by
  obtain ⟨filled, hFilled, rfl⟩ := h
  have hFills (r : RelationField × EntityRow) (hMem : r ∈ filled) :
      ∃ field ∈ e.relations, schema.FillsRelation field r := exists_of_forall₂_right hFilled hMem
  refine .mk he.name (takes_columnFields he) (fun r hMem => ?_) fun r hMem => ?_
  · obtain ⟨⟨name, type, mapping⟩, hField, _, _, _, _, rfl⟩ := hFills r hMem
    exact he.fields _ (Entity.mem_relations.mp hField)
  · obtain ⟨field, hField, _, related, _, ⟨_, _, hRelated, _, _⟩, rfl⟩ := hFills r hMem
    have hOwn := takes_of_entity? hSchema hRelated
    exact .mk hOwn.name (takes_columnFields hOwn) (fun _ hMem => nomatch hMem)
      fun _ hMem => nomatch hMem

/-- A scalar has the tokens of its type, and a struct those of its declaration. -/
theorem MapsRow.takes {type : TypeExpr} {column : Option String} {row : Row}
    (h : schema.MapsRow type column row) (hType : P type.tokens) : row.Takes P := by
  cases h with
  | scalar => exact hType
  | entity hEntity hBuilt => exact hBuilt.takes hSchema (takes_of_entity? hSchema hEntity)

/-- A shape takes parts of the structs and of the declared type. -/
theorem takes_of_shape (hInfix : ∀ {ts all : Tokens}, ts <:+: all → P all → P ts)
    {type : TypeExpr} {columns : ResultColumns} {shape : Shape}
    (h : schema.shape type columns = .ok shape) (hType : P type.tokens) : shape.Takes P := by
  have hArgument {constructor : String} {args : List TypeExpr} {argument : TypeExpr}
      (hApplies : type.Applies constructor args) (hMem : argument ∈ args) :
      P argument.tokens := hInfix (hApplies.isInfix hMem) hType
  have hOne {t : TypeExpr} {column : Option String} {row : Row} (hRow : schema.MapsRow t column row)
      (ht : P t.tokens) : ∀ part ∈ [row], part.Takes P := by
    rw [List.forall_mem_singleton]
    exact hRow.takes hSchema ht
  rw [shape_ok_iff] at h
  cases h with
  | blob _ hRow => exact hOne hRow hType
  | list h hRow => exact hOne hRow (hArgument h.1 List.mem_cons_self)
  | optional h _ hRow => exact hOne hRow (hArgument h List.mem_cons_self)
  | flattened _ _ hRow => exact hOne hRow hType
  | stream h hRow => exact hOne hRow (hArgument h List.mem_cons_self)
  | map h _ hKey _ hValue =>
      have hBoth := hOne hValue (hArgument h (List.mem_cons_of_mem _ List.mem_cons_self))
      exact List.forall_mem_cons.mpr ⟨hKey.takes hSchema (hArgument h List.mem_cons_self), hBoth⟩
  | multimap h hList hKey _ hValue =>
      have hItem := hInfix (hList.1.isInfix List.mem_cons_self)
        (hArgument h (List.mem_cons_of_mem _ List.mem_cons_self))
      exact List.forall_mem_cons.mpr
        ⟨hKey.takes hSchema (hArgument h List.mem_cons_self), hOne hValue hItem⟩
  | rows => exact fun _ hMem => nomatch hMem
  | rowCount => exact fun _ hMem => nomatch hMem
  | single _ hRow => exact hOne hRow hType

end Schema

/-- What the statements of some code take, in any block, satisfies the condition. -/
def Stmt.AllTake (P : Tokens → Prop) (code : List Stmt) : Prop := ∀ s ∈ deep code, s.Takes P

namespace Stmt

@[simp]
theorem allTake_nil : AllTake P [] := by
  simp [AllTake]

@[simp]
theorem allTake_cons {s : Stmt} {rest : List Stmt} :
    AllTake P (s :: rest) ↔ s.Takes P ∧ AllTake P s.body ∧ AllTake P rest := by
  simp [AllTake, or_imp, forall_and]

@[simp]
theorem allTake_append {code rest : List Stmt} :
    AllTake P (code ++ rest) ↔ AllTake P code ∧ AllTake P rest := by
  simp [AllTake, or_imp, forall_and]

end Stmt

namespace EntityRow

/-- A struct expression takes names and types of fields, which the struct has. -/
theorem Takes.convert {e : EntityRow} (h : e.Takes P) (b : Bindings) (out cursor : Var) :
    (e.convert b out cursor).Takes P := by
  obtain ⟨hPath, hFields, hNames, -⟩ := h
  refine ⟨hPath, fun f hMem => ?_, fun g hMem => ?_⟩
  · obtain ⟨⟨field, index⟩, hField, rfl⟩ := List.mem_map.mp hMem
    exact hFields field (List.of_mem_zip hField).1
  · obtain ⟨⟨r, groups⟩, hRelation, rfl⟩ := List.mem_map.mp hMem
    exact hNames r (List.of_mem_zip hRelation).1

/-- The code for one related row takes what the related struct has. -/
theorem Takes.groupingCode {e : EntityRow} (h : e.Takes P) (b : Bindings) (n : Nat) :
    AllTake P (e.groupingCode b n) := by
  refine allTake_cons.mpr ⟨trivial, allTake_nil, ?_⟩
  refine allTake_cons.mpr ⟨h.convert b _ _, allTake_nil, ?_⟩
  exact allTake_cons.mpr ⟨trivial, allTake_nil, allTake_nil⟩

/-- Lookups take nothing: columns are given by texts. -/
theorem takes_prepareColumns (cursor : Var) (fields : List ColumnField) (n : Nat) :
    AllTake P ((prepareColumns cursor fields).run n).1.2 := by
  induction fields generalizing n with
  | nil => exact allTake_nil
  | cons f rest ih =>
      rw [prepareColumns_cons]
      simpa [Stmt.Takes, Stmt.body] using ih (n + 1)

theorem Takes.path {e : EntityRow} (h : e.Takes P) : P e.path := by
  obtain ⟨hPath, -, -, -⟩ := h
  exact hPath

mutual

theorem takes_prepare (cursor : Var) : (e : EntityRow) → e.Takes P → (n : Nat) →
    AllTake P ((e.prepare cursor).run n).1.2
  | .mk path fields relations, h, n => by
      obtain ⟨-, -, -, hRelated⟩ := h
      rw [prepare_run]
      exact allTake_append.mpr ⟨takes_prepareColumns cursor fields n,
        takes_prepareRelations cursor relations hRelated _⟩

/-- Collectors take the path of the related struct, and what is in it. -/
theorem takes_prepareRelations (cursor : Var) :
    (relations : List (RelationField × EntityRow)) → (∀ r ∈ relations, r.2.Takes P) →
    (n : Nat) → AllTake P ((prepareRelations cursor relations).run n).1.2
  | [], _, n => by
      rw [prepareRelations_nil]
      exact allTake_nil
  | (r, entity) :: rest, h, n => by
      rw [List.forall_mem_cons] at h
      rw [prepareRelations_cons]
      have hInner := takes_prepare (.temporary "related" (n + 3)) entity h.1 (n + 7)
      have hGroup (b : Bindings) := h.1.groupingCode b n
      refine allTake_append.mpr ⟨?_, takes_prepareRelations cursor rest h.2 _⟩
      simp [relationCode, relatedCode, Stmt.Takes, Stmt.body, hInner, h.1.path, hGroup]

end

end EntityRow

namespace Row

/-- Preparation takes what its row has. -/
theorem Takes.prepare {row : Row} (h : row.Takes P) (cursor : Var) (n : Nat) :
    AllTake P ((row.prepare cursor).run n).1.2 := by
  cases row with
  | scalar type column =>
      rw [prepare_scalar_run]
      cases column <;> simp [Stmt.Takes, Stmt.body]
  | entity e => exact e.takes_prepare cursor h n

/-- Conversion takes what its row has. -/
theorem Takes.convert? {row : Row} (h : row.Takes P) (b : Bindings) (out cursor : Var) :
    AllTake P (row.convert? b out cursor).toList := by
  cases row with
  | scalar type column =>
      cases hColumns : b.columns.head? with
      | none => simp [Row.convert?, hColumns]
      | some index =>
          have hType : P type.tokens := h
          simp [Row.convert?, hColumns, Stmt.Takes, Stmt.body, hType]
  | entity e =>
      have hConvert := EntityRow.Takes.convert h b out cursor
      simpa [Row.convert?, EntityRow.convert, Stmt.body] using hConvert

end Row

/-- What is emitted for a shape takes what the shape takes. -/
theorem Shape.Takes.emit {shape : Shape} (h : shape.Takes P) (out cursor : Var) (n : Nat) :
    AllTake P ((shape.emit out cursor).run n).1 := by
  have hFirst (row : Row) (hRow : row.Takes P) (result : FirstRow) :
      AllTake P ((Shape.emitFirst row result out cursor).run n).1 := by
    rw [emitFirst_run]
    simp [hRow.prepare, hRow.convert?, Stmt.Takes, Stmt.body]
  have hList (row : Row) (hRow : row.Takes P) (out : Var) (n : Nat) :
      AllTake P ((Shape.emitList row out cursor).run n).1 := by
    rw [emitList_run]
    simp [hRow.prepare, hRow.convert?, Stmt.Takes, Stmt.body]
  have hMap (kind : MapKind) (keyRow valueRow : Row) (hKey : keyRow.Takes P)
      (hValue : valueRow.Takes P) (isMulti : Bool) :
      AllTake P ((Shape.emitMap kind keyRow valueRow isMulti out cursor).run n).1 := by
    rw [emitMap_run]
    have hSkip (check : Option NullCheck) (key : Var) :
        AllTake P (check.toList.map (Stmt.skipNulls out key cursor ·)) := by
      cases check <;> simp [Stmt.Takes, Stmt.body]
    cases isMulti <;>
      simp [hKey.prepare, hValue.prepare, hKey.convert?, hValue.convert?, hSkip, Stmt.Takes,
        Stmt.body]
  cases shape with
  | single row => exact hFirst row (h row List.mem_cons_self) _
  | optional row flattened => exact hFirst row (h row List.mem_cons_self) _
  | list row => exact hList row (h row List.mem_cons_self) out n
  | stream row =>
      rw [emit_stream_run]
      have hItems := hList row (h row List.mem_cons_self) (.temporary "items" n) (n + 1)
      simp [hItems, Stmt.Takes, Stmt.body]
  | map kind key value =>
      exact hMap kind key value (h key List.mem_cons_self)
        (h value (List.mem_cons_of_mem _ List.mem_cons_self)) false
  | multimap kind key value =>
      exact hMap kind key value (h key List.mem_cons_self)
        (h value (List.mem_cons_of_mem _ List.mem_cons_self)) true
  | rows =>
      rw [emit_rows_run]
      simp [Stmt.Takes, Stmt.body]
  | rowCount =>
      rw [emit_rowCount_run]
      simp [Stmt.Takes, Stmt.body]

/-- What the body of a query takes. -/
theorem QueryDeclaration.takes_body {q : QueryDeclaration} {shape : Shape}
    (hArguments : ∀ a ∈ q.arguments, P [.ident a.1]) (hShape : shape.Takes P) :
    AllTake P (q.body shape).stmts := by
  have hSending : q.sending.Takes P := by
    intro a hMem
    obtain ⟨argument, hArgument, rfl⟩ := List.mem_map.mp hMem
    exact hArguments argument hArgument
  cases hCopies : shape.copiesCursor with
  | false =>
      rw [q.body_of_direct hCopies]
      exact allTake_cons.mpr ⟨hSending, allTake_nil, hShape.emit _ _ _⟩
  | true =>
      rw [q.body_of_copied hCopies]
      exact allTake_cons.mpr ⟨hSending, allTake_nil,
        allTake_cons.mpr ⟨trivial, allTake_nil, hShape.emit _ _ _⟩⟩

end TypedQuery
