import TypedQuery.Proofs.Program.Copied
import TypedQuery.Proofs.Program.Printing

namespace TypedQuery

open Stmt Tokens

/-- The declared field has no name of a temporary. Of a relation field only the name counts: its
type is read as the name of a struct. -/
def MappedField.Unreserved : MappedField → Prop
  | column name _ type => ¬Reserved name ∧ Tokens.Unreserved type.tokens
  | relation name _ _ => ¬Reserved name

instance : DecidablePred MappedField.Unreserved
  | .column name _ type =>
    inferInstanceAs (Decidable (¬Reserved name ∧ Tokens.Unreserved type.tokens))
  | .relation name _ _ => inferInstanceAs (Decidable (¬Reserved name))

structure Entity.Unreserved (e : Entity) : Prop where
  name : ¬Reserved e.name
  fields : ∀ f ∈ e.fields, f.Unreserved

structure QueryDeclaration.Unreserved (q : QueryDeclaration) : Prop where
  arguments : ∀ a ∈ q.arguments, ¬Reserved a.1
  output : Tokens.Unreserved q.output.tokens

/-- What is built from a row takes no name of a temporary from the declarations. -/
inductive EntityRow.Unreserved : EntityRow → Prop where
  | mk {path : List Token} {fields : List ColumnField}
      {relations : List (RelationField × EntityRow)} (hPath : Tokens.Unreserved path)
      (hFields : ∀ f ∈ fields, ¬Reserved f.name ∧ Tokens.Unreserved f.type.tokens)
      (hNames : ∀ r ∈ relations, ¬Reserved r.1.name)
      (hRelated : ∀ r ∈ relations, Unreserved r.2) : Unreserved (.mk path fields relations)

def Row.Unreserved : Row → Prop
  | scalar type _ => Tokens.Unreserved type.tokens
  | entity e => e.Unreserved

def Shape.Unreserved (shape : Shape) : Prop := ∀ row ∈ shape.parts, row.Unreserved

/-- No statement of some code, in any block, takes the name of a temporary from declarations. -/
def Stmt.AllUnreserved (code : List Stmt) : Prop := ∀ s ∈ deep code, s.Unreserved

namespace Tokens

/-- Code names no temporary if none of its pieces does. -/
theorem unreserved_append {ts rest : Tokens} :
    Tokens.Unreserved (ts ++ rest) ↔ Tokens.Unreserved ts ∧ Tokens.Unreserved rest := by
  simp [Tokens.Unreserved, or_imp, forall_and]

theorem unreserved_ident {name : String} : Tokens.Unreserved [.ident name] ↔ ¬Reserved name := by
  simp [Tokens.Unreserved, identifiers, occurrences, Token.occurrencesIn, Token.occurrences]

end Tokens

/-- Parts of unreserved code are unreserved. -/
theorem Tokens.Unreserved.of_isInfix {ts all : Tokens} (hInfix : ts <:+: all)
    (h : Tokens.Unreserved all) : Tokens.Unreserved ts := by
  obtain ⟨before, after, rfl⟩ := hInfix
  exact (unreserved_append.mp (unreserved_append.mp h).1).2

/-- A declared struct names no temporary, so none is taken from it. -/
theorem Entity.Unreserved.takes {e : Entity} (h : e.Unreserved) : e.Takes Tokens.Unreserved where
  name := unreserved_ident.mpr h.name
  fields f hMem := by
    have hField := h.fields f hMem
    cases f with
    | column name column type => exact ⟨unreserved_ident.mpr hField.1, hField.2⟩
    | relation name type mapping => exact unreserved_ident.mpr hField

theorem EntityRow.unreserved_iff {e : EntityRow} : e.Unreserved ↔ e.Takes Tokens.Unreserved := by
  constructor
  · intro h
    induction h with
    | mk hPath hFields hNames _ ih =>
        exact .mk hPath (fun f hMem => (hFields f hMem).imp_left unreserved_ident.mpr)
          (fun r hMem => unreserved_ident.mpr (hNames r hMem)) ih
  · intro h
    induction h with
    | mk hPath hFields hNames _ ih =>
        exact .mk hPath (fun f hMem => (hFields f hMem).imp_left unreserved_ident.mp)
          (fun r hMem => unreserved_ident.mp (hNames r hMem)) ih

/-- A shape names a temporary exactly if something that is taken from it does. -/
theorem Shape.unreserved_iff {shape : Shape} :
    shape.Unreserved ↔ shape.Takes Tokens.Unreserved := by
  refine forall₂_congr fun row _ => ?_
  cases row with
  | scalar type column => exact Iff.rfl
  | entity e => exact EntityRow.unreserved_iff

/-- A statement names no temporaries but its own. -/
theorem Stmt.Takes.unreserved {s : Stmt} (h : s.Takes Tokens.Unreserved) : s.Unreserved := by
  cases s with
  | query out sql args => exact fun a hMem => unreserved_ident.mp (h a hMem)
  | build out cursor path fields relations =>
      obtain ⟨hPath, hFields, hNames⟩ := h
      exact ⟨hPath, fun f hMem => (hFields f hMem).imp_left unreserved_ident.mp,
        fun g hMem => unreserved_ident.mp (hNames g hMem)⟩
  | _ => exact h

/-- Where neither the structs nor the type have names of temporaries, the shape has none. -/
theorem Schema.unreserved_of_shape {schema : Schema} (hSchema : ∀ e ∈ schema, e.Unreserved)
    {type : TypeExpr} {columns : ResultColumns} {shape : Shape}
    (h : schema.shape type columns = .ok shape) (hType : Tokens.Unreserved type.tokens) :
    shape.Unreserved :=
  Shape.unreserved_iff.mpr
    (takes_of_shape (fun e hMem => (hSchema e hMem).takes) Unreserved.of_isInfix h hType)

/-- The body of a query takes no names of temporaries. -/
theorem QueryDeclaration.unreserved_body {q : QueryDeclaration} {shape : Shape}
    (hQuery : q.Unreserved) (hShape : shape.Unreserved) :
    AllUnreserved (q.body shape).stmts := by
  have hTakes : AllTake Tokens.Unreserved (q.body shape).stmts :=
    takes_body (fun a hMem => unreserved_ident.mpr (hQuery.arguments a hMem))
      (Shape.unreserved_iff.mp hShape)
  exact fun s hMem => (hTakes s hMem).unreserved

end TypedQuery
