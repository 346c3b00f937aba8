import TypedQuery.Proofs.Run.Frames

namespace TypedQuery

open Run

variable {reader : Reader} {db : Connection} {rest : List Stmt} {env : Env} {cursor : Var}
  {line : Line} {b : Bindings} {p : Prepared}

theorem forall₂_zip {ι κ γ : Type} {R : κ → γ → Prop} (xs : List ι) {vs : List κ} {is : List γ}
    (h : List.Forall₂ R vs is) :
    List.Forall₂ (fun x y => x.1 = y.1 ∧ R x.2 y.2) (xs.zip vs) (xs.zip is) := by
  induction h generalizing xs with
  | nil => simp
  | cons hHead _ ih =>
      cases xs with
      | nil => exact List.Forall₂.nil
      | cons x xs => exact List.Forall₂.cons ⟨rfl, hHead⟩ (ih xs)

namespace EntityRow

/-- The column fields of the current row. -/
theorem computes_readColumns (hCursor : env.Shows cursor line) (hBound : b.Hold p env)
    (fields : List ColumnField) :
    Computes (((fields.zip b.columns).map fun (f, index) =>
        FieldRead.mk f.name index f.type).mapM fun f => do
      return (f.name, ← Run.read reader cursor f.index f.type)) env
      (liftM (readColumns reader fields p.columns line)) := by
  refine computes_mapM (List.forall₂_map_left_iff.mpr ?_)
  apply (forall₂_zip fields hBound.columns).imp
  intro x y hSame
  obtain ⟨f, v⟩ := x
  obtain ⟨f', index⟩ := y
  obtain ⟨rfl, hIndex⟩ := hSame
  change Computes (Run.read reader cursor v f.type >>= fun d => pure (f.name, d)) env
    (liftM (line index >>= fun x => reader.read f.type x >>= fun d => pure (f.name, d)))
  rw [← bind_assoc, liftM_bind]
  exact (computes_read hCursor hIndex f.type).bind fun d => Computes.pure (f.name, d) env

/-- The relation fields of the current row. -/
theorem computes_fillRelations (hCursor : env.Shows cursor line) (hBound : b.Hold p env)
    (relations : List (RelationField × EntityRow)) :
    Computes (((relations.zip b.relations).map fun ((r, _), groups) =>
        GroupRead.mk r.name groups.keyIndex groups.groups r.quantity).mapM (groupField cursor)) env
      (liftM (fillRelations relations p.relations line)) := by
  refine computes_mapM (List.forall₂_map_left_iff.mpr ?_)
  apply (forall₂_zip relations hBound.relations).imp
  intro x y hSame
  obtain ⟨⟨r, entity⟩, bound⟩ := x
  obtain ⟨⟨r', entity'⟩, index, groups⟩ := y
  obtain ⟨hField, hIndex, hGroups⟩ := hSame
  cases hField
  change Computes (groupField cursor ⟨r.name, bound.keyIndex, bound.groups, r.quantity⟩) env
    (liftM (line index >>= fun x =>
      pure (r.fill (x.toKey.bind fun k => Sorted.find? k groups))))
  rw [groupField, liftM_bind]
  refine (computes_value hCursor hIndex).bind fun x => (yields_groups hGroups).computes ?_
  dsimp only
  rw [RelationField.fill]
  cases r.quantity with
  | many => exact Computes.pure _ env
  | optional => exact Computes.pure _ env

end EntityRow

/-- Converting the current row of a struct gives its record. -/
theorem Run.Runs.convert {β : Type} {e : EntityRow} {out : Var} {next : Datum → Session β}
    {post : β → Env → Prop} (hCursor : env.Shows cursor line) (hBound : b.Hold p env)
    (hRest : ∀ d, Runs reader db rest (env.put out (.datum d)) (next d) post) :
    Runs reader db (e.convert b out cursor :: rest) env
      (liftM (e.record reader p line) >>= next) post :=
  Runs.build (EntityRow.computes_readColumns hCursor hBound e.fields)
    (EntityRow.computes_fillRelations hCursor hBound e.relations) hRest

end TypedQuery
