import TypedQuery.Example.Authors
import TypedQuery.Proofs.Result.Elements
import TypedQuery.Result.Recursion

/-! The recursion of the solver. Solving a struct calls the solver again for the struct of each
relation field, and structs may refer to one another in cycles. Because a related struct with
relation fields is refused before the call, the calls are never nested deeper than one level. -/

namespace TypedQuery

namespace Solving

/-- Solving has this outcome after these calls, whatever was called before. -/
def Ends {α : Type} (solving : Solving α) (outcome : Except SourceError α)
    (calls : List Entity) : Prop :=
  ∀ earlier, solving.run.run earlier = some (outcome, earlier ++ calls)

variable {α β : Type} {solving : Solving α} {next : α → Solving β} {a : α} {e : SourceError}
  {outcome : Except SourceError β} {calls more : List Entity}

theorem Ends.pure (a : α) : Ends (pure a) (.ok a) [] := by
  intro earlier
  rw [List.append_nil]
  rfl

theorem Ends.lift (step : Except SourceError α) : Ends (liftM step) step [] := by
  intro earlier
  rw [List.append_nil]
  rfl

theorem Ends.note (related : Entity) : Ends (modify (· ++ [related])) (.ok ()) [related] :=
  fun _ => rfl

theorem Ends.bind (h : Ends solving (.ok a) calls) (hNext : Ends (next a) outcome more) :
    Ends (solving >>= next) outcome (calls ++ more) := by
  intro earlier
  have hSteps : (solving >>= next).run.run earlier = (next a).run.run (earlier ++ calls) := by
    change solving.run.run earlier >>= _ = _
    rw [h earlier]
    rfl
  rw [hSteps, hNext, List.append_assoc]

theorem Ends.map {step : Except SourceError α} (f : α → β) (h : Ends solving step calls) :
    Ends (f <$> solving) (f <$> step) calls := by
  intro earlier
  change solving.run.run earlier >>= _ = _
  rw [h earlier]
  cases step <;> rfl

theorem Ends.bind_error (h : Ends solving (.error e) calls) :
    Ends (solving >>= next) (.error e) calls := by
  intro earlier
  change solving.run.run earlier >>= _ = _
  rw [h earlier]
  rfl

end Solving

namespace Schema

variable {schema : Schema} {type : TypeExpr} {e : Entity} {fields : List MappedField}

theorem relationTarget_plain {quantity : Quantity} {related : Entity} {table : StringLiteral}
    (h : schema.relationTarget type = .ok (quantity, related, table)) :
    related.hasRelations = false := by
  obtain ⟨-, -, -, -, hPlain⟩ := (schema.relationTarget_ok_iff).mp h
  exact hPlain

/-- Structs without relation fields are solved without another call. -/
def SolvesPlain (solve : Entity → Solving EntityRow) : Prop :=
  ∀ e : Entity, e.hasRelations = false → (solve e).Ends (.ok (plainRow e)) []

/-- A relation field that is not refused makes one call, for a struct without relation fields. -/
theorem relationFieldBy_ends (name : String) (type : TypeExpr) (mapping : RelationMapping) :
    ∃ calls : List Entity, calls.length ≤ 1 ∧ (∀ related ∈ calls, related.hasRelations = false) ∧
      ∀ solve, SolvesPlain solve →
        (schema.relationFieldBy solve name type mapping).Ends
          (schema.relationField name type mapping) calls := by
  unfold relationField
  cases hTarget : schema.relationTarget type with
  | error e =>
      refine ⟨[], Nat.zero_le 1, nofun, fun solve _ => ?_⟩
      rw [relationFieldBy, hTarget]
      exact .bind_error (.lift _)
  | ok target =>
      obtain ⟨quantity, related, table⟩ := target
      have hPlain := relationTarget_plain hTarget
      refine ⟨[related], Nat.le_refl 1, by simpa using hPlain, fun solve hSolve => ?_⟩
      rw [relationFieldBy, hTarget]
      exact .bind (.lift _) (.bind (.note related) (.bind (hSolve related hPlain) (.pure _)))

/-- Relation fields make one call each at most, up to the first one that is refused. -/
theorem relationFieldsBy_ends (fields : List MappedField) :
    ∃ calls : List Entity, calls.length ≤ fields.countP MappedField.isRelation ∧
      (∀ related ∈ calls, related.hasRelations = false) ∧
      ∀ solve, SolvesPlain solve →
        (schema.relationFieldsBy solve fields).Ends (schema.relationFields fields) calls := by
  induction fields with
  | nil => exact ⟨[], Nat.le_refl 0, nofun, fun solve _ => .pure _⟩
  | cons field rest ih =>
      cases field with
      | column => exact ih
      | relation name type mapping =>
          obtain ⟨calls, hLength, hPlain, hCalls⟩ :=
            schema.relationFieldBy_ends name type mapping
          obtain ⟨more, hMoreLength, hMorePlain, hMore⟩ := ih
          rw [List.countP_cons_of_pos rfl]
          simp only [relationFields, relationFieldsBy]
          cases hFirst : schema.relationField name type mapping with
          | error e =>
              rw [hFirst] at hCalls
              exact ⟨calls, by omega, hPlain, fun solve hSolve => .bind_error (hCalls solve hSolve)⟩
          | ok first =>
              rw [hFirst] at hCalls
              refine ⟨calls ++ more, by rw [List.length_append]; omega,
                List.forall_mem_append.mpr ⟨hPlain, hMorePlain⟩,
                fun solve hSolve => .bind (hCalls solve hSolve) ((hMore solve hSolve).map _)⟩

/-- Without relation fields there is nothing to call for. -/
theorem relationFieldsBy_plain (h : fields.any MappedField.isRelation = false)
    (solve : Entity → Solving EntityRow) :
    (schema.relationFieldsBy solve fields).Ends (.ok []) [] := by
  induction fields with
  | nil => exact .pure []
  | cons field rest ih =>
      cases field with
      | column => exact ih h
      | relation => cases h

theorem entityRow_plain (h : e.hasRelations = false) : schema.entityRow e = .ok (plainRow e) := by
  have hNone : e.relations = [] := by
    by_contra hRelations
    exact Bool.false_ne_true (h.symm.trans (Entity.hasRelations_iff.mpr hRelations))
  exact (schema.entityRow_ok_iff).mpr ⟨[], hNone ▸ .nil, rfl⟩

theorem solvesPlain_entityRowWithin (depth : Nat) :
    SolvesPlain (schema.entityRowWithin (depth + 1)) :=
  fun _ h => .bind (schema.relationFieldsBy_plain h _) (.pure _)

theorem entityRowWithin_ends (e : Entity) :
    ∃ calls : List Entity, calls.length ≤ e.fields.countP MappedField.isRelation ∧
      (∀ related ∈ calls, related.hasRelations = false) ∧
      ∀ depth, (schema.entityRowWithin (depth + 2) e).Ends (schema.entityRow e) calls := by
  obtain ⟨calls, hLength, hPlain, hCalls⟩ := schema.relationFieldsBy_ends e.fields
  refine ⟨calls, hLength, hPlain, fun depth => ?_⟩
  exact (hCalls _ (solvesPlain_entityRowWithin depth)).map _

/-- A relation field of an accepted row holds structs without relation fields of their own. -/
theorem MapsRow.related_plain {column : Option String} {row : Row}
    (h : schema.MapsRow type column row) : ∀ filled ∈ row.relations, filled.2.relations = [] := by
  cases h with
  | scalar => exact nofun
  | entity _ hBuilt => exact hBuilt.related_plain

variable (schema)

/-- The solver ends on every schema, also where structs refer to one another in cycles. A struct
without relation fields is solved without another call. For every other struct the calls are nested
one level deep, at most one for each relation field, and all of them are for structs without
relation fields; the outcome is that of `entityRow`, whether it accepts or refuses the struct. So no
relation field of a row, alone or in the shape of a result, holds structs with relation fields of
their own. -/
theorem solving_ends :
    (∀ e, e.hasRelations = false → ∀ depth,
      (schema.entityRowWithin (depth + 1) e).Ends (schema.entityRow e) []) ∧
    (∀ e, ∃ calls : List Entity, calls.length ≤ e.fields.countP MappedField.isRelation ∧
      (∀ related ∈ calls, related.hasRelations = false) ∧
      ∀ depth, (schema.entityRowWithin (depth + 2) e).Ends (schema.entityRow e) calls) ∧
    (∀ type column row, schema.row type column = .ok row →
      ∀ filled ∈ row.relations, filled.2.relations = []) ∧
    ∀ type columns shape, schema.shape type columns = .ok shape →
      ∀ row ∈ shape.parts, ∀ filled ∈ row.relations, filled.2.relations = [] := by
  refine ⟨fun e h depth => ?_, schema.entityRowWithin_ends, ?_, ?_⟩
  · rw [entityRow_plain h]
    exact solvesPlain_entityRowWithin depth e h
  · intro type column row h
    exact ((schema.row_ok_iff).mp h).related_plain
  · intro type columns shape h row hRow
    rcases List.mem_append.mp hRow with hKey | hValue
    · rw [relations_eq_nil_of_key h (Option.mem_toList.mp hKey)]
      exact nofun
    · cases row with
      | scalar => exact nofun
      | entity built =>
          obtain ⟨e, -, hBuilt⟩ := elements_of_row h (Option.mem_toList.mp hValue)
          exact hBuilt.related_plain

open Example in
/-- The solver is called again for the related books of authors, and for nothing else. -/
theorem authors_solving_ends :
    (∃ calls : List Entity, calls.length ≤ 2 ∧ (∀ related ∈ calls, related.hasRelations = false) ∧
      (authorSchema.entityRowWithin 2 authorEntity).Ends (.ok authorRow) calls) ∧
    (authorSchema.entityRowWithin 1 bookEntity).Ends (.ok bookRow) [] ∧
    ∀ row ∈ authorShape.parts, ∀ filled ∈ row.relations, filled.2.relations = [] := by
  obtain ⟨hPlain, hCalls, -, hShape⟩ := solving_ends authorSchema
  obtain ⟨calls, hLength, hRelated, hEnds⟩ := hCalls authorEntity
  exact ⟨⟨calls, hLength, hRelated, hEnds 0⟩, hPlain bookEntity rfl 0,
    hShape (applied "Vec" (.named "Author")) ⟨none, none⟩ authorShape rfl⟩

open Example in
/-- A struct that refers to itself is refused before the solver is called again. -/
example :
    let chain : Entity := ⟨"Chain", some ⟨"\"chain\""⟩,
      [.relation "next" (applied "Option" (.named "Chain")) ⟨"next_id", "id", none⟩]⟩
    (Schema.entityRowWithin [chain] 1 chain).Ends (.error .nestedRelations) [] :=
  fun earlier => by rw [List.append_nil]; rfl

end Schema

end TypedQuery
