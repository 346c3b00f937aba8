import TypedQuery.Example.Authors
import TypedQuery.Proofs.Program.Spliced
import TypedQuery.Proofs.Program.Unqualified

/-! The type parameter of generated functions. Its name is fixed and no declared type is renamed. So
a type that names the parameter without a path means the parameter inside the function, if the
function needs this type. -/

namespace TypedQuery

open Stmt

/-- The types that a struct is declared with: its own name and the types of its column fields. -/
def Entity.spelled (e : Entity) : List Tokens :=
  [.ident e.name] :: (e.fields.filterMap Schema.columnField?).map (·.type.tokens)

namespace Schema

variable (schema : Schema)

/-- The rows of a result of the type, or the keys of its entries, become such structs. -/
def Converts (type : TypeExpr) (e : Entity) : Prop :=
  ∃ t, (type.ElementOf t ∨ type.KeyOf t) ∧ schema.entity? t = some e

/-- A type that is needed to build the struct: one that it is declared with, or one that a related
struct is declared with. -/
def Needs (e : Entity) (ts : Tokens) : Prop :=
  ts ∈ e.spelled ∨ ∃ name type mapping, MappedField.relation name type mapping ∈ e.fields ∧
    ∃ quantity related table, schema.Relates type quantity related table ∧ ts ∈ related.spelled

variable {schema} {ts : Tokens} {e : Entity} {type : TypeExpr} {columns : ResultColumns}
  {shape : Shape}

theorem mem_of_entity? (h : schema.entity? type = some e) : e ∈ schema := by
  obtain ⟨name, -, hFound⟩ := Option.bind_eq_some_iff.mp h
  exact List.mem_of_find?_eq_some hFound

theorem mem_spelled_iff : ts ∈ e.spelled ↔
    ts = [.ident e.name] ∨ ∃ f ∈ e.fields.filterMap columnField?, ts = f.type.tokens := by
  simp only [Entity.spelled, List.mem_cons, List.mem_map, eq_comm]

theorem builds_plainRow_iff : (plainRow e).Builds ts ↔ ts ∈ e.spelled := by
  rw [EntityRow.builds_iff, mem_spelled_iff]
  exact or_iff_left fun ⟨_, hNone, _⟩ => nomatch hNone

/-- The related rows of a field become one struct. -/
theorem Relates.related_unique {quantity other : Quantity} {related otherRelated : Entity}
    {table otherTable : StringLiteral} (h : schema.Relates type quantity related table)
    (hOther : schema.Relates type other otherRelated otherTable) : related = otherRelated := by
  obtain ⟨element, hApplies, hTarget, -, -⟩ := h
  obtain ⟨element', hApplies', hTarget', -, -⟩ := hOther
  obtain ⟨-, hArgs⟩ := hApplies.unique hApplies'
  obtain rfl := List.head_eq_of_cons_eq hArgs
  exact Option.some.inj (hTarget.symm.trans hTarget')

/-- A struct is built with the types that it needs. -/
theorem BuildsEntity.builds_iff {built : EntityRow} (h : schema.BuildsEntity e built) :
    built.Builds ts ↔ schema.Needs e ts := by
  obtain ⟨filled, hFilled, rfl⟩ := h
  rw [EntityRow.builds_iff, Needs, mem_spelled_iff]
  refine or_congr_right ⟨?_, ?_⟩
  · rintro ⟨r, hMem, hBuilds⟩
    obtain ⟨⟨name, type, mapping⟩, hField, quantity, related, table, hRelates, rfl⟩ :=
      exists_of_forall₂_right hFilled hMem
    exact ⟨name, type, mapping, Entity.mem_relations.mp hField, quantity, related, table, hRelates,
      builds_plainRow_iff.mp hBuilds⟩
  · rintro ⟨name, type, mapping, hField, quantity, related, table, hRelates, hSpelled⟩
    obtain ⟨r, hMem, other, otherRelated, otherTable, hOther, rfl⟩ :=
      exists_of_forall₂_left hFilled (Entity.mem_relations.mpr hField)
    obtain rfl := hRelates.related_unique hOther
    exact ⟨_, hMem, builds_plainRow_iff.mpr hSpelled⟩

/-- A struct needs types that structs of the module are declared with. -/
theorem Needs.exists_spelled (h : schema.Needs e ts) (hMem : e ∈ schema) :
    ∃ other ∈ schema, ts ∈ other.spelled := by
  rcases h with hOwn | ⟨_, _, _, _, _, related, _, ⟨_, _, hEntity, _, _⟩, hRelated⟩
  · exact ⟨e, hMem, hOwn⟩
  · exact ⟨related, mem_of_entity? hEntity, hRelated⟩

/-- A row of an accepted shape is read as the declared type, or as a part of it. -/
theorem exists_type_of_part (h : schema.shape type columns = .ok shape) {row : Row}
    (hRow : row ∈ shape.parts) : ∃ t column, schema.MapsRow t column row ∧
      (∀ name, Tokens.Unqualified name t.tokens → Tokens.Unqualified name type.tokens) ∧
      ∀ e, schema.entity? t = some e → schema.Converts type e := by
  have hConverted {t : TypeExpr} (ht : type.ElementOf t ∨ type.KeyOf t) :
      ∀ e, schema.entity? t = some e → schema.Converts type e :=
    fun _ hEntity => ⟨t, ht, hEntity⟩
  -- A constructor is applied to the declared type, so it is no struct.
  have hNone {constructor : String} {argument : TypeExpr}
      (hApplies : type.Applies constructor [argument]) :
      ∀ e, schema.entity? type = some e → schema.Converts type e := by
    intro e hEntity
    rw [entity?_eq_none_of_applies hApplies] at hEntity
    cases hEntity
  rw [shape_ok_iff] at h
  cases h with
  | blob hLine hMaps =>
      obtain ⟨element, hApplies, -⟩ := hLine
      obtain rfl := List.mem_singleton.mp hRow
      exact ⟨_, _, hMaps, fun _ h => h, hNone hApplies⟩
  | list hLine hMaps =>
      obtain rfl := List.mem_singleton.mp hRow
      exact ⟨_, _, hMaps, fun _ => hLine.1.unqualified (List.mem_singleton_self _),
        hConverted (Or.inl (.item hLine))⟩
  | optional hLine _ hMaps =>
      obtain rfl := List.mem_singleton.mp hRow
      exact ⟨_, _, hMaps, fun _ => hLine.unqualified (List.mem_singleton_self _),
        hConverted (Or.inl (.optional hLine))⟩
  | flattened hLine hScalar hMaps =>
      obtain rfl := List.mem_singleton.mp hRow
      exact ⟨_, _, hMaps, fun _ h => h, hNone hLine⟩
  | stream hLine hMaps =>
      obtain rfl := List.mem_singleton.mp hRow
      exact ⟨_, _, hMaps, fun _ => hLine.unqualified (List.mem_singleton_self _),
        hConverted (Or.inl (.streamed hLine))⟩
  | map hLine hSingle hKey _ hValue =>
      rcases List.mem_pair.mp hRow with rfl | rfl
      · exact ⟨_, _, hKey, fun _ => hLine.unqualified List.mem_cons_self,
          hConverted (Or.inr ⟨_, _, hLine⟩)⟩
      · exact ⟨_, _, hValue,
          fun _ => hLine.unqualified (List.mem_cons_of_mem _ (List.mem_singleton_self _)),
          hConverted (Or.inl (.entry hLine (.single hSingle)))⟩
  | multimap hLine hList hKey _ hValue =>
      rcases List.mem_pair.mp hRow with rfl | rfl
      · exact ⟨_, _, hKey, fun _ => hLine.unqualified List.mem_cons_self,
          hConverted (Or.inr ⟨_, _, hLine⟩)⟩
      · exact ⟨_, _, hValue,
          fun _ h => hLine.unqualified (List.mem_cons_of_mem _ (List.mem_singleton_self _))
            (hList.1.unqualified (List.mem_singleton_self _) h),
          hConverted (Or.inl (.entry hLine (.grouped hList)))⟩
  | rows => cases hRow
  | rowCount => cases hRow
  | single hLine hMaps =>
      obtain rfl := List.mem_singleton.mp hRow
      exact ⟨_, _, hMaps, fun _ h => h, hConverted (Or.inl (.itself hLine))⟩

/-- What is converted to a struct is a row of the shape. -/
theorem Converts.part (hConverts : schema.Converts type e)
    (h : schema.shape type columns = .ok shape) :
    ∃ built, .entity built ∈ shape.parts ∧ schema.BuildsEntity e built := by
  obtain ⟨t, hElement | ⟨kind, value, hApplies⟩, hEntity⟩ := hConverts
  · obtain ⟨built, hRow, hBuilt⟩ := Elements.row ⟨t, hElement, hEntity⟩ h
    refine ⟨built, ?_, hBuilt⟩
    rw [Shape.parts, hRow]
    exact List.mem_append_right _ (List.mem_singleton_self _)
  · have hKey {make : Row → Row → Shape} {element : TypeExpr}
        (hKeyed : schema.keyed columns make t element = .ok shape)
        (hMake : ∀ keyRow valueRow, (make keyRow valueRow).key? = some keyRow) :
        ∃ built, .entity built ∈ shape.parts ∧ schema.BuildsEntity e built := by
      obtain ⟨keyRow, valueRow, hMaps, -, -, rfl⟩ := (keyed_ok_iff _ _).mp hKeyed
      obtain ⟨built, rfl, hBuilt⟩ := hMaps.of_entity hEntity
      refine ⟨built, ?_, hBuilt⟩
      rw [Shape.parts, hMake]
      exact List.mem_append_left _ (List.mem_singleton_self _)
    rw [shape_of_map _ _ hApplies] at h
    obtain ⟨element, hList | hSingle⟩ := value.exists_heldIn
    · rw [mapShape_of_list _ _ hList] at h
      exact hKey h fun _ _ => rfl
    · rw [mapShape_of_single _ _ hSingle] at h
      exact hKey h fun _ _ => rfl

end Schema

/-- Some name in the tokens means the type parameter. The mark `r#` makes no other name of it. -/
def Tokens.Captured (ts : Tokens) : Prop :=
  ∃ name ∈ [Print.connectionType, "r#" ++ Print.connectionType], ts.Unqualified name

namespace QueryDeclaration

open Print

variable {q : QueryDeclaration} {schema : Schema} {shape : Shape}

/-- The declared types in the function of a query: those of its arguments and of its result, and
those in its body. -/
def spliced (q : QueryDeclaration) (shape : Shape) : List Tokens :=
  q.arguments.map (·.2.tokens) ++ q.output.tokens :: typesIn (q.body shape).stmts

/-- A function by its parts: its one type parameter, its arguments, its result and its body. -/
theorem function_parts (n : Names) (q : QueryDeclaration) (body : QueryBody) :
    ∃ front connection arrow bound, Print.function n q body =
      front ++ word "fn" ++ word q.name ++ generic [word connectionType] ++
        paren (connection ++
          commas (q.arguments.map fun (name, type) => word name ++ op ":" ++ type.tokens)) ++
        (arrow ++ generic [q.output.tokens] ++ bound) ++
        brace (preamble n ++ (stmts n body.stmts ++ outcome body.out)) := by
  refine ⟨Attribute.tokensOf q.attributes ++ q.visibility ++ word "async",
    word n.db ++ op ":" ++ op "&" ++ word connectionType ++ op ",",
    op "->" ++ Names.path n ["QuarryResult"],
    word "where" ++ (word connectionType ++ op ":" ++ Names.path n ["Connection"] ++ op "+" ++
      op "?" ++ word "Sized" ++ op ","), ?_⟩
  simp only [Print.function, preamble, outcome, List.append_assoc]

/-- The declared types in the function stand in it as it is printed. -/
theorem within_function (n : Names) {ts : Tokens} (h : ts ∈ q.spliced shape) :
    ts.Within (Print.function n q (q.body shape)) := by
  obtain ⟨front, connection, arrow, bound, hFunction⟩ :=
    function_parts n q (q.body shape)
  rw [hFunction]
  rcases List.mem_append.mp h with h | h
  · obtain ⟨⟨name, type⟩, hArgument, rfl⟩ := List.mem_map.mp h
    refine .inside (List.mem_append_left _ (List.mem_append_left _ (List.mem_append_right _
      (List.mem_singleton_self _)))) (.here ?_)
    have hOwn : type.tokens <:+: word name ++ op ":" ++ type.tokens :=
      (List.suffix_append _ _).isInfix
    refine (hOwn.trans (infix_commas ?_)).trans (List.suffix_append _ _).isInfix
    exact List.mem_map.mpr ⟨(name, type), hArgument, rfl⟩
  · rcases List.mem_cons.mp h with rfl | h
    · have hResult : q.output.tokens <:+: arrow ++ generic [q.output.tokens] ++ bound :=
        (infix_generic (List.mem_singleton_self _)).trans (List.infix_append _ _ _)
      exact .here (hResult.trans (List.infix_append _ _ _))
    · refine .inside (List.mem_append_right _ (List.mem_singleton_self _)) ?_
      have hCode : ts.Within (stmts n (q.body shape).stmts) := within_stmts h
      exact hCode.mono ((List.prefix_append _ _).isInfix.trans (List.suffix_append _ _).isInfix)

/-- A type in the body that is captured is a part of the declared type, or a struct needs it. -/
theorem captured_of_body (hShape : q.shape schema = .ok shape) {ts : Tokens}
    (hBody : ts ∈ typesIn (q.body shape).stmts) (hCaptured : ts.Captured) :
    Tokens.Captured q.output.tokens ∨
      ∃ e, schema.Converts q.output e ∧ ∃ ts, schema.Needs e ts ∧ ts.Captured := by
  obtain ⟨row, hRow, hUses⟩ := (q.mem_typesIn_body shape).mp hBody
  obtain ⟨t, column, hMaps, hNames, hConverts⟩ := Schema.exists_type_of_part hShape hRow
  cases hMaps with
  | scalar =>
      obtain ⟨name, hName, hAlone⟩ := hCaptured
      obtain rfl : ts = t.tokens := hUses
      exact Or.inl ⟨name, hName, hNames name hAlone⟩
  | entity hEntity hBuilt =>
      exact Or.inr ⟨_, hConverts _ hEntity, ts, hBuilt.builds_iff.mp hUses, hCaptured⟩

/-- What a struct of the result needs is in the body. -/
theorem mem_body_of_needs (hShape : q.shape schema = .ok shape) {e : Entity} {ts : Tokens}
    (hConverts : schema.Converts q.output e) (hNeeds : schema.Needs e ts) :
    ts ∈ typesIn (q.body shape).stmts := by
  obtain ⟨built, hPart, hBuilt⟩ := hConverts.part hShape
  exact (q.mem_typesIn_body shape).mpr ⟨_, hPart, hBuilt.builds_iff.mpr hNeeds⟩

/-- The function of an accepted query has one type parameter, and its name is fixed. The function
holds the declared types as they are. One of them is captured exactly if the type of an argument or
the declared type names the parameter without a path, or if a struct that the result is made of
needs a type that does. -/
theorem parameter_captures_same_name (hShape : q.shape schema = .ok shape) :
    (∀ n, ∃ front back, Print.function n q (q.body shape) =
      front ++ word "fn" ++ word q.name ++ generic [word connectionType] ++ back) ∧
    (∀ n, ∀ ts ∈ q.spliced shape, ts.Within (Print.function n q (q.body shape))) ∧
    ((∃ ts ∈ q.spliced shape, ts.Captured) ↔
      (∃ a ∈ q.arguments, Tokens.Captured a.2.tokens) ∨ Tokens.Captured q.output.tokens ∨
        ∃ e, schema.Converts q.output e ∧ ∃ ts, schema.Needs e ts ∧ ts.Captured) := by
  refine ⟨fun n => ?_, fun n ts => within_function n, ?_, ?_⟩
  · obtain ⟨front, connection, arrow, bound, hFunction⟩ :=
      function_parts n q (q.body shape)
    rw [hFunction, List.append_assoc, List.append_assoc]
    exact ⟨front, _, rfl⟩
  · rintro ⟨ts, hMem, hCaptured⟩
    rcases List.mem_append.mp hMem with hArgument | hMem
    · obtain ⟨a, ha, rfl⟩ := List.mem_map.mp hArgument
      exact Or.inl ⟨a, ha, hCaptured⟩
    · rcases List.mem_cons.mp hMem with rfl | hBody
      · exact Or.inr (Or.inl hCaptured)
      · exact Or.inr (captured_of_body hShape hBody hCaptured)
  · rintro (⟨a, ha, hCaptured⟩ | hCaptured | ⟨e, hConverts, ts, hNeeds, hCaptured⟩)
    · exact ⟨_, List.mem_append_left _ (List.mem_map_of_mem ha), hCaptured⟩
    · exact ⟨_, List.mem_append_right _ List.mem_cons_self, hCaptured⟩
    · exact ⟨ts, List.mem_append_right _ (List.mem_cons_of_mem _
        (mem_body_of_needs hShape hConverts hNeeds)), hCaptured⟩

theorem not_captured_of_identifiers {ts : Tokens}
    (h : ∀ name ∈ [connectionType, "r#" ++ connectionType], name ∉ ts.identifiers) :
    ¬ts.Captured :=
  fun ⟨name, hName, hAlone⟩ => h name hName hAlone.mem_identifiers

/-- No type of the authors' query mentions the parameter. -/
theorem authors_capture_nothing :
    Example.authors.shape Example.authorSchema = .ok Example.authorShape ∧
      ¬∃ ts ∈ Example.authors.spliced Example.authorShape, ts.Captured := by
  have hShape : Example.authors.shape Example.authorSchema = .ok Example.authorShape := rfl
  have hStructs : ∀ e ∈ Example.authorSchema, ∀ ts ∈ e.spelled, ¬ts.Captured := by
    have hNames : ∀ e ∈ Example.authorSchema, ∀ ts ∈ e.spelled,
        ∀ name ∈ [connectionType, "r#" ++ connectionType], name ∉ ts.identifiers := by
      decide
    exact fun e he ts hts => not_captured_of_identifiers (hNames e he ts hts)
  refine ⟨hShape, ?_⟩
  rw [(parameter_captures_same_name hShape).2.2]
  rintro (⟨a, ha, -⟩ | hOutput | ⟨e, ⟨t, -, hEntity⟩, ts, hNeeds, hCaptured⟩)
  · cases ha
  · exact not_captured_of_identifiers (by decide) hOutput
  · obtain ⟨other, hOther, hSpelled⟩ := hNeeds.exists_spelled (Schema.mem_of_entity? hEntity)
    exact hStructs other hOther ts hSpelled hCaptured

/-- A list of structs that are called as the parameter. -/
def connections : QueryDeclaration where
  attributes := []
  visibility := []
  name := "all"
  query := ⟨⟨"\"S\""⟩, none, none⟩
  arguments := []
  output := Example.applied "Vec" (.named "C")

def connectionEntity : Entity where
  name := "C"
  table := none
  fields := [.column "id" "id" (.named "i64")]

/-- The query is accepted, and in its function the struct's own name means the parameter. -/
theorem struct_of_parameter_name_captured :
    ∃ shape, connections.shape [connectionEntity] = .ok shape ∧
      [.ident connectionEntity.name] ∈ connections.spliced shape ∧
      Tokens.Unqualified connectionType [.ident connectionEntity.name] := by
  have hShape : connections.shape [connectionEntity] = .ok _ := rfl
  have hList : connections.output.IsList (.named "C") := ⟨.angle _ _ _ _ _, rfl⟩
  have hConverts : Schema.Converts [connectionEntity] connections.output connectionEntity :=
    ⟨_, Or.inl (.item hList), rfl⟩
  have hBody := mem_body_of_needs hShape hConverts (Or.inl List.mem_cons_self)
  exact ⟨_, hShape, List.mem_append_right _ (List.mem_cons_of_mem _ hBody),
    Tokens.unqualified_ident _⟩

end QueryDeclaration

end TypedQuery
