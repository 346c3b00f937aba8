import TypedQuery.Proofs.Program.Expansion
import TypedQuery.Proofs.Program.FieldReads

/-! What is left of a mapping struct. Its mapping is read off the first attribute of each mapping
name, and only these attributes are taken away. So the struct that is emitted is free of mapping
attributes exactly if none was given twice at one place. -/

namespace TypedQuery

namespace Attribute

/-- Attributes before and after a reading: of each of some names the first one is gone, and all
others stand as they did. -/
structure LosesFirst (names : List String) (before after : List Attribute) : Prop where
  order : after.Sublist before
  others : (after.filter fun a => names.all (!a.isNamed ·)) =
    before.filter fun a => names.all (!a.isNamed ·)
  named : ∀ name ∈ names, after.filter (·.isNamed name) = (before.filter (·.isNamed name)).tail

/-- No attribute has one of the names. -/
def Lacks (names : List String) (attributes : List Attribute) : Prop :=
  ∀ name ∈ names, ∀ a ∈ attributes, a.isNamed name = false

/-- No two attributes have the same one of the names. -/
def AtMostOnce (names : List String) (attributes : List Attribute) : Prop :=
  ∀ name ∈ names, attributes.countP (·.isNamed name) ≤ 1

instance (names : List String) (attributes : List Attribute) :
    Decidable (AtMostOnce names attributes) :=
  inferInstanceAs (Decidable (∀ name ∈ names, attributes.countP (·.isNamed name) ≤ 1))

variable {names : List String} {name : String} {before after : List Attribute}

theorem isNamed_unique {a : Attribute} {other : String} (h : a.isNamed name = true)
    (hOther : a.isNamed other = true) : name = other := by
  simp only [isNamed, decide_eq_true_eq] at h hOther
  simpa using h.symm.trans hOther

/-- A test that the taken attribute fails does not tell that it was taken. -/
theorem filter_eraseP_of_fails {test : Attribute → Bool}
    (h : ∀ a : Attribute, a.isNamed name = true → test a = false) (attributes : List Attribute) :
    (attributes.eraseP (·.isNamed name)).filter test = attributes.filter test := by
  induction attributes with
  | nil => rfl
  | cons a rest ih =>
      rw [List.eraseP_cons]
      cases hName : a.isNamed name with
      | true => simp [h a hName]
      | false => simp [List.filter_cons, ih]

theorem filter_eraseP (name : String) (attributes : List Attribute) :
    (attributes.eraseP (·.isNamed name)).filter (·.isNamed name) =
      (attributes.filter (·.isNamed name)).tail := by
  induction attributes with
  | nil => rfl
  | cons a rest ih =>
      rw [List.eraseP_cons]
      cases hName : a.isNamed name with
      | true => simp [hName]
      | false => simp [hName, ih]

theorem losesFirst_nil (attributes : List Attribute) : LosesFirst [] attributes attributes where
  order := .refl attributes
  others := rfl
  named := nofun

/-- The first attribute of one more name is taken. -/
theorem LosesFirst.take (h : LosesFirst names before after) (hNew : name ∉ names) :
    LosesFirst (name :: names) before (after.eraseP (·.isNamed name)) where
  order := List.eraseP_sublist.trans h.order
  others := by
    have hSplit (attributes : List Attribute) :
        (attributes.filter fun a => (name :: names).all (!a.isNamed ·)) =
          (attributes.filter fun a => names.all (!a.isNamed ·)).filter (!·.isNamed name) := by
      simp only [List.all_cons, List.filter_filter]
    rw [filter_eraseP_of_fails (fun a hName => by simp [hName]), hSplit, hSplit, h.others]
  named := by
    intro other hOther
    rcases List.mem_cons.mp hOther with rfl | hOther
    -- The attributes of the new name are among the others, and so far these were all kept.
    · have hSame (attributes : List Attribute) : attributes.filter (·.isNamed other) =
          (attributes.filter fun a => names.all (!a.isNamed ·)).filter (·.isNamed other) := by
        rw [List.filter_filter]
        refine List.filter_congr fun a _ => ?_
        cases hName : a.isNamed other with
        | false => rfl
        | true =>
            refine (Bool.and_eq_true_iff.mpr ⟨rfl, List.all_eq_true.mpr fun n hMem => ?_⟩).symm
            cases hOwn : a.isNamed n with
            | false => rfl
            | true => exact absurd (isNamed_unique hName hOwn ▸ hMem) hNew
      rw [filter_eraseP, hSame after, h.others, ← hSame]
    · rw [filter_eraseP_of_fails, h.named other hOther]
      intro a hName
      cases hOwn : a.isNamed other with
      | false => rfl
      | true => exact absurd (isNamed_unique hName hOwn ▸ hOther) hNew

/-- Nothing is left of the names exactly if none of them was there twice. -/
theorem LosesFirst.lacks_iff (h : LosesFirst names before after) :
    Lacks names after ↔ AtMostOnce names before := by
  refine forall₂_congr fun name hName => ?_
  have hNone : (∀ a ∈ after, a.isNamed name = false) ↔ after.filter (·.isNamed name) = [] := by
    simp only [List.filter_eq_nil_iff, Bool.not_eq_true]
  rw [hNone, h.named name hName, List.countP_eq_length_filter, ← List.length_eq_zero_iff,
    List.length_tail]
  omega

end Attribute

open Attribute

/-- The names of the attributes that a mapping struct and its fields are read by. -/
def structMappings : List String := ["table"]

def fieldMappings : List String := ["relation", "column"]

/-- What is left of a field has the same visibility, name and type. -/
structure Field.Strips (f left : Field) : Prop where
  attributes : LosesFirst fieldMappings f.attributes left.attributes
  rest : left = { f with attributes := left.attributes }

/-- What is left of a struct has the same visibility, name, parameters and conditions, and the same
fields in their order. -/
structure StructItem.Strips (s left : StructItem) : Prop where
  attributes : LosesFirst structMappings s.attributes left.attributes
  fields : ∃ declared kept trailing, s.fields = .named declared trailing ∧
    left.fields = .named kept trailing ∧ List.Forall₂ Field.Strips declared kept
  rest : left = { s with attributes := left.attributes, fields := left.fields }

/-- The attributes of a struct, and those of each of its fields, are as it is required of them with
respect to the mapping names. -/
structure StructItem.Everywhere (P : List String → List Attribute → Prop) (s : StructItem) :
    Prop where
  struct : P structMappings s.attributes
  field : ∀ declared trailing, s.fields = .named declared trailing →
    ∀ f ∈ declared, P fieldMappings f.attributes

/-- A struct without mapping attributes. -/
def StructItem.IsPlain (s : StructItem) : Prop := s.Everywhere Lacks

/-- A struct in which no mapping attribute is given twice at one place. -/
def StructItem.MappedOnce (s : StructItem) : Prop := s.Everywhere AtMostOnce

theorem StructItem.Strips.isPlain_iff {s left : StructItem} (h : s.Strips left) :
    left.IsPlain ↔ s.MappedOnce := by
  obtain ⟨declared, kept, trailing, hDeclared, hKept, hFields⟩ := h.fields
  have hEach : (∀ f ∈ declared, AtMostOnce fieldMappings f.attributes) ↔
      ∀ f ∈ kept, Lacks fieldMappings f.attributes :=
    forall_mem_iff_of_forall₂ hFields fun _ _ hField => hField.attributes.lacks_iff.symm
  constructor
  · intro hPlain
    refine ⟨h.attributes.lacks_iff.mp hPlain.struct, fun fields last hSame => ?_⟩
    cases hDeclared.symm.trans hSame
    exact hEach.mpr (hPlain.field kept trailing hKept)
  · intro hOnce
    refine ⟨h.attributes.lacks_iff.mpr hOnce.struct, fun fields last hSame => ?_⟩
    cases hKept.symm.trans hSame
    exact hEach.mp (hOnce.field declared trailing hDeclared)

namespace Entity

/-- A mapping that is taken, or that cannot be read, is gone. -/
theorem takeMapping_left {α : Type} (name : String) (p : Parser α) (attributes : List Attribute) :
    ((takeMapping name p).run attributes).2 = attributes.eraseP (·.isNamed name) :=
  congrArg Prod.snd (takeMapping_run name p ⟨attributes, [], name, default⟩)

theorem strips_of_readField {f left : Field} {mapped : MappedField}
    (h : readField f = (.ok mapped, left)) : f.Strips left := by
  have hColumn := takeMapping_left "column" Parser.stringLiteral f.attributes
  have hRelation := takeMapping_left "relation" RelationDraft.parser
    (f.attributes.eraseP (·.isNamed "column"))
  have hFirst : LosesFirst ["column"] f.attributes
      (f.attributes.eraseP (·.isNamed "column")) := (losesFirst_nil f.attributes).take nofun
  have hLoses : LosesFirst fieldMappings f.attributes
      ((f.attributes.eraseP (·.isNamed "column")).eraseP (·.isNamed "relation")) :=
    hFirst.take (by decide)
  unfold readField readMapping at h
  simp only [reading_bind] at h
  generalize (takeMapping "column" Parser.stringLiteral).run f.attributes = taken at h hColumn
  obtain ⟨e | column, others⟩ := taken
  · cases h
  subst hColumn
  dsimp only at h
  generalize (takeMapping "relation" RelationDraft.parser).run
    (f.attributes.eraseP (·.isNamed "column")) = taken at h hRelation
  obtain ⟨e | relation, others⟩ := taken
  · cases h
  subst hRelation
  have hLeft : left = { f with attributes :=
      (f.attributes.eraseP (·.isNamed "column")).eraseP (·.isNamed "relation") } := by
    cases column <;> cases relation <;> cases h <;> rfl
  rw [hLeft]
  exact ⟨hLoses, rfl⟩

theorem strips_of_readFields {fields left : List Field} {mapped : List MappedField}
    (h : readFields fields = (.ok mapped, left)) : List.Forall₂ Field.Strips fields left := by
  induction fields generalizing mapped left with
  | nil =>
      cases h
      exact .nil
  | cons f rest ih =>
      rw [readFields] at h
      generalize hField : readField f = read at h
      obtain ⟨e | first, own⟩ := read
      · cases h
      dsimp only at h
      generalize hRest : readFields rest = others at h
      obtain ⟨e | others, kept⟩ := others
      · cases h
      cases h
      exact .cons (strips_of_readField hField) (ih hRest)

theorem strips_of_ofStruct {s left : StructItem} {e : Entity}
    (h : ofStruct s = (.ok (some e), left)) : s.Strips left := by
  have hTable := takeMapping_left "table" Parser.stringLiteral s.attributes
  unfold ofStruct at h
  generalize (takeMapping "table" Parser.stringLiteral).run s.attributes = taken at h hTable
  obtain ⟨e | table, others⟩ := taken
  · cases h
  subst hTable
  generalize hFields : s.fields = fields at h
  cases fields with
  | positional tokens => cases table <;> cases h
  | none => cases table <;> cases h
  | named declared trailing =>
      dsimp only at h
      generalize hRead : readFields declared = read at h
      obtain ⟨e | mapped, kept⟩ := read
      · cases h
      cases h
      exact ⟨(losesFirst_nil s.attributes).take nofun,
        ⟨declared, kept, trailing, hFields, rfl, strips_of_readFields hRead⟩, rfl⟩

/-- What is left of an accepted struct is emitted as it is, behind the constant with its table. It
has lost one mapping attribute of each name at each place, and nothing else. So it is plain exactly
if it was mapped once. -/
theorem accepted_struct_is_stripped {s left : StructItem} {e : Entity}
    (h : ofStruct s = (.ok (some e), left)) :
    s.Strips left ∧ (left.IsPlain ↔ s.MappedOnce) ∧
      ∀ (m : DeclarationModule) options tokens, ModuleItem.ofStruct s ∈ m.items →
        m.expand? options = some tokens →
        ∃ front back, tokens = Attribute.tokensOf m.attributes ++ m.visibility ++
          Print.word "mod" ++ Print.word m.name ++
          Print.brace (front ++ (Print.tableName e ++ left.tokens) ++ back) := by
  have hStrips := strips_of_ofStruct h
  refine ⟨hStrips, hStrips.isPlain_iff, fun m options tokens hItem hTokens => ?_⟩
  obtain ⟨functions, -, rfl⟩ := Option.map_eq_some_iff.mp hTokens
  obtain ⟨before, after, hItems⟩ := List.append_of_mem hItem
  have hOwn : ModuleItem.ofStruct s = .struct left (.ok (some e)) := by
    rw [ModuleItem.ofStruct, h]
  obtain ⟨front, back, hStructs⟩ : Print.tableName e ++ left.tokens <:+: m.structs := by
    rw [DeclarationModule.structs, hItems, hOwn, List.flatMap_append, List.flatMap_cons,
      ← List.append_assoc]
    exact List.infix_append _ _ _
  refine ⟨m.others ++ front, back ++ functions ++ m.errors, ?_⟩
  rw [← hStructs]
  simp only [List.append_assoc]

/-- A struct with other attributes around those of its mapping. Its field is given some columns. -/
def decorated (columns : List StringLiteral) : StructItem where
  attributes := [
    Example.mappingAttribute "derive" [.ident "Clone"],
    Example.mappingAttribute "table" [.literal "\"author\""],
    Example.mappingAttribute "allow" [.ident "dead_code"]]
  visibility := [.ident "pub"]
  name := "Author"
  parameters := []
  conditions := []
  fields := .named [
    ⟨Example.mappingAttribute "serde" [.ident "default"] ::
        (columns.map fun column => Example.mappingAttribute "column" [column.token]) ++
        [Example.mappingAttribute "cfg" [.ident "test"]],
      [.ident "pub"], "name", .named "String"⟩] true

/-- With one column the other attributes stay, and what is left is plain. -/
theorem decorated_struct_is_stripped :
    ∃ e left, ofStruct (decorated [⟨"\"full_name\""⟩]) = (.ok (some e), left) ∧
      (decorated [⟨"\"full_name\""⟩]).Strips left ∧ left.IsPlain ∧
      left.attributes = [
        Example.mappingAttribute "derive" [.ident "Clone"],
        Example.mappingAttribute "allow" [.ident "dead_code"]] := by
  have hRead : ofStruct (decorated [⟨"\"full_name\""⟩]) = (.ok (some _), _) := rfl
  obtain ⟨hStrips, hPlain, -⟩ := accepted_struct_is_stripped hRead
  refine ⟨_, _, hRead, hStrips, hPlain.mpr ⟨by decide, ?_⟩, rfl⟩
  rintro declared trailing hFields
  cases hFields
  decide

/-- With two columns the struct is accepted as well, but the second attribute is left to the
emitted struct. -/
theorem repeated_column_is_left :
    ∃ e left f, ofStruct (decorated [⟨"\"full_name\""⟩, ⟨"\"name\""⟩]) = (.ok (some e), left) ∧
      left.fields = .named [f] true ∧ Example.mappingAttribute "column" [.literal "\"name\""] ∈
        f.attributes ∧ ¬left.IsPlain := by
  refine ⟨_, _, _, rfl, rfl, by decide, fun hPlain => ?_⟩
  exact absurd (hPlain.field _ _ rfl _ (List.mem_singleton_self _) "column" (by decide)
    (Example.mappingAttribute "column" [.literal "\"name\""]) (by decide)) (by decide)

end Entity

end TypedQuery
