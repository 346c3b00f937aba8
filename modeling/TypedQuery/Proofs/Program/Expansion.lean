import Mathlib.Data.List.Induction
import TypedQuery.Proofs.Program.Emission
import TypedQuery.Proofs.Result.Locality

/-! The expansion of a module, item by item. Every item adds its own code to the four sections of
the expanded module. What a query adds depends on the structs that its result is made of, wherever
they stand, and on no other item. -/

namespace TypedQuery

/-- What one item adds to the other items, the structs, the functions and the errors. -/
structure ItemCode where
  others : Tokens := []
  structs : Tokens := []
  functions : Tokens := []
  errors : Tokens := []

namespace ModuleItem

/-- The code of an item. A query becomes its constant and its function, which must be given a name,
or the error of its result; a declaration that could not be read becomes its error. -/
inductive Emits (schema : Schema) (options : Options) : ModuleItem → ItemCode → Prop where
  | other (tokens : Tokens) : Emits schema options (.other tokens) { others := tokens }
  | mapped (s : StructItem) (e : Entity) :
      Emits schema options (.struct s (.ok (some e))) { structs := Print.tableName e ++ s.tokens }
  | unmapped (s : StructItem) :
      Emits schema options (.struct s (.ok none)) { structs := s.tokens }
  | faulty (s : StructItem) (e : SourceError) :
      Emits schema options (.struct s (.error e))
        { structs := s.tokens, errors := Print.compileError e }
  | function {q : QueryDeclaration} {shape : Shape} (hShape : q.shape schema = .ok shape)
      (hName : Text.isIdentifier q.constantName = true) :
      Emits schema options (.query (.ok q))
        { functions :=
            Print.constant ⟨options.runtime, QueryDeclaration.connectionName⟩ q.visibility
              q.constantName (q.info shape) ++
            Print.function ⟨options.runtime, QueryDeclaration.connectionName⟩ q (q.body shape) }
  | refused {q : QueryDeclaration} {e : SourceError} (hShape : q.shape schema = .error e) :
      Emits schema options (.query (.ok q)) { functions := Print.compileError e }
  | unread (e : SourceError) :
      Emits schema options (.query (.error e)) { errors := Print.compileError e }

variable {schema other : Schema} {options : Options} {item : ModuleItem} {code : ItemCode}

/-- An item has one code at most. -/
theorem Emits.unique {code' : ItemCode} (h : Emits schema options item code)
    (h' : Emits schema options item code') : code = code' := by
  cases h with
  | function hShape _ =>
      cases h' with
      | function hShape' _ =>
          obtain rfl := Except.ok.inj (hShape.symm.trans hShape')
          rfl
      | refused hShape' => cases hShape.symm.trans hShape'
  | refused hShape =>
      cases h' with
      | function hShape' _ => cases hShape.symm.trans hShape'
      | refused hShape' =>
          obtain rfl := Except.error.inj (hShape.symm.trans hShape')
          rfl
  | _ => cases h'; rfl

/-- The code of a query is what its expansion prints. -/
theorem emits_query_iff {q : QueryDeclaration} :
    Emits schema options (.query (.ok q)) code ↔
      ∃ tokens, (Expansion.ofQuery schema q).tokens? options = some tokens ∧
        code = { functions := tokens } := by
  unfold Expansion.ofQuery
  cases hShape : q.shape schema with
  | error e =>
      simp only [Expansion.tokens?, Option.some.injEq, exists_eq_left']
      constructor
      · intro h
        exact h.unique (.refused hShape)
      · rintro rfl
        exact .refused hShape
  | ok shape =>
      simp only [Expansion.tokens?]
      constructor
      · intro h
        cases h with
        | function hShape' hName =>
            obtain rfl := Except.ok.inj (hShape.symm.trans hShape')
            exact ⟨_, if_pos hName, rfl⟩
        | refused hShape' => cases hShape.symm.trans hShape'
      · rintro ⟨tokens, hTokens, rfl⟩
        by_cases hName : Text.isIdentifier q.constantName = true
        · rw [if_pos hName] at hTokens
          obtain rfl := Option.some.inj hTokens
          exact .function hShape hName
        · rw [if_neg hName] at hTokens
          cases hTokens

/-- Only the code of a query depends on the structs, and only by the shape of its result. -/
theorem Emits.of_shape (h : Emits schema options item code)
    (hShape : ∀ q, item = .query (.ok q) → q.shape schema = q.shape other) :
    Emits other options item code := by
  cases h with
  | other tokens => exact .other tokens
  | mapped s e => exact .mapped s e
  | unmapped s => exact .unmapped s
  | faulty s e => exact .faulty s e
  | function hAccepted hName => exact .function ((hShape _ rfl).symm.trans hAccepted) hName
  | refused hRefused => exact .refused ((hShape _ rfl).symm.trans hRefused)
  | unread e => exact .unread e

/-- Only a query can be without code. -/
theorem exists_emits_of_tokens
    (h : ∀ q, item = .query (.ok q) →
      ∃ tokens, (Expansion.ofQuery schema q).tokens? options = some tokens) :
    ∃ code, Emits schema options item code := by
  cases item with
  | struct s entity =>
      cases entity with
      | error e => exact ⟨_, .faulty s e⟩
      | ok entity =>
          cases entity with
          | none => exact ⟨_, .unmapped s⟩
          | some e => exact ⟨_, .mapped s e⟩
  | query declaration =>
      cases declaration with
      | error e => exact ⟨_, .unread e⟩
      | ok q =>
          obtain ⟨tokens, hTokens⟩ := h q rfl
          exact ⟨_, emits_query_iff.mpr ⟨tokens, hTokens, rfl⟩⟩
  | other tokens => exact ⟨_, .other tokens⟩

def entity? : ModuleItem → Option Entity
  | .struct _ (.ok entity) => entity
  | _ => none

def other? : ModuleItem → Option Tokens
  | .other tokens => some tokens
  | _ => none

def struct? : ModuleItem → Option (StructItem × Except SourceError (Option Entity))
  | .struct s entity => some (s, entity)
  | _ => none

def query? : ModuleItem → Option QueryDeclaration
  | .query (.ok q) => some q
  | _ => none

def error? : ModuleItem → Option SourceError
  | .struct _ (.error e) | .query (.error e) => some e
  | _ => none

theorem flatMap_filterMap {α : Type} {f : ModuleItem → Tokens} {g : ModuleItem → Option α}
    {print : α → Tokens} (h : ∀ item, f item = (g item).elim [] print) (items : List ModuleItem) :
    items.flatMap f = (items.filterMap g).flatMap print := by
  induction items with
  | nil => rfl
  | cons item rest ih =>
      rw [List.flatMap_cons, h, ih, List.filterMap_cons]
      cases g item <;> rfl

end ModuleItem

namespace DeclarationModule

variable (m : DeclarationModule) (options : Options)

/-- The codes of the items, in their order. -/
def Emits (codes : List ItemCode) : Prop :=
  List.Forall₂ (ModuleItem.Emits m.schema options) m.items codes

/-- The expanded module with the code of its items, section by section. -/
def assemble (codes : List ItemCode) : Tokens :=
  Attribute.tokensOf m.attributes ++ m.visibility ++ Print.word "mod" ++ Print.word m.name ++
    Print.brace (codes.flatMap ItemCode.others ++ codes.flatMap ItemCode.structs ++
      codes.flatMap ItemCode.functions ++ codes.flatMap ItemCode.errors)

variable {m options} {codes : List ItemCode}

theorem mem_queries {q : QueryDeclaration} : q ∈ m.queries ↔ .query (.ok q) ∈ m.items := by
  rw [queries, List.mem_filterMap]
  constructor
  · rintro ⟨item, hItem, hQuery⟩
    split at hQuery
    · obtain rfl := Option.some.inj hQuery
      exact hItem
    · cases hQuery
  · exact fun h => ⟨_, h, rfl⟩

theorem Emits.flatMap (h : m.Emits options codes) {f : ModuleItem → Tokens} {g : ItemCode → Tokens}
    (hSame : ∀ item code, ModuleItem.Emits m.schema options item code → f item = g code) :
    m.items.flatMap f = codes.flatMap g := by
  unfold Emits at h
  generalize m.items = items at h
  induction h with
  | nil => rfl
  | cons hItem _ ih => rw [List.flatMap_cons, List.flatMap_cons, hSame _ _ hItem, ih]

/-- The functions of a module are those of its items. -/
theorem Emits.functions (h : m.Emits options codes) :
    m.functions? options = some (codes.flatMap ItemCode.functions) := by
  unfold functions? queries
  unfold Emits at h
  generalize m.schema = schema at h ⊢
  generalize m.items = items at h ⊢
  induction h with
  | nil => rfl
  | @cons item code rest codes hItem _ ih =>
      cases item with
      | struct s entity => cases hItem <;> exact ih
      | other tokens => cases hItem; exact ih
      | query declaration =>
          cases declaration with
          | error e => cases hItem; exact ih
          | ok q =>
              obtain ⟨tokens, hTokens, rfl⟩ := ModuleItem.emits_query_iff.mp hItem
              obtain ⟨pieces, hPieces, hFunctions⟩ := Option.map_eq_some_iff.mp ih
              simp only [List.filterMap_cons, List.mapM_cons, hTokens, hPieces,
                List.flatMap_cons, ← hFunctions]
              rfl

/-- The sections of a module are those of its items. -/
theorem Emits.expand (h : m.Emits options codes) :
    m.expand? options = some (m.assemble codes) := by
  have hOthers : m.others = codes.flatMap ItemCode.others :=
    h.flatMap fun item code hItem => by cases hItem <;> rfl
  have hStructs : m.structs = codes.flatMap ItemCode.structs :=
    h.flatMap fun item code hItem => by cases hItem <;> rfl
  have hErrors : m.errors = codes.flatMap ItemCode.errors :=
    h.flatMap fun item code hItem => by cases hItem <;> rfl
  rw [expand?, h.functions, hOthers, hStructs, hErrors]
  rfl

/-- Where the functions of a module can be printed, every item has code. -/
theorem exists_emits_of_functions {functions : Tokens}
    (h : m.functions? options = some functions) : ∃ codes, m.Emits options codes := by
  obtain ⟨pieces, hPieces, -⟩ := Option.map_eq_some_iff.mp h
  have hQueries := Schema.exists_forall₂_iff.mp ⟨pieces, mapM_eq_some_iff.mp hPieces⟩
  refine Schema.exists_forall₂_iff.mpr fun item hItem => ?_
  refine ModuleItem.exists_emits_of_tokens fun q hQuery => hQueries q (mem_queries.mpr ?_)
  rwa [← hQuery]

/-- A module expands to the code of its items. -/
theorem expand?_eq_some_iff {tokens : Tokens} :
    m.expand? options = some tokens ↔
      ∃ codes, m.Emits options codes ∧ tokens = m.assemble codes := by
  constructor
  · intro h
    obtain ⟨functions, hFunctions, -⟩ := Option.map_eq_some_iff.mp h
    obtain ⟨codes, hCodes⟩ := exists_emits_of_functions hFunctions
    exact ⟨codes, hCodes, Option.some.inj (h.symm.trans hCodes.expand)⟩
  · rintro ⟨codes, hCodes, rfl⟩
    exact hCodes.expand

theorem Emits.unique {codes' : List ItemCode} (h : m.Emits options codes)
    (h' : m.Emits options codes') : codes = codes' :=
  List.right_unique_forall₂' (fun _ _ _ hItem hItem' => hItem.unique hItem') h h'

/-- Later structs stand first. -/
theorem schema_eq : m.schema = (m.items.filterMap ModuleItem.entity?).reverse := by
  unfold schema
  induction m.items using List.reverseRecOn with
  | nil => rfl
  | append_singleton rest item ih =>
      rw [List.foldl_append, ih, List.filterMap_append, List.reverse_append]
      cases item with
      | struct left entity =>
          match entity with
          | .error e | .ok none | .ok (some e) => rfl
      | query | other => rfl

/-- A query has code unless it is accepted and its constant would have a name that is no
identifier. -/
theorem exists_tokens_iff {schema : Schema} {q : QueryDeclaration} :
    (∃ tokens, (Expansion.ofQuery schema q).tokens? options = some tokens) ↔
      ¬ ((∃ shape, q.shape schema = .ok shape) ∧ Text.isIdentifier q.constantName = false) := by
  unfold Expansion.ofQuery
  cases q.shape schema with
  | error e => simp [Expansion.tokens?]
  | ok shape => cases hName : Text.isIdentifier q.constantName <;> simp [Expansion.tokens?, hName]

/-- A module expands unless the constant of an accepted query cannot be named. -/
theorem expand?_eq_none_iff :
    m.expand? options = none ↔ ∃ q ∈ m.queries, (∃ shape, q.shape m.schema = .ok shape) ∧
      Text.isIdentifier q.constantName = false := by
  have hFunctions : (∃ functions, m.functions? options = some functions) ↔ ∀ q ∈ m.queries,
      ∃ tokens, (Expansion.ofQuery m.schema q).tokens? options = some tokens := by
    simp only [← Schema.exists_forall₂_iff, functions?, Option.map_eq_some_iff, mapM_eq_some_iff]
    exact ⟨fun ⟨_, pieces, hPieces, _⟩ => ⟨pieces, hPieces⟩,
      fun ⟨pieces, hPieces⟩ => ⟨_, pieces, hPieces, rfl⟩⟩
  rw [expand?, Option.map_eq_none_iff, ← not_iff_not, ← Ne, Option.ne_none_iff_exists', hFunctions]
  simp only [exists_tokens_iff, not_exists, not_and]

variable (m options) in
/-- The item adds its own code to the module, and changes the code of no item before or after it.
Read from right to left, taking the item away takes its own code away. -/
def AddsOnlyItself (before : List ModuleItem) (item : ModuleItem) (after : List ModuleItem) :
    Prop :=
  let without : DeclarationModule := { m with items := before ++ after }
  ∀ codes, Emits { m with items := before ++ item :: after } options codes ↔
    ∃ front own back, codes = front ++ own :: back ∧ front.length = before.length ∧
      item.Emits without.schema options own ∧ without.Emits options (front ++ back)

/-- An item adds only itself if every item has the same code with it as without it. -/
theorem addsOnlyItself_of_same {before after : List ModuleItem} {item : ModuleItem}
    (h : ∀ other ∈ before ++ item :: after, ∀ code,
      other.Emits (schema { m with items := before ++ item :: after }) options code ↔
        other.Emits (schema { m with items := before ++ after }) options code) :
    m.AddsOnlyItself options before item after := by
  intro codes
  rw [Emits, forall₂_congr_of_mem h, forall₂_append_left_iff]
  constructor
  · rintro ⟨front, rest, rfl, hFront, hRest⟩
    obtain ⟨own, back, hOwn, hBack, rfl⟩ := List.forall₂_cons_left_iff.mp hRest
    exact ⟨front, own, back, rfl, hFront.length_eq.symm, hOwn,
      forall₂_append_left_iff.mpr ⟨front, back, rfl, hFront, hBack⟩⟩
  · rintro ⟨front, own, back, rfl, hLength, hOwn, hRest⟩
    obtain ⟨front', back', hCodes, hFront, hBack⟩ := forall₂_append_left_iff.mp hRest
    obtain ⟨rfl, rfl⟩ := List.append_inj hCodes (hLength.trans hFront.length_eq)
    exact ⟨front, own :: back, rfl, hFront, .cons hOwn hBack⟩

/-- A query leaves the structs as they are. -/
theorem addsOnlyItself_query (before after : List ModuleItem)
    (declaration : Except SourceError QueryDeclaration) :
    m.AddsOnlyItself options before (.query declaration) after := by
  refine addsOnlyItself_of_same fun other _ code => ?_
  have hSchema : schema { m with items := before ++ .query declaration :: after } =
      schema { m with items := before ++ after } := by
    rw [schema_eq, schema_eq, List.filterMap_append, List.filterMap_append,
      List.filterMap_cons_none rfl]
  rw [hSchema]

/-- A struct is read by those queries only that mention it, or another struct that does. -/
theorem addsOnlyItself_struct (before after : List ModuleItem) (s : StructItem) (e : Entity)
    (hQueries : ∀ q, ModuleItem.query (.ok q) ∈ before ++ after → ¬ q.output.Mentions e.name)
    (hStructs : ∀ left other, ModuleItem.struct left (.ok (some other)) ∈ before ++ after →
      ¬ other.Mentions e.name) :
    m.AddsOnlyItself options before (.struct s (.ok (some e))) after := by
  have hAgrees : Schema.AgreesBut e.name (schema { m with items := before ++ after })
      (schema { m with items := before ++ .struct s (.ok (some e)) :: after }) := by
    rw [schema_eq, schema_eq]
    refine ⟨fun found hFound => ?_, fun other hOther => ?_⟩
    · rw [List.filterMap_append, List.filterMap_append,
        List.filterMap_cons_some (show ModuleItem.entity? _ = some e from rfl),
        List.reverse_append, List.reverse_append, List.reverse_cons, List.append_assoc,
        List.singleton_append, Schema.get?_insert_between hFound]
    · obtain ⟨item, hItem, hEntity⟩ := List.mem_filterMap.mp (List.mem_reverse.mp hOther)
      unfold ModuleItem.entity? at hEntity
      split at hEntity
      · subst hEntity
        exact hStructs _ other hItem
      · cases hEntity
  refine addsOnlyItself_of_same fun other hOther code => ?_
  have hShape (q : QueryDeclaration) (hQuery : other = .query (.ok q)) :
      q.shape (schema { m with items := before ++ after }) =
        q.shape (schema { m with items := before ++ .struct s (.ok (some e)) :: after }) := by
    refine hAgrees.shape (hQueries q ?_)
    simpa [hQuery] using hOther
  exact ⟨fun h => h.of_shape fun q hQuery => (hShape q hQuery).symm, fun h => h.of_shape hShape⟩

/-- The modules have the same items of each kind in the same order, but may mix them
differently. -/
structure SameKinds (m other : DeclarationModule) : Prop where
  attributes : m.attributes = other.attributes
  visibility : m.visibility = other.visibility
  name : m.name = other.name
  others : m.items.filterMap ModuleItem.other? = other.items.filterMap ModuleItem.other?
  structs : m.items.filterMap ModuleItem.struct? = other.items.filterMap ModuleItem.struct?
  queries : m.items.filterMap ModuleItem.query? = other.items.filterMap ModuleItem.query?
  errors : m.items.filterMap ModuleItem.error? = other.items.filterMap ModuleItem.error?

theorem others_eq : m.others = (m.items.filterMap ModuleItem.other?).flatMap id :=
  ModuleItem.flatMap_filterMap (fun item => by cases item <;> rfl) _

theorem structs_eq : m.structs = (m.items.filterMap ModuleItem.struct?).flatMap
    fun (s, entity) =>
      match entity with
      | .ok (some e) => Print.tableName e ++ s.tokens
      | _ => s.tokens := by
  refine ModuleItem.flatMap_filterMap (fun item => ?_) _
  cases item with
  | struct s entity =>
      match entity with
      | .error e | .ok none | .ok (some e) => rfl
  | query | other => rfl

theorem errors_eq :
    m.errors = (m.items.filterMap ModuleItem.error?).flatMap Print.compileError := by
  refine ModuleItem.flatMap_filterMap (fun item => ?_) _
  cases item with
  | struct s entity => cases entity <;> rfl
  | query declaration => cases declaration <;> rfl
  | other => rfl

theorem queries_eq : m.queries = m.items.filterMap ModuleItem.query? := by
  refine List.filterMap_congr fun item _ => ?_
  cases item with
  | query declaration => cases declaration <;> rfl
  | struct | other => rfl

theorem entities_eq : m.items.filterMap ModuleItem.entity? =
    (m.items.filterMap ModuleItem.struct?).filterMap fun (_, entity) => entity.toOption.join := by
  rw [List.filterMap_filterMap]
  refine List.filterMap_congr fun item _ => ?_
  cases item with
  | struct s entity => cases entity <;> rfl
  | query | other => rfl

/-- How items of different kinds are mixed does not matter. -/
theorem SameKinds.expand {other : DeclarationModule} (h : m.SameKinds other) :
    m.expand? options = other.expand? options := by
  have hSchema : m.schema = other.schema := by
    rw [schema_eq, schema_eq, entities_eq, entities_eq, h.structs]
  have hFunctions : m.functions? options = other.functions? options := by
    rw [functions?, functions?, queries_eq, queries_eq, h.queries, hSchema]
  rw [expand?, expand?, hFunctions, others_eq, others_eq, structs_eq, structs_eq, errors_eq,
    errors_eq, h.attributes, h.visibility, h.name, h.others, h.structs, h.errors]

/-- A module expands to the code of its items, section by section, unless the constant of an
accepted query would have a name that is no identifier. Each item has its code whatever other items
stand beside it: a query declaration adds only itself, a struct that no query and no struct
mentions adds only itself, and items of different kinds may be mixed in any way. -/
theorem expands_item_by_item (m : DeclarationModule) (options : Options) :
    (∀ tokens, m.expand? options = some tokens ↔
      ∃ codes, m.Emits options codes ∧ tokens = m.assemble codes) ∧
    (∀ codes codes', m.Emits options codes → m.Emits options codes' → codes = codes') ∧
    (m.expand? options = none ↔ ∃ q ∈ m.queries, (∃ shape, q.shape m.schema = .ok shape) ∧
      Text.isIdentifier q.constantName = false) ∧
    (∀ before declaration after,
      m.AddsOnlyItself options before (.query declaration) after) ∧
    (∀ before s e after,
      (∀ q, .query (.ok q) ∈ before ++ after → ¬ q.output.Mentions e.name) →
      (∀ left other, .struct left (.ok (some other)) ∈ before ++ after →
        ¬ other.Mentions e.name) →
      m.AddsOnlyItself options before (.struct s (.ok (some e))) after) ∧
    ∀ other, m.SameKinds other → m.expand? options = other.expand? options :=
  ⟨fun _ => expand?_eq_some_iff, fun _ _ h h' => h.unique h', expand?_eq_none_iff,
    fun before declaration after => addsOnlyItself_query before after declaration,
    fun before s e after => addsOnlyItself_struct before after s e,
    fun _ h => h.expand⟩

/-- A query whose name needs the mark `r#`. The mark is a part of the name of its constant. -/
def marked : QueryDeclaration where
  attributes := []
  visibility := []
  name := "r#type"
  query := ⟨⟨"\"S\""⟩, none, none⟩
  arguments := []
  output := .named "i64"

def importing (items : List ModuleItem) : DeclarationModule where
  attributes := []
  visibility := []
  name := "m"
  items := .other (Print.word "use" ++ Print.word "a" ++ Print.op ";") :: items

/-- With such a query a module does not expand at all, although the query is accepted and the module
expands without it. -/
theorem marked_query_stops_expansion :
    (∃ shape, marked.shape (importing [.query (.ok marked)]).schema = .ok shape) ∧
      (importing [.query (.ok marked)]).expand? Options.default = none ∧
      ∃ tokens, (importing []).expand? Options.default = some tokens := by
  have hAccepted : ∃ shape, marked.shape (importing [.query (.ok marked)]).schema = .ok shape :=
    ⟨_, rfl⟩
  refine ⟨hAccepted, expand?_eq_none_iff.mpr ⟨marked, List.mem_singleton_self _, hAccepted, ?_⟩,
    _, rfl⟩
  decide

end DeclarationModule

end TypedQuery
