import TypedQuery.Proofs.Source.Settings
import TypedQuery.Proofs.Text.Quoted

/-! The arguments of mapping attributes. They are accepted exactly if they are lists of the settings
that the attribute knows, in any order and number, and each setting has the value that it is given
last. -/

namespace TypedQuery

/-- The text that a setting is given. -/
def StringLiteral.SpellsText (s : StringLiteral) (ts : Tokens) : Prop :=
  s.IsString ∧ ∃ joint, ts = [.punct '=' joint, s.token]

/-- A setting: `name = "text"`. -/
structure TextSetting where
  name : String
  value : StringLiteral

namespace TextSetting

/-- The setting has one of these names, and is spelled like this. -/
def Spells (names : List String) (x : TextSetting) (ts : Tokens) : Prop :=
  x.name ∈ names ∧ ∃ text, x.value.SpellsText text ∧ ts = .ident x.name :: text

/-- The text of the setting, if it has this name. -/
def value? (name : String) (x : TextSetting) : Option StringLiteral :=
  if x.name = name then some x.value else none

/-- No setting is spelled by no tokens. -/
theorem not_spells_nil (names : List String) (x : TextSetting) : ¬x.Spells names [] := by
  rintro ⟨-, text, -, ⟨⟩⟩

/-- A setting ends in its text, not in a comma. -/
theorem not_spells_comma (names : List String) (x : TextSetting) (front : Tokens) (joint : Bool) :
    ¬x.Spells names (front ++ [.punct ',' joint]) := by
  rintro ⟨-, text, ⟨-, equals, rfl⟩, hTokens⟩
  simpa [StringLiteral.token] using congrArg List.getLast? hTokens

/-- A setting has a value under its own name alone. -/
theorem name_of_value? {name : String} {x : TextSetting} {value : StringLiteral}
    (h : x.value? name = some value) : x.name = name := by
  unfold value? at h
  split at h
  · assumption
  · cases h

/-- Settings with different names can stand in any order. -/
theorem lastOf_eq {items others : List TextSetting} (h : items.Perm others)
    (hNodup : (items.map TextSetting.name).Nodup) (name : String) :
    lastOf (value? name) items = lastOf (value? name) others :=
  lastOf_perm (fun _ _ => name_of_value?) h hNodup

/-- A setting as it is printed. -/
def tokens (x : TextSetting) : Tokens := [.ident x.name, .punct '=' false, x.value.token]

/-- A setting that is known and has a proper text is spelled by its printed tokens. -/
theorem spells_tokens {names : List String} {x : TextSetting} (hName : x.name ∈ names)
    (hValue : x.value.IsString) : x.Spells names x.tokens :=
  ⟨hName, _, ⟨hValue, false, rfl⟩, rfl⟩

theorem forall₂_tokens {names : List String} {items : List TextSetting}
    (hNames : ∀ x ∈ items, x.name ∈ names) (hValues : ∀ x ∈ items, x.value.IsString) :
    List.Forall₂ (Spells names) items (items.map tokens) := by
  rw [List.forall₂_map_right_iff, List.forall₂_same]
  exact fun x hx => spells_tokens (hNames x hx) (hValues x hx)

end TextSetting

namespace Parser

variable {σ : Type}

/-- The text of a setting is read behind `=`. -/
theorem parses_settingText : settingText.Parses StringLiteral.SpellsText := by
  refine ((parses_operator rfl).bind fun _ => parses_stringLiteral).congr fun s ts => ?_
  constructor
  · rintro ⟨_, _, _, ⟨-, joint, rfl⟩, ⟨hString, rfl⟩, rfl⟩
    exact ⟨hString, joint, rfl⟩
  · rintro ⟨hString, joint, rfl⟩
    exact ⟨_, [_], [_], ⟨rfl, joint, rfl⟩, ⟨hString, rfl⟩, rfl⟩

/-- A setting with a text is read from its name on. -/
theorem readsSetting_text {names : List String} (hNames : ∀ name ∈ names, isWord name = true)
    {setting : String → σ → Parser σ} {put : σ → TextSetting → σ}
    (h : ∀ name s, (setting name s).Parses fun s' ts =>
      name ∈ names ∧ ∃ text, text.SpellsText ts ∧ s' = put s ⟨name, text⟩) :
    ReadsSetting setting (TextSetting.Spells names) put := by
  intro s
  refine (parses_identifier.bind fun name => h name s).congr fun s' ts => ?_
  constructor
  · rintro ⟨name, _, ts, ⟨-, rfl⟩, ⟨hName, text, hText, rfl⟩, rfl⟩
    exact ⟨⟨name, text⟩, ⟨hName, ts, hText, rfl⟩, rfl⟩
  · rintro ⟨⟨name, text⟩, ⟨hName, ts, hText, rfl⟩, rfl⟩
    exact ⟨name, [_], ts, ⟨hNames name hName, rfl⟩, ⟨hName, text, hText, rfl⟩, rfl⟩

end Parser

namespace QueryText

/-- Take a setting; a later one replaces it. -/
def put (q : QueryText) (x : TextSetting) : QueryText :=
  { q with key := (x.value? "key").or q.key, value := (x.value? "value").or q.value }

/-- A setting of a query is known by its name, and changes this one column. -/
theorem parses_setting (name : String) (q : QueryText) :
    (setting name q).Parses fun q' ts =>
      name ∈ ["key", "value"] ∧ ∃ text, text.SpellsText ts ∧ q' = q.put ⟨name, text⟩ := by
  refine ((Parser.parses_settingText.map _).ite
    ((Parser.parses_settingText.map _).ite (.throw _))).congr fun q' ts => ?_
  by_cases hKey : name = "key"
  · subst hKey
    simp [put, TextSetting.value?]
  · by_cases hValue : name = "value"
    · subst hValue
      simp [put, TextSetting.value?]
    · simp [hKey, hValue]

/-- Settings of queries are read one at a time. -/
theorem readsSetting :
    Parser.ReadsSetting setting (TextSetting.Spells ["key", "value"]) put :=
  Parser.readsSetting_text (by decide) parses_setting

/-- Of several settings of one name the last one counts, and before it what was there. -/
theorem foldl_put (items : List TextSetting) (q : QueryText) :
    items.foldl put q =
      ⟨q.sql, (lastOf (TextSetting.value? "key") items).or q.key,
        (lastOf (TextSetting.value? "value") items).or q.value⟩ := by
  induction items generalizing q with
  | nil => rfl
  | cons x items ih => simp only [List.foldl_cons, ih, lastOf_cons, put, Option.or_assoc]

/-- What may stand behind the SQL: nothing, or a comma and settings. -/
inductive Follows : List TextSetting → Tokens → Prop where
  | none : Follows [] []
  | comma {items : List TextSetting} {ts : Tokens} (joint : Bool)
      (h : Separated (TextSetting.Spells ["key", "value"]) items ts) :
      Follows items (.punct ',' joint :: ts)

/-- No settings follow if nothing does. -/
theorem follows_nil_iff {items : List TextSetting} : Follows items [] ↔ items = [] := by
  constructor
  · rintro ⟨⟩
    rfl
  · rintro rfl
    exact .none

theorem follows_comma_iff {items : List TextSetting} {joint : Bool} :
    Follows items [.punct ',' joint] ↔ items = [] := by
  rw [← separated_nil_iff (TextSetting.not_spells_nil ["key", "value"])]
  constructor
  · rintro ⟨⟩
    assumption
  · exact .comma joint

/-- The arguments of a query: SQL that is not blank and settings, each of which counts where it is
given last. -/
def Spells (q : QueryText) (ts : Tokens) : Prop :=
  q.sql.IsString ∧ isBlank q.sql.value = false ∧ ∃ items rest, Follows items rest ∧
    q.key = lastOf (TextSetting.value? "key") items ∧
    q.value = lastOf (TextSetting.value? "value") items ∧ ts = q.sql.token :: rest

/-- The settings of a query up to the end of its arguments. -/
theorem parsesAll_settings (sql : StringLiteral) :
    (Parser.allSettings setting ⟨sql, none, none⟩).ParsesAll fun q ts =>
      ∃ items, Separated (TextSetting.Spells ["key", "value"]) items ts ∧
        q = ⟨sql, lastOf (TextSetting.value? "key") items,
          lastOf (TextSetting.value? "value") items⟩ := by
  refine (Parser.parsesAll_allSettings readsSetting (TextSetting.not_spells_nil _) _).congr
    fun q ts => ?_
  simp only [foldl_put, Option.or_none]

/-- Only the SQL can be blank, and it is not looked at before the settings are read. -/
theorem parsesAll_checked (sql : StringLiteral) :
    (do
      let q ← Parser.allSettings setting ⟨sql, none, none⟩
      if isBlank sql.value then throw .emptyQuery else return q : Parser QueryText).ParsesAll
      fun q ts => isBlank sql.value = false ∧
        ∃ items, Separated (TextSetting.Spells ["key", "value"]) items ts ∧
          q = ⟨sql, lastOf (TextSetting.value? "key") items,
            lastOf (TextSetting.value? "value") items⟩ := by
  intro ts stray q t
  rw [Parser.run_bind_ok_iff]
  simp only [parsesAll_settings sql ts stray]
  cases isBlank sql.value with
  | true =>
      constructor
      · rintro ⟨_, _, -, ⟨⟩⟩
      · rintro ⟨⟨⟨⟩, -⟩, -⟩
  | false =>
      simp only [Bool.false_eq_true, ↓reduceIte, Parser.run_pure_ok_iff]
      constructor
      · rintro ⟨_, _, ⟨hItems, rfl⟩, rfl, rfl⟩
        exact ⟨⟨trivial, hItems⟩, rfl⟩
      · rintro ⟨⟨-, hItems⟩, rfl⟩
        exact ⟨q, _, ⟨hItems, rfl⟩, rfl, rfl⟩

/-- The arguments of a query are its text and the settings behind it, and nothing else is accepted.
-/
theorem parsesAll_arguments : parser.ParsesAll Spells := by
  refine (Parser.parses_stringLiteral.bindAll (Q := fun sql q ts => isBlank sql.value = false ∧
    ∃ items, Follows items ts ∧ q = ⟨sql, lastOf (TextSetting.value? "key") items,
      lastOf (TextSetting.value? "value") items⟩) fun sql => ?_).congr fun q ts => ?_
  · intro ts stray q t
    by_cases hEnd : ts = []
    · subst hEnd
      refine (parsesAll_checked sql [] stray q t).trans ?_
      simp only [separated_nil_iff (TextSetting.not_spells_nil _), follows_nil_iff]
    · rw [Parser.run_atEnd_of_ne _ hEnd]
      refine (((Parser.parses_operator rfl).bindAll fun _ => parsesAll_checked sql) ts stray q
        t).trans (and_congr_left fun _ => ?_)
      constructor
      · rintro ⟨_, _, rest, ⟨-, joint, rfl⟩, ⟨hBlank, items, hItems, rfl⟩, rfl⟩
        exact ⟨hBlank, items, .comma joint hItems, rfl⟩
      · rintro ⟨hBlank, items, hItems, rfl⟩
        cases hItems with
        | none => exact absurd rfl hEnd
        | comma joint h => exact ⟨_, [_], _, ⟨rfl, joint, rfl⟩, ⟨hBlank, items, h, rfl⟩, rfl⟩
  · constructor
    · rintro ⟨sql, _, rest, ⟨hString, rfl⟩, ⟨hBlank, items, hItems, rfl⟩, rfl⟩
      exact ⟨hString, hBlank, items, rest, hItems, rfl, rfl, rfl⟩
    · rintro ⟨hString, hBlank, items, rest, hItems, hKey, hValue, rfl⟩
      exact ⟨q.sql, [_], rest, ⟨hString, rfl⟩,
        ⟨hBlank, items, hItems, by rw [← hKey, ← hValue]⟩, rfl⟩

/-- A comma at the end of the settings changes nothing. -/
theorem follows_trailing_iff {items : List TextSetting} {front : Tokens} {last : Token}
    (hLast : ∀ joint, last ≠ .punct ',' joint) (joint : Bool) :
    Follows items (front ++ [last] ++ [.punct ',' joint]) ↔ Follows items (front ++ [last]) := by
  cases front with
  | nil =>
      constructor
      · rintro ⟨⟩
        exact absurd rfl (hLast _)
      · rintro ⟨⟩
        exact absurd rfl (hLast _)
  | cons first front =>
      have hSame := @separated_trailing_iff _ _ (TextSetting.not_spells_nil ["key", "value"])
        (TextSetting.not_spells_comma _) items front last hLast joint
      constructor
      · rintro ⟨⟩
        exact .comma _ (hSame.mp ‹_›)
      · rintro ⟨⟩
        exact .comma _ (hSame.mpr ‹_›)

/-- A comma at the end of the arguments is read over. -/
theorem parse_trailing {front : Tokens} {last : Token} (hLast : ∀ joint, last ≠ .punct ',' joint)
    (joint : Bool) :
    parser.SameResult (front ++ [last] ++ [.punct ',' joint]) (front ++ [last]) := by
  intro q
  rw [parsesAll_arguments.parse_iff, parsesAll_arguments.parse_iff]
  refine and_congr_right fun _ => and_congr_right fun _ => exists_congr fun items => ?_
  cases front with
  | nil =>
      constructor
      · rintro ⟨rest, hFollows, hKey, hValue, hTokens⟩
        cases hTokens
        obtain rfl := follows_comma_iff.mp hFollows
        exact ⟨[], .none, hKey, hValue, rfl⟩
      · rintro ⟨rest, hFollows, hKey, hValue, hTokens⟩
        cases hTokens
        obtain rfl := follows_nil_iff.mp hFollows
        exact ⟨_, .comma joint .nil, hKey, hValue, rfl⟩
  | cons first front =>
      constructor
      · rintro ⟨rest, hFollows, hKey, hValue, hTokens⟩
        cases hTokens
        exact ⟨_, (follows_trailing_iff hLast joint).mp hFollows, hKey, hValue, rfl⟩
      · rintro ⟨rest, hFollows, hKey, hValue, hTokens⟩
        cases hTokens
        exact ⟨_, (follows_trailing_iff hLast joint).mpr hFollows, hKey, hValue, rfl⟩

/-- With a list of settings only what is set last counts. -/
theorem spells_settings_iff {q : QueryText} {sql : StringLiteral} {items : List TextSetting}
    {ts : Tokens} (h : Separated (TextSetting.Spells ["key", "value"]) items ts) (joint : Bool) :
    q.Spells (sql.token :: .punct ',' joint :: ts) ↔
      sql.IsString ∧ isBlank sql.value = false ∧
        q = ⟨sql, lastOf (TextSetting.value? "key") items,
          lastOf (TextSetting.value? "value") items⟩ := by
  constructor
  · rintro ⟨hString, hBlank, others, rest, hFollows, hKey, hValue, hTokens⟩
    obtain ⟨⟨text⟩, key, value⟩ := q
    obtain ⟨given⟩ := sql
    cases hTokens
    obtain _ | ⟨_, hOthers⟩ := hFollows
    have hSame := (parsesAll_settings ⟨text⟩).unique ⟨items, h, rfl⟩ ⟨others, hOthers, rfl⟩
    exact ⟨hString, hBlank, by rw [hSame, ← hKey, ← hValue]⟩
  · rintro ⟨hString, hBlank, rfl⟩
    exact ⟨hString, hBlank, items, _, .comma joint h, rfl, rfl, rfl⟩

/-- The order of settings with different names does not matter. -/
theorem parse_reordered {sql : StringLiteral} {items others : List TextSetting} {ts us : Tokens}
    (h : Separated (TextSetting.Spells ["key", "value"]) items ts)
    (hOther : Separated (TextSetting.Spells ["key", "value"]) others us)
    (hPerm : items.Perm others) (hNodup : (items.map TextSetting.name).Nodup)
    (joint joint' : Bool) :
    parser.SameResult (sql.token :: .punct ',' joint :: ts)
      (sql.token :: .punct ',' joint' :: us) := by
  intro q
  rw [parsesAll_arguments.parse_iff, parsesAll_arguments.parse_iff, spells_settings_iff h,
    spells_settings_iff hOther, TextSetting.lastOf_eq hPerm hNodup,
    TextSetting.lastOf_eq hPerm hNodup]

/-- The settings that a query has. -/
def settings (q : QueryText) : List TextSetting :=
  (q.key.map (TextSetting.mk "key")).toList ++ (q.value.map (TextSetting.mk "value")).toList

/-- The arguments as they are printed, perhaps with a comma at the end. -/
def tokens (q : QueryText) (trailing : Bool) : Tokens :=
  q.sql.token ::
    if q.settings.isEmpty && !trailing then []
    else .punct ',' false :: Parser.joined "," (q.settings.map TextSetting.tokens, trailing)

/-- What can be written: strings, of which the SQL is not blank. -/
structure IsWritten (q : QueryText) : Prop where
  sql : q.sql.IsString
  settings : ∀ x ∈ q.settings, x.value.IsString
  notBlank : isBlank q.sql.value = false

/-- The printed arguments of a query spell it, with or without a comma at their end. -/
theorem spells_tokens {q : QueryText} (h : q.IsWritten) (trailing : Bool) :
    q.Spells (q.tokens trailing) := by
  have hNames : ∀ x ∈ q.settings, x.name ∈ ["key", "value"] := by
    obtain ⟨sql, _ | key, _ | value⟩ := q <;> simp [settings]
  have hPieces : List.Forall₂ (TextSetting.Spells ["key", "value"]) q.settings
      (q.settings.map TextSetting.tokens) := TextSetting.forall₂_tokens hNames h.settings
  refine ⟨h.sql, h.notBlank, q.settings, _, ?_, ?_, ?_, rfl⟩
  · split
    · rename_i hNone
      simp only [Bool.and_eq_true, List.isEmpty_iff] at hNone
      rw [hNone.1]
      exact .none
    · exact .comma false (separated_joined hPieces trailing)
  · obtain ⟨sql, _ | key, _ | value⟩ := q <;> rfl
  · obtain ⟨sql, _ | key, _ | value⟩ := q <;> rfl

end QueryText

/-- The arguments of a junction: settings, with each of the three columns at least once. -/
def Junction.Spells (j : Junction) (ts : Tokens) : Prop :=
  ∃ items, Separated (TextSetting.Spells ["table", "parent", "entity"]) items ts ∧
    ∃ table parent entity,
      lastOf (TextSetting.value? "table") items = some table ∧
      lastOf (TextSetting.value? "parent") items = some parent ∧
      lastOf (TextSetting.value? "entity") items = some entity ∧
      j = ⟨table.value, parent.value, entity.value⟩

namespace JunctionDraft

/-- Take a setting; a later one replaces it. -/
def put (j : JunctionDraft) (x : TextSetting) : JunctionDraft :=
  ⟨(x.value? "table").or j.table, (x.value? "parent").or j.parent, (x.value? "entity").or j.entity⟩

/-- A setting of a junction is one of three texts. -/
theorem parses_setting (name : String) (j : JunctionDraft) :
    (setting name j).Parses fun j' ts => name ∈ ["table", "parent", "entity"] ∧
      ∃ text, text.SpellsText ts ∧ j' = j.put ⟨name, text⟩ := by
  refine ((Parser.parses_settingText.map _).ite ((Parser.parses_settingText.map _).ite
    ((Parser.parses_settingText.map _).ite (.throw _)))).congr fun j' ts => ?_
  by_cases hTable : name = "table"
  · subst hTable
    simp [put, TextSetting.value?]
  · by_cases hParent : name = "parent"
    · subst hParent
      simp [put, TextSetting.value?]
    · by_cases hEntity : name = "entity"
      · subst hEntity
        simp [put, TextSetting.value?]
      · simp [hTable, hParent, hEntity]

theorem readsSetting :
    Parser.ReadsSetting setting (TextSetting.Spells ["table", "parent", "entity"]) put :=
  Parser.readsSetting_text (by decide) parses_setting

/-- The three texts of a junction are set independently, each by its last setting. -/
theorem foldl_put (items : List TextSetting) (j : JunctionDraft) :
    items.foldl put j =
      ⟨(lastOf (TextSetting.value? "table") items).or j.table,
        (lastOf (TextSetting.value? "parent") items).or j.parent,
        (lastOf (TextSetting.value? "entity") items).or j.entity⟩ := by
  induction items generalizing j with
  | nil => rfl
  | cons x items ih => simp only [List.foldl_cons, ih, lastOf_cons, put, Option.or_assoc]

/-- A junction is complete if it has all three texts. -/
theorem finish_ok_iff {j : JunctionDraft} {found : Junction} :
    j.finish = .ok found ↔ ∃ table parent entity, j.table = some table ∧ j.parent = some parent ∧
      j.entity = some entity ∧ found = ⟨table.value, parent.value, entity.value⟩ := by
  obtain ⟨_ | table, _ | parent, _ | entity⟩ := j <;> simp [finish, eq_comm]

/-- The arguments of a junction are accepted exactly as its grammar says. -/
theorem parsesAll_arguments : parser.ParsesAll Junction.Spells := by
  refine (Parser.parsesAll_finished readsSetting (TextSetting.not_spells_nil _)).congr
    fun j ts => ?_
  simp only [foldl_put, Option.or_none, finish_ok_iff, Junction.Spells]

/-- Inside a junction too a comma at the end is read over. -/
theorem parse_trailing {front : Tokens} {last : Token} (hLast : ∀ joint, last ≠ .punct ',' joint)
    (joint : Bool) :
    parser.SameResult (front ++ [last] ++ [.punct ',' joint]) (front ++ [last]) :=
  Parser.finished_trailing readsSetting (TextSetting.not_spells_nil _)
    (TextSetting.not_spells_comma _) hLast joint

/-- The three texts of a junction may be given in any order. -/
theorem parse_reordered {items others : List TextSetting} {ts us : Tokens}
    (h : Separated (TextSetting.Spells ["table", "parent", "entity"]) items ts)
    (hOther : Separated (TextSetting.Spells ["table", "parent", "entity"]) others us)
    (hPerm : items.Perm others) (hNodup : (items.map TextSetting.name).Nodup) :
    parser.parse ts = parser.parse us := by
  refine Parser.finished_congr readsSetting (TextSetting.not_spells_nil _) h hOther ?_
  simp only [foldl_put, TextSetting.lastOf_eq hPerm hNodup]

end JunctionDraft

/-- A setting of a relation: one with a text, or a junction. -/
inductive RelationSetting where
  | text (x : TextSetting)
  | junction (j : Junction)

namespace RelationSetting

def Spells : RelationSetting → Tokens → Prop
  | text x, ts => x.Spells ["parent", "entity"] ts
  | junction j, ts => ∃ inner, j.Spells inner ∧
    ts = [.ident "junction", .group .parenthesis inner]

def name : RelationSetting → String
  | text x => x.name
  | junction _ => "junction"

def value? (name : String) : RelationSetting → Option StringLiteral
  | text x => x.value? name
  | junction _ => none

def junction? : RelationSetting → Option Junction
  | text _ => none
  | junction j => some j

/-- A setting of a relation starts with its name. -/
theorem exists_name {x : RelationSetting} {ts : Tokens} (h : x.Spells ts) :
    ∃ name rest, Parser.isWord name = true ∧ ts = .ident name :: rest := by
  cases x with
  | text x =>
      obtain ⟨hName, text, -, rfl⟩ := h
      have hNames : ∀ name ∈ ["parent", "entity"], Parser.isWord name = true := by decide
      exact ⟨x.name, text, hNames _ hName, rfl⟩
  | junction j =>
      obtain ⟨inner, -, rfl⟩ := h
      exact ⟨"junction", _, by decide, rfl⟩

theorem not_spells_nil (x : RelationSetting) : ¬x.Spells [] := by
  intro h
  obtain ⟨_, _, -, ⟨⟩⟩ := exists_name h

/-- No setting of a relation ends in a comma, not even one with a junction in parentheses. -/
theorem not_spells_comma (x : RelationSetting) (front : Tokens) (joint : Bool) :
    ¬x.Spells (front ++ [.punct ',' joint]) := by
  cases x with
  | text x => exact x.not_spells_comma _ front joint
  | junction j =>
      rintro ⟨inner, -, hTokens⟩
      simpa using congrArg List.getLast? hTokens

theorem name_of_value? {name : String} {x : RelationSetting} {value : StringLiteral}
    (h : x.value? name = some value) : x.name = name := by
  cases x with
  | text x => exact TextSetting.name_of_value? h
  | junction j => cases h

/-- A junction is set under the name `junction` alone. -/
theorem name_of_junction? {x : RelationSetting} {j : Junction} (h : x.junction? = some j) :
    x.name = "junction" := by
  cases x with
  | text x => cases h
  | junction j => rfl

end RelationSetting

/-- The arguments of a relation: settings, with each of the two columns at least once. -/
def RelationMapping.Spells (m : RelationMapping) (ts : Tokens) : Prop :=
  ∃ items, Separated RelationSetting.Spells items ts ∧
    ∃ parent entity,
      lastOf (RelationSetting.value? "parent") items = some parent ∧
      lastOf (RelationSetting.value? "entity") items = some entity ∧
      m = ⟨parent.value, entity.value, lastOf RelationSetting.junction? items⟩

namespace RelationDraft

/-- Take a setting; a later one replaces it. -/
def put (r : RelationDraft) (x : RelationSetting) : RelationDraft :=
  ⟨(x.value? "parent").or r.parent, (x.value? "entity").or r.entity, x.junction?.or r.junction⟩

/-- A setting of a relation has a text or, for a junction, arguments of its own. -/
theorem parses_setting (name : String) (r : RelationDraft) :
    (setting name r).Parses fun r' ts =>
      ∃ x : RelationSetting, x.Spells (.ident name :: ts) ∧ r' = r.put x := by
  have hJunction := (JunctionDraft.parsesAll_arguments.inside .parenthesis).map
    fun j => ({ r with junction := some j } : RelationDraft)
  refine ((Parser.parses_settingText.map _).ite ((Parser.parses_settingText.map _).ite
    (hJunction.ite (.throw _)))).congr fun r' ts => ?_
  constructor
  · intro h
    split at h
    · rename_i hName
      obtain ⟨text, hText, rfl⟩ := h
      exact ⟨.text ⟨name, text⟩, ⟨by simp [hName], ts, hText, rfl⟩,
        by simp [put, RelationSetting.value?, RelationSetting.junction?, TextSetting.value?, hName]⟩
    · split at h
      · rename_i hName
        obtain ⟨text, hText, rfl⟩ := h
        exact ⟨.text ⟨name, text⟩, ⟨by simp [hName], ts, hText, rfl⟩,
          by simp [put, RelationSetting.value?, RelationSetting.junction?, TextSetting.value?,
            hName]⟩
      · split at h
        · rename_i hName
          obtain ⟨j, ⟨inner, hInner, rfl⟩, rfl⟩ := h
          exact ⟨.junction j, ⟨inner, hInner, by rw [hName]⟩, rfl⟩
        · exact h.elim
  · rintro ⟨x, hSpells, rfl⟩
    cases x with
    | text x =>
        obtain ⟨given, value⟩ := x
        obtain ⟨hName, text, hText, hTokens⟩ := hSpells
        cases hTokens
        have hNames : given = "parent" ∨ given = "entity" := by simpa using hName
        obtain rfl | rfl := hNames
        · exact ⟨value, hText, rfl⟩
        · exact ⟨value, hText, rfl⟩
    | junction j =>
        obtain ⟨inner, hInner, hTokens⟩ := hSpells
        cases hTokens
        exact ⟨j, ⟨inner, hInner, rfl⟩, rfl⟩

theorem readsSetting : Parser.ReadsSetting setting RelationSetting.Spells put := by
  intro r
  refine (Parser.parses_identifier.bind fun name => parses_setting name r).congr fun r' ts => ?_
  constructor
  · rintro ⟨name, _, ts, ⟨-, rfl⟩, hSetting, rfl⟩
    exact hSetting
  · rintro ⟨x, hSpells, hPut⟩
    obtain ⟨name, rest, hWord, rfl⟩ := RelationSetting.exists_name hSpells
    exact ⟨name, [_], rest, ⟨hWord, rfl⟩, ⟨x, hSpells, hPut⟩, rfl⟩

/-- The two columns and the junction of a relation are set independently, each by its last setting.
-/
theorem foldl_put (items : List RelationSetting) (r : RelationDraft) :
    items.foldl put r =
      ⟨(lastOf (RelationSetting.value? "parent") items).or r.parent,
        (lastOf (RelationSetting.value? "entity") items).or r.entity,
        (lastOf RelationSetting.junction? items).or r.junction⟩ := by
  induction items generalizing r with
  | nil => rfl
  | cons x items ih => simp only [List.foldl_cons, ih, lastOf_cons, put, Option.or_assoc]

/-- A relation needs both columns; a junction it may have. -/
theorem finish_ok_iff {r : RelationDraft} {m : RelationMapping} :
    r.finish = .ok m ↔ ∃ parent entity, r.parent = some parent ∧ r.entity = some entity ∧
      m = ⟨parent.value, entity.value, r.junction⟩ := by
  obtain ⟨_ | parent, _ | entity, junction⟩ := r <;> simp [finish, eq_comm]

/-- The arguments of a relation are accepted exactly as its grammar says. -/
theorem parsesAll_arguments : parser.ParsesAll RelationMapping.Spells := by
  refine (Parser.parsesAll_finished readsSetting RelationSetting.not_spells_nil).congr
    fun m ts => ?_
  simp only [foldl_put, Option.or_none, finish_ok_iff, RelationMapping.Spells]

theorem parse_trailing {front : Tokens} {last : Token} (hLast : ∀ joint, last ≠ .punct ',' joint)
    (joint : Bool) :
    parser.SameResult (front ++ [last] ++ [.punct ',' joint]) (front ++ [last]) :=
  Parser.finished_trailing readsSetting RelationSetting.not_spells_nil
    RelationSetting.not_spells_comma hLast joint

/-- The settings of a relation may be given in any order. -/
theorem parse_reordered {items others : List RelationSetting} {ts us : Tokens}
    (h : Separated RelationSetting.Spells items ts)
    (hOther : Separated RelationSetting.Spells others us) (hPerm : items.Perm others)
    (hNodup : (items.map RelationSetting.name).Nodup) : parser.parse ts = parser.parse us := by
  refine Parser.finished_congr readsSetting RelationSetting.not_spells_nil h hOther ?_
  rw [foldl_put, foldl_put,
    lastOf_perm (fun _ _ => RelationSetting.name_of_value?) hPerm hNodup,
    lastOf_perm (fun _ _ => RelationSetting.name_of_value?) hPerm hNodup,
    lastOf_perm (fun _ _ => RelationSetting.name_of_junction?) hPerm hNodup]

end RelationDraft

/-- A text that is quoted by the generator is a proper string. -/
theorem StringLiteral.isString_quote (s : String) : StringLiteral.IsString ⟨Text.quote s⟩ := by
  simp [StringLiteral.IsString, StringLiteral.ofText?, Text.quote]

/-- The columns of a junction as they are written. -/
structure JunctionText where
  table : StringLiteral
  parent : StringLiteral
  entity : StringLiteral

namespace JunctionText

def settings (j : JunctionText) : List TextSetting :=
  [⟨"table", j.table⟩, ⟨"parent", j.parent⟩, ⟨"entity", j.entity⟩]

def IsWritten (j : JunctionText) : Prop := ∀ x ∈ j.settings, x.value.IsString

def junction (j : JunctionText) : Junction := ⟨j.table.value, j.parent.value, j.entity.value⟩

/-- The settings as they are printed, perhaps with a comma at the end. -/
def tokens (j : JunctionText) (trailing : Bool) : Tokens :=
  Parser.joined "," (j.settings.map TextSetting.tokens, trailing)

/-- A printed junction is read back. -/
theorem spells_tokens {j : JunctionText} (h : j.IsWritten) (trailing : Bool) :
    j.junction.Spells (j.tokens trailing) := by
  have hPieces : List.Forall₂ (TextSetting.Spells ["table", "parent", "entity"]) j.settings
      (j.settings.map TextSetting.tokens) :=
    TextSetting.forall₂_tokens (by simp [settings]) h
  exact ⟨j.settings, separated_joined hPieces trailing, j.table, j.parent, j.entity,
    rfl, rfl, rfl, rfl⟩

/-- Every junction can be written. -/
theorem exists_junction (j : Junction) :
    ∃ text : JunctionText, text.IsWritten ∧ text.junction = j := by
  refine ⟨⟨⟨Text.quote j.table⟩, ⟨Text.quote j.parentColumn⟩, ⟨Text.quote j.entityColumn⟩⟩, ?_, ?_⟩
  · simp [IsWritten, settings, StringLiteral.isString_quote]
  · simp [junction, StringLiteral.value_quote]

end JunctionText

/-- The columns of a relation as they are written, and perhaps its junction. -/
structure RelationText where
  parent : StringLiteral
  entity : StringLiteral
  junction : Option JunctionText

namespace RelationText

def settings (r : RelationText) : List TextSetting := [⟨"parent", r.parent⟩, ⟨"entity", r.entity⟩]

structure IsWritten (r : RelationText) : Prop where
  settings : ∀ x ∈ r.settings, x.value.IsString
  junction : ∀ j ∈ r.junction, j.IsWritten

def mapping (r : RelationText) : RelationMapping :=
  ⟨r.parent.value, r.entity.value, r.junction.map JunctionText.junction⟩

/-- The settings as they are printed, perhaps with a comma at the end of them and inside. -/
def tokens (r : RelationText) (trailing inside : Bool) : Tokens :=
  let junction := r.junction.map fun j => [.ident "junction", .group .parenthesis (j.tokens inside)]
  Parser.joined "," (r.settings.map TextSetting.tokens ++ junction.toList, trailing)

/-- A printed relation is read back, with commas at the end or without. -/
theorem spells_tokens {r : RelationText} (h : r.IsWritten) (trailing inside : Bool) :
    r.mapping.Spells (r.tokens trailing inside) := by
  have hTexts : List.Forall₂ RelationSetting.Spells (r.settings.map .text)
      (r.settings.map TextSetting.tokens) := by
    rw [List.forall₂_map_left_iff]
    exact TextSetting.forall₂_tokens (by simp [settings]) h.settings
  obtain ⟨parent, entity, _ | j⟩ := r
  · exact ⟨_, separated_joined (List.rel_append hTexts .nil) trailing, parent, entity,
      rfl, rfl, rfl⟩
  · have hJunction : (RelationSetting.junction j.junction).Spells
        [.ident "junction", .group .parenthesis (j.tokens inside)] :=
      ⟨_, JunctionText.spells_tokens (h.junction j rfl) inside, rfl⟩
    exact ⟨_, separated_joined (List.rel_append hTexts (.cons hJunction .nil)) trailing,
      parent, entity, rfl, rfl, rfl⟩

/-- Every mapping can be written. -/
theorem exists_mapping (m : RelationMapping) :
    ∃ text : RelationText, text.IsWritten ∧ text.mapping = m := by
  have hJunction : ∃ j : Option JunctionText, (∀ text ∈ j, text.IsWritten) ∧
      j.map JunctionText.junction = m.junction := by
    cases m.junction with
    | none => exact ⟨none, by simp, rfl⟩
    | some found =>
        obtain ⟨j, hWritten, rfl⟩ := JunctionText.exists_junction found
        exact ⟨some j, by simpa using hWritten, rfl⟩
  obtain ⟨j, hWritten, hFound⟩ := hJunction
  refine ⟨⟨⟨Text.quote m.parentColumn⟩, ⟨Text.quote m.entityColumn⟩, j⟩, ⟨?_, hWritten⟩, ?_⟩
  · simp [settings, StringLiteral.isString_quote]
  · simp [mapping, StringLiteral.value_quote, hFound]

end RelationText

/-- The parser accepts exactly what is spelled like this, with a comma at the end and without. -/
structure Parser.AcceptsExactly {α : Type} (p : Parser α) (Spells : α → Tokens → Prop) : Prop where
  accepted : ∀ ts a, p.parse ts = .ok a ↔ Spells a ts
  trailing : ∀ front last joint, (∀ joint, last ≠ .punct ',' joint) →
    p.SameResult (front ++ [last] ++ [.punct ',' joint]) (front ++ [last])

/-- The arguments of queries, of relations and of their junctions are accepted exactly if their
grammars spell them; different settings stand in any order; and what is printed is read back. -/
theorem arguments_accepted_exactly :
    (QueryText.parser.AcceptsExactly QueryText.Spells ∧
      (∀ (sql : StringLiteral) items others ts us joint joint',
        Separated (TextSetting.Spells ["key", "value"]) items ts →
        Separated (TextSetting.Spells ["key", "value"]) others us →
        items.Perm others → (items.map TextSetting.name).Nodup →
        QueryText.parser.SameResult (sql.token :: .punct ',' joint :: ts)
          (sql.token :: .punct ',' joint' :: us)) ∧
      ∀ (q : QueryText) trailing, q.IsWritten →
        QueryText.parser.parse (q.tokens trailing) = .ok q) ∧
    (JunctionDraft.parser.AcceptsExactly Junction.Spells ∧
      ∀ items others ts us,
        Separated (TextSetting.Spells ["table", "parent", "entity"]) items ts →
        Separated (TextSetting.Spells ["table", "parent", "entity"]) others us →
        items.Perm others → (items.map TextSetting.name).Nodup →
        JunctionDraft.parser.parse ts = JunctionDraft.parser.parse us) ∧
    RelationDraft.parser.AcceptsExactly RelationMapping.Spells ∧
      (∀ items others ts us, Separated RelationSetting.Spells items ts →
        Separated RelationSetting.Spells others us → items.Perm others →
        (items.map RelationSetting.name).Nodup →
        RelationDraft.parser.parse ts = RelationDraft.parser.parse us) ∧
      (∀ (r : RelationText) trailing inside, r.IsWritten →
        RelationDraft.parser.parse (r.tokens trailing inside) = .ok r.mapping) ∧
      ∀ m, ∃ r : RelationText, r.IsWritten ∧ r.mapping = m := by
  refine ⟨⟨⟨?_, ?_⟩, ?_, ?_⟩, ⟨⟨?_, ?_⟩, ?_⟩, ⟨?_, ?_⟩, ?_, ?_, RelationText.exists_mapping⟩
  · exact fun _ _ => QueryText.parsesAll_arguments.parse_iff
  · exact fun _ _ joint hLast => QueryText.parse_trailing hLast joint
  · exact fun _ _ _ _ _ joint joint' h hOther hPerm hNodup =>
      QueryText.parse_reordered h hOther hPerm hNodup joint joint'
  · exact fun _ trailing h =>
      QueryText.parsesAll_arguments.parse_iff.mpr (QueryText.spells_tokens h trailing)
  · exact fun _ _ => JunctionDraft.parsesAll_arguments.parse_iff
  · exact fun _ _ joint hLast => JunctionDraft.parse_trailing hLast joint
  · exact fun _ _ _ _ h hOther hPerm hNodup =>
      JunctionDraft.parse_reordered h hOther hPerm hNodup
  · exact fun _ _ => RelationDraft.parsesAll_arguments.parse_iff
  · exact fun _ _ joint hLast => RelationDraft.parse_trailing hLast joint
  · exact fun _ _ _ _ h hOther hPerm hNodup =>
      RelationDraft.parse_reordered h hOther hPerm hNodup
  · exact fun _ trailing inside h =>
      RelationDraft.parsesAll_arguments.parse_iff.mpr (RelationText.spells_tokens h trailing inside)

/-- Titles by genre, with both settings and a comma behind them. -/
theorem keyed_titles_read_back :
    QueryText.parser.parse [.literal "\"SELECT * FROM book\"", .punct ',' false,
      .ident "key", .punct '=' false, .literal "\"genre\"", .punct ',' false,
      .ident "value", .punct '=' false, .literal "\"title\"", .punct ',' false] =
        .ok ⟨⟨"\"SELECT * FROM book\""⟩, some ⟨"\"genre\""⟩, some ⟨"\"title\""⟩⟩ := by
  have hRead := arguments_accepted_exactly.1.2.2
    ⟨⟨"\"SELECT * FROM book\""⟩, some ⟨"\"genre\""⟩, some ⟨"\"title\""⟩⟩ true
    ⟨rfl, by simp [QueryText.settings, StringLiteral.IsString, StringLiteral.ofText?], by decide⟩
  simpa [QueryText.tokens, QueryText.settings, Parser.joined, TextSetting.tokens,
    StringLiteral.token, Token.operator, Token.operatorChars] using hRead

end TypedQuery
