import TypedQuery.Program.Function
import TypedQuery.Proofs.Text.Quoted

/-! What code does with cursors and with tables, read off its tokens alone. The tokens are read one
after the other, and a group is understood by the name, or the method of a name, that stands in
front of it. How the tokens came about does not matter. -/

namespace TypedQuery

/-- Something that code does, by a call or by a struct expression. The cursor of a call is known if
it is given by a name. -/
inductive Reading where
  /-- A call of `move_to_next`. -/
  | moves (cursor : Option String)
  /-- A call of `reset` or `is_empty`, which only snapshots have. -/
  | rewinds (cursor : Option String)
  /-- A call of `copy_cursor`. -/
  | copies (cursor : Option String)
  /-- A `RelationQuery` or a `Junction` with this table. -/
  | names (table : String)
  deriving DecidableEq

namespace Token

/-- What stands right in front of a token: a name, a dot behind something, or a name behind a dot.
What a dot stands behind is known if it is a name alone. -/
inductive Front where
  | other
  | name (x : String)
  | dot (receiver : Option String)
  | method (receiver : Option String) (f : String)

namespace Front

def receiver? : Front → Option String
  | name x => some x
  | _ => none

/-- What stands in front of the token behind this one. -/
def next (front : Front) : Token → Front
  | ident x =>
    match front with
    | dot receiver => method receiver x
    | _ => name x
  | punct c _ => if c = '.' then dot front.receiver? else other
  | _ => other

/-- The name that a group stands behind, and what stands in front of its dot. -/
def called? : Front → Option (Option String × String)
  | name f => some (none, f)
  | method receiver f => some (receiver, f)
  | _ => none

/-- The cursor that `copy_cursor` borrows. -/
def borrowed? : List Token → Option String
  | [punct '&' _, ident "mut", ident x] => some x
  | _ => none

/-- The table that is the first field of a struct. -/
def named : List Token → List Reading
  | ident "table" :: punct ':' _ :: literal text :: _ => [.names (StringLiteral.value ⟨text⟩)]
  | _ => []

/-- What a group does behind a name: the arguments of a call, or the fields of a struct. -/
def reads (front : Front) (d : Delimiter) (inner : List Token) : List Reading :=
  match front.called?, d with
  | some (receiver, f), .parenthesis =>
    if f = "move_to_next" then [.moves receiver]
    else if f = "reset" ∨ f = "is_empty" then [.rewinds receiver]
    else if f = "copy_cursor" then [.copies (borrowed? inner)]
    else []
  | some (_, f), .brace => if f = "RelationQuery" ∨ f = "Junction" then named inner else []
  | _, _ => []

@[simp]
theorem named_table (text : String) (joint : Bool) (rest : List Token) :
    named (.ident "table" :: .punct ':' joint :: .literal text :: rest) =
      [.names (StringLiteral.value ⟨text⟩)] := rfl

@[simp]
theorem named_of_dot (x : String) (joint : Bool) (rest : List Token) :
    named (.ident x :: .punct '.' joint :: rest) = [] := by
  simp [named]

/-- The value of the first field is a name. -/
@[simp]
theorem named_of_ident (x y : String) (c : Char) (joint : Bool) (rest : List Token) :
    named (.ident x :: .punct c joint :: .ident y :: rest) = [] := by
  simp [named]

/-- Of two names only the second one can be called. -/
@[simp]
theorem next_next_ident (front : Front) (x y : String) :
    (front.next (.ident x)).next (.ident y) = .name y := by
  cases front <;> rfl

@[simp]
theorem reads_other (d : Delimiter) (inner : List Token) : other.reads d inner = [] := rfl

@[simp]
theorem reads_method (receiver : Option String) (f : String) (inner : List Token) :
    (method receiver f).reads .parenthesis inner =
      if f = "move_to_next" then [.moves receiver]
      else if f = "reset" ∨ f = "is_empty" then [.rewinds receiver]
      else if f = "copy_cursor" then [.copies (borrowed? inner)]
      else [] := rfl

/-- A call without a dot is read like one whose cursor is unknown. -/
@[simp]
theorem reads_call (f : String) (inner : List Token) :
    (name f).reads .parenthesis inner = (method none f).reads .parenthesis inner := rfl

@[simp]
theorem reads_struct (s : String) (inner : List Token) :
    (name s).reads .brace inner =
      if s = "RelationQuery" ∨ s = "Junction" then named inner else [] := rfl

/-- A struct without a table does nothing, whatever its name is. -/
theorem reads_brace {inner : List Token} (h : named inner = []) (front : Front) :
    front.reads .brace inner = [] := by
  cases front <;> simp [reads, called?, h]

/-- A group is called by the name behind which it stands. -/
theorem called?_next {front : Front} {t : Token} {receiver : Option String} {f : String}
    (h : (front.next t).called? = some (receiver, f)) : t = .ident f := by
  cases t with
  | ident x => cases front <;> simp_all [next, called?]
  | punct c joint => by_cases hDot : c = '.' <;> simp [next, hDot, called?] at h
  | _ => simp [next, called?] at h

/-- A table is the first field of a struct. -/
theorem struct_of_named {inner : List Token} {table : String} (h : .names table ∈ named inner) :
    ∃ text joint fields, StringLiteral.value ⟨text⟩ = table ∧
      inner = .ident "table" :: .punct ':' joint :: .literal text :: fields := by
  unfold named at h
  split at h
  · cases List.mem_singleton.mp h
    exact ⟨_, _, _, rfl, rfl⟩
  · cases h

/-- A table is read off a struct expression for a relation or a junction, and off nothing else. -/
theorem struct_of_names {front : Front} {d : Delimiter} {inner : List Token} {table : String}
    (h : .names table ∈ front.reads d inner) :
    d = .brace ∧ .names table ∈ named inner ∧ ∃ receiver name,
      front.called? = some (receiver, name) ∧ (name = "RelationQuery" ∨ name = "Junction") := by
  unfold reads at h
  grind

end Front

mutual

/-- What a token does, and what stands inside it at any depth. -/
def readings (front : Front) : Token → List Reading
  | group d inner => front.reads d inner ++ readingsIn .other inner
  | _ => []

def readingsIn (front : Front) : List Token → List Reading
  | [] => []
  | t :: rest => readings front t ++ readingsIn (front.next t) rest

end

end Token

namespace Tokens

open Token

/-- All that code does, in its order. -/
def readings (ts : Tokens) : List Reading := readingsIn .other ts

/-- The tokens stand next to each other in some code, at any depth. -/
inductive Within (ts : Tokens) : Tokens → Prop where
  | here {all : Tokens} (h : ts <:+: all) : Within ts all
  | inside {delimiter : Delimiter} {inner all : Tokens} (hGroup : .group delimiter inner ∈ all)
      (h : Within ts inner) : Within ts all

/-- What stands in some code stands in all code around it. -/
theorem Within.mono {ts inner all : Tokens} (h : Within ts inner) (hInfix : inner <:+: all) :
    Within ts all := by
  cases h with
  | here h => exact .here (h.trans hInfix)
  | inside hGroup h => exact .inside (hInfix.subset hGroup) h

theorem Within.eq_nil {ts : Tokens} (h : Within ts []) : ts = [] := by
  cases h with
  | here h => exact List.infix_nil.mp h
  | inside hGroup => cases hGroup

/-- Code is read from the left to the right; what stands last in front decides how the rest starts.
-/
theorem readingsIn_append (front : Front) (ts rest : Tokens) :
    readingsIn front (ts ++ rest) =
      readingsIn front ts ++ readingsIn (ts.foldl Front.next front) rest := by
  induction ts generalizing front with
  | nil => simp [readingsIn]
  | cons t ts ih => simp [readingsIn, ih]

/-- What is done inside a group is done in the code around it. -/
theorem readings_subset {front : Front} {d : Delimiter} {inner all : Tokens}
    (hGroup : .group d inner ∈ all) : inner.readings ⊆ readingsIn front all := by
  induction all generalizing front with
  | nil => cases hGroup
  | cons t rest ih =>
      intro r hr
      rw [readingsIn]
      rcases List.mem_cons.mp hGroup with rfl | hGroup
      · refine List.mem_append_left _ ?_
        rw [Token.readings]
        exact List.mem_append_right _ hr
      · exact List.mem_append_right _ (ih hGroup hr)

/-- What is done inside a group is done in the code in which the group stands. -/
theorem Within.readings_subset {ts all inner : Tokens} {d : Delimiter} (h : Within ts all)
    (hGroup : .group d inner ∈ ts) : inner.readings ⊆ all.readings := by
  induction h with
  | here h => exact Tokens.readings_subset (h.subset hGroup)
  | inside hOuter _ ih => exact List.Subset.trans ih (Tokens.readings_subset hOuter)

section Tables

variable {table : String}

/-- A `RelationQuery` or a `Junction` with this table stands in some code, at any depth. -/
def WritesTable (code : Tokens) (table : String) : Prop :=
  ∃ name text joint fields, (name = "RelationQuery" ∨ name = "Junction") ∧
    StringLiteral.value ⟨text⟩ = table ∧ Within [.ident name, .group .brace
      (.ident "table" :: .punct ':' joint :: .literal text :: fields)] code

/-- Whatever stands in front of a struct with a table, the struct is read. -/
theorem names_of_writesTable {code : Tokens} (h : code.WritesTable table) :
    .names table ∈ code.readings := by
  obtain ⟨name, text, joint, fields, hName, rfl, hWithin⟩ := h
  induction hWithin with
  | here h =>
      obtain ⟨before, after, rfl⟩ := h
      rw [readings, List.append_assoc, readingsIn_append]
      refine List.mem_append_right _ ?_
      generalize before.foldl Front.next .other = front
      cases front <;>
        simp [readingsIn, Token.readings, Front.next, Front.reads, Front.called?, hName]
  | inside hGroup _ ih => exact readings_subset hGroup ih

/-- A group is called by the name right in front of it. -/
theorem ends_of_called? {before : Tokens} {receiver : Option String} {f : String}
    (h : (before.foldl Front.next .other).called? = some (receiver, f)) :
    ∃ front, before = front ++ [.ident f] := by
  rcases List.eq_nil_or_concat before with rfl | ⟨front, t, rfl⟩
  · cases h
  · rw [List.concat_eq_append, List.foldl_append, List.foldl_cons, List.foldl_nil] at h
    exact ⟨front, by rw [Front.called?_next h, List.concat_eq_append]⟩

/-- A table that is written in a group is written in the code around it. -/
theorem WritesTable.inside {d : Delimiter} {inner all : Tokens} (h : inner.WritesTable table)
    (hGroup : .group d inner ∈ all) : all.WritesTable table := by
  obtain ⟨name, text, joint, fields, hName, hText, hWithin⟩ := h
  exact ⟨name, text, joint, fields, hName, hText, .inside hGroup hWithin⟩

/-- What is read off code is written there, or in front of it. -/
theorem writesTable_of_names : (before code : Tokens) →
    .names table ∈ readingsIn (before.foldl Front.next .other) code →
      WritesTable (before ++ code) table
  | _, [], h => nomatch h
  | before, t :: rest, h => by
      rw [readingsIn, List.mem_append] at h
      rcases h with hFirst | hRest
      · cases t with
        | group d inner =>
            have hGroup : .group d inner ∈ before ++ .group d inner :: rest := by simp
            rw [Token.readings, List.mem_append] at hFirst
            rcases hFirst with hCalled | hInner
            · obtain ⟨rfl, hNamed, _, name, hFront, hName⟩ := Front.struct_of_names hCalled
              obtain ⟨text, joint, fields, hText, rfl⟩ := Front.struct_of_named hNamed
              obtain ⟨front, rfl⟩ := ends_of_called? hFront
              exact ⟨name, text, joint, fields, hName, hText, .here ⟨front, rest, by simp⟩⟩
            · exact (writesTable_of_names [] inner hInner).inside hGroup
        | _ => cases hFirst
      · rw [List.append_cons]
        exact writesTable_of_names (before ++ [t]) rest (by simpa using hRest)
termination_by _ code => sizeOf code

/-- The tables that are read off code are those that are written in it. -/
theorem names_mem_readings_iff {code : Tokens} :
    .names table ∈ code.readings ↔ code.WritesTable table :=
  ⟨fun h => writesTable_of_names [] code h, names_of_writesTable⟩

end Tables

/-- What some code does by itself: none of the tokens that were copied into it do the same. -/
def ownReadings (copied : List Tokens) (code : Tokens) : List Reading :=
  code.readings.filter fun r => ∀ ts ∈ copied, r ∉ ts.readings

theorem mem_ownReadings_iff {copied : List Tokens} {code : Tokens} {r : Reading} :
    r ∈ code.ownReadings copied ↔ r ∈ code.readings ∧ ∀ ts ∈ copied, r ∉ ts.readings := by
  simp [ownReadings]

section Kept

variable {P : Reading → Bool} {front : Front} {ts rest : Tokens}

/-- The readings of some kind in code with something in front. -/
def kept (P : Reading → Bool) (front : Front) (ts : Tokens) : List Reading :=
  (readingsIn front ts).filter P

/-- Copied tokens do nothing that code does by itself. -/
theorem kept_of_copied {copied : List Tokens} (h : ts ∈ copied) :
    kept (fun r => ∀ other ∈ copied, r ∉ other.readings) .other ts = [] := by
  refine List.filter_eq_nil_iff.mpr fun r hr hOwn => ?_
  exact (of_decide_eq_true hOwn) ts h hr

theorem readings_eq_kept : ts.readings = kept (fun _ => true) .other ts :=
  (List.filter_eq_self.mpr fun _ _ => rfl).symm

@[simp]
theorem kept_nil : kept P front [] = [] := rfl

@[simp]
theorem kept_ident (s : String) :
    kept P front (.ident s :: rest) = kept P (front.next (.ident s)) rest := by
  simp [kept, readingsIn, Token.readings]

@[simp]
theorem kept_literal (s : String) : kept P front (.literal s :: rest) = kept P .other rest := by
  cases front <;> simp [kept, readingsIn, Token.readings, Front.next]

@[simp]
theorem kept_group (d : Delimiter) (inner : Tokens) :
    kept P front (.group d inner :: rest) =
      (front.reads d inner).filter P ++ (kept P .other inner ++ kept P .other rest) := by
  cases front <;> simp [kept, readingsIn, Token.readings, Front.next]

/-- Only a dot matters behind a name. -/
theorem kept_punct {c : Char} (hDot : c ≠ '.') (joint : Bool) :
    kept P front (.punct c joint :: rest) = kept P .other rest := by
  cases front <;> simp [kept, readingsIn, Token.readings, Front.next, hDot]

@[simp]
theorem kept_dot (joint : Bool) :
    kept P front (.punct '.' joint :: rest) = kept P (.dot front.receiver?) rest := by
  simp [kept, readingsIn, Token.readings, Front.next]

/-- Readings of one kind are collected from the left to the right. -/
theorem kept_append :
    kept P front (ts ++ rest) = kept P front ts ++ kept P (ts.foldl Front.next front) rest := by
  simp [kept, readingsIn_append]

/-- Behind a sign that is no dot the reading starts anew. -/
theorem kept_append_punct {c : Char} (hDot : c ≠ '.') (joint : Bool) :
    kept P front (ts ++ .punct c joint :: rest) = kept P front ts ++ kept P .other rest := by
  rw [kept_append, kept_punct hDot]

/-- A group is read by the name that the code in front of it ends in. -/
theorem kept_append_group (d : Delimiter) (inner : Tokens) :
    kept P front (ts ++ .group d inner :: rest) =
      kept P front ts ++ (((ts.foldl Front.next front).reads d inner).filter P ++
        (kept P .other inner ++ kept P .other rest)) := by
  rw [kept_append, kept_group]

end Kept

end Tokens

end TypedQuery
