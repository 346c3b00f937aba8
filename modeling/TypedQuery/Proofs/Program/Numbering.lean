import TypedQuery.Proofs.Program.Visibility
import TypedQuery.Proofs.Text.Identifier

/-! The temporaries of emitted code. All of them are counted together, and a piece of code binds
each of those that were made for it once, in an order of its own. -/

namespace TypedQuery

open Stmt

namespace Var

/-- Characters of identifiers without digits, so that the digits at the end of a temporary are its
number. -/
def IsStem (stem : String) : Prop :=
  ∀ c ∈ stem.toList, Text.isIdentifierContinue c = true ∧ c.isDigit = false

instance : DecidablePred IsStem := fun stem =>
  decidable_of_iff (stem.toList.all fun c => Text.isIdentifierContinue c && !c.isDigit)
    (by simp [IsStem])

/-- Temporaries are identifiers. -/
theorem isIdentifier_name {stem : String} (h : IsStem stem) (i : Nat) :
    Text.isIdentifier (temporary stem i).name = true := by
  have hDigits (c : Char) (hc : c ∈ (toString i).toList) : Text.isIdentifierContinue c = true := by
    have hDigit : c ∈ Nat.toDigits 10 i := by simpa using hc
    exact Text.isIdentifierContinue_of_isDigit
      (Nat.isDigit_of_mem_toDigits (by decide) (by decide) hDigit)
  refine Text.isIdentifier_append (Text.isIdentifier_append (by decide) ?_) hDigits
  exact fun c hc => (h c hc).1

/-- The digits in the name of a temporary are those of its number. -/
theorem filter_isDigit_name {stem : String} (h : IsStem stem) (i : Nat) :
    (temporary stem i).name.toList.filter Char.isDigit = Nat.toDigits 10 i := by
  have hStem : stem.toList.filter Char.isDigit = [] :=
    List.filter_eq_nil_iff.mpr fun c hc => by simp [(h c hc).2]
  have hIndex : (Nat.toDigits 10 i).filter Char.isDigit = Nat.toDigits 10 i :=
    List.filter_eq_self.mpr fun c hc => Nat.isDigit_of_mem_toDigits (by decide) (by decide) hc
  simp [name, hStem, hIndex]

/-- A name tells its number, as no stem has digits. -/
theorem index_eq_of_name_eq {stem other : String} (hStem : IsStem stem) (hOther : IsStem other)
    {i j : Nat} (h : (temporary stem i).name = (temporary other j).name) : i = j := by
  have hDigits := filter_isDigit_name hStem i
  rw [h, filter_isDigit_name hOther j] at hDigits
  have hValue := congrArg (fun digits => Nat.ofDigitChars 10 digits 0) hDigits
  simpa using hValue.symm

/-- The temporaries with these stems, numbered from `n` on. -/
def numbered (n : Nat) : List String → List Var
  | [] => []
  | stem :: rest => temporary stem n :: numbered (n + 1) rest

/-- Stems are numbered one after the other. -/
theorem numbered_append (n : Nat) (stems others : List String) :
    numbered n (stems ++ others) = numbered n stems ++ numbered (n + stems.length) others := by
  induction stems generalizing n with
  | nil => rfl
  | cons stem rest ih => simp [numbered, ih, Nat.add_comm, Nat.add_left_comm]

theorem mem_numbered {n : Nat} {stems : List String} {v : Var} (h : v ∈ numbered n stems) :
    ∃ stem ∈ stems, ∃ i, n ≤ i ∧ v = temporary stem i := by
  induction stems generalizing n with
  | nil => cases h
  | cons stem rest ih =>
      rcases List.mem_cons.mp h with rfl | h
      · exact ⟨stem, List.mem_cons_self, n, Nat.le_refl n, rfl⟩
      · obtain ⟨other, hOther, i, hi, rfl⟩ := ih h
        exact ⟨other, List.mem_cons_of_mem _ hOther, i, Nat.le_of_succ_le hi, rfl⟩

/-- Temporaries with different numbers have different names. -/
theorem nodup_names_numbered (n : Nat) {stems : List String} (h : ∀ stem ∈ stems, IsStem stem) :
    ((numbered n stems).map name).Nodup := by
  induction stems generalizing n with
  | nil => exact List.nodup_nil
  | cons stem rest ih =>
      rw [List.forall_mem_cons] at h
      refine List.nodup_cons.mpr ⟨fun hMem => ?_, ih (n + 1) h.2⟩
      obtain ⟨v, hv, hSame⟩ := List.mem_map.mp hMem
      obtain ⟨other, hOther, i, hi, rfl⟩ := mem_numbered hv
      have hIndex := index_eq_of_name_eq (h.2 other hOther) h.1 hSame
      omega

end Var

/-- Variables are the temporaries that were made between two numbers, in any order. -/
def Numbers (n m : Nat) (vs : List Var) : Prop :=
  ∃ stems : List String, (∀ stem ∈ stems, Var.IsStem stem) ∧ m = n + stems.length ∧
    vs.Perm (Var.numbered n stems)

namespace Numbers

variable {n m k : Nat} {vs ws : List Var}

/-- Temporaries that are numbered one after the other are numbered from the first to the last. -/
theorem numbered (n : Nat) (stems : List String) (h : ∀ stem ∈ stems, Var.IsStem stem) :
    Numbers n (n + stems.length) (Var.numbered n stems) :=
  ⟨stems, h, rfl, List.Perm.refl _⟩

/-- Pieces of code that are numbered one behind the other are numbered together. -/
theorem append (h : Numbers n m vs) (hMore : Numbers m k ws) : Numbers n k (vs ++ ws) := by
  obtain ⟨stems, hStems, rfl, hPerm⟩ := h
  obtain ⟨others, hOthers, rfl, hOtherPerm⟩ := hMore
  refine ⟨stems ++ others, List.forall_mem_append.mpr ⟨hStems, hOthers⟩, by simp; omega, ?_⟩
  rw [Var.numbered_append]
  exact hPerm.append hOtherPerm

/-- The order in which variables are bound does not matter. -/
theorem perm (h : Numbers n m vs) (hPerm : ws.Perm vs) : Numbers n m ws := by
  obtain ⟨stems, hStems, hCount, hOrder⟩ := h
  exact ⟨stems, hStems, hCount, hPerm.trans hOrder⟩

end Numbers

namespace EntityRow

/-- Each column field takes one number. -/
theorem numbers_prepareColumns (cursor : Var) (fields : List ColumnField) (n : Nat) :
    Numbers n ((prepareColumns cursor fields).run n).2
      (lets ((prepareColumns cursor fields).run n).1.2) := by
  induction fields generalizing n with
  | nil => exact Numbers.numbered n [] (by simp)
  | cons f rest ih =>
      rw [prepareColumns_cons]
      simpa [bound?, Stmt.body, Var.numbered] using
        (Numbers.numbered n ["index"] (by decide)).append (ih (n + 1))

/-- A relation field counts its own temporaries before those of the preparation inside it. -/
theorem numbers_relationCode (cursor : Var) (r : RelationField) (entity : EntityRow)
    (bindings : Bindings) {ready : List Stmt} {n m : Nat} (h : Numbers (n + 7) m (lets ready)) :
    Numbers n m (lets (relationCode cursor r entity bindings ready n)) := by
  have hOwn := Numbers.numbered n
    ["key_index", "keys", "groups", "related", "key_index", "key", "item"] (by decide)
  refine (hOwn.append h).perm ?_
  have hInside : (lets ready ++ [Var.temporary "key" (n + 5), .temporary "item" (n + 6)]).Perm
      (.temporary "key" (n + 5) :: .temporary "item" (n + 6) :: lets ready) :=
    List.perm_append_comm
  simpa [relationCode, relatedCode, groupingCode, convert, bound?, Stmt.body, Var.numbered]
    using hInside

mutual

theorem numbers_prepare (cursor : Var) : (e : EntityRow) → (n : Nat) →
    Numbers n ((e.prepare cursor).run n).2 (lets ((e.prepare cursor).run n).1.2)
  | .mk path fields relations, n => by
      rw [prepare_run]
      simpa using (numbers_prepareColumns cursor fields n).append
        (numbers_prepareRelations cursor relations _)

/-- Each collector takes its own numbers and those of its related struct. -/
theorem numbers_prepareRelations (cursor : Var) :
    (relations : List (RelationField × EntityRow)) → (n : Nat) →
    Numbers n ((prepareRelations cursor relations).run n).2
      (lets ((prepareRelations cursor relations).run n).1.2)
  | [], n => by
      rw [prepareRelations_nil]
      exact Numbers.numbered n [] (by simp)
  | (r, entity) :: rest, n => by
      rw [prepareRelations_cons]
      have hInner := numbers_prepare (.temporary "related" (n + 3)) entity (n + 7)
      simpa using (numbers_relationCode cursor r entity _ hInner).append
        (numbers_prepareRelations cursor rest _)

end

end EntityRow

namespace Row

theorem numbers_prepare (row : Row) (cursor : Var) (n : Nat) :
    Numbers n ((row.prepare cursor).run n).2 (lets ((row.prepare cursor).run n).1.2) := by
  cases row with
  | scalar type column =>
      rw [prepare_scalar_run]
      cases column <;>
        simpa [bound?, Stmt.body, Var.numbered] using Numbers.numbered n ["index"] (by decide)
  | entity e => exact EntityRow.numbers_prepare cursor e n

/-- A conversion binds its result and nothing else. -/
theorem lets_convert? {row : Row} {b : Bindings} (h : row.Fits b) (out cursor : Var) :
    lets (row.convert? b out cursor).toList = [out] := by
  obtain ⟨s, hCode, hBound, hBody, -⟩ := convert?_spec h out cursor
  simp [hCode, hBound, hBody]

end Row

namespace Shape

/-- Emitted code binds its result, and each temporary that was made for it. -/
def Numbered (out : Var) (n : Nat) (emitted : List Stmt × Nat) : Prop :=
  ∃ own, Numbers n emitted.2 own ∧ (lets emitted.1).Perm (out :: own)

theorem numbered_emitFirst (row : Row) (result : FirstRow) (out cursor : Var) (n : Nat) :
    Numbered out n ((emitFirst row result out cursor).run n) := by
  rw [emitFirst_run]
  refine ⟨_, (row.numbers_prepare cursor n).append (Numbers.numbered _ ["item"] (by decide)), ?_⟩
  simp [bound?, Stmt.body, Var.numbered, Row.lets_convert? (row.prepare_fits cursor n)]

theorem numbered_emitList (row : Row) (out cursor : Var) (n : Nat) :
    Numbered out n ((emitList row out cursor).run n) := by
  rw [emitList_run]
  refine ⟨_, (row.numbers_prepare cursor n).append (Numbers.numbered _ ["item"] (by decide)), ?_⟩
  simp [bound?, Stmt.body, Var.numbered, Row.lets_convert? (row.prepare_fits cursor n)]

/-- A map counts its key and its value behind both preparations. -/
theorem numbered_emitMap (kind : MapKind) (keyRow valueRow : Row) (isMulti : Bool)
    (out cursor : Var) (n : Nat) :
    Numbered out n ((emitMap kind keyRow valueRow isMulti out cursor).run n) := by
  rw [emitMap_run]
  have hRows := (keyRow.numbers_prepare cursor n).append (valueRow.numbers_prepare cursor _)
  refine ⟨_, hRows.append (Numbers.numbered _ ["key", "value"] (by decide)), ?_⟩
  have hKey := Row.lets_convert? (keyRow.prepare_fits cursor n)
  have hValue := Row.lets_convert? (valueRow.prepare_fits cursor ((keyRow.prepare cursor).run n).2)
  have hSkip (check : Option NullCheck) (key : Var) :
      lets (check.toList.map (Stmt.skipNulls out key cursor ·)) = [] := by
    cases check <;> rfl
  have hOrder (ready own : List Var) : (ready ++ out :: own).Perm (out :: (ready ++ own)) :=
    List.perm_middle
  cases isMulti with
  | false => simpa [bound?, Stmt.body, Var.numbered, hKey, hValue] using hOrder (_ ++ _) _
  | true => simpa [bound?, Stmt.body, Var.numbered, hKey, hValue, hSkip] using hOrder (_ ++ _) _

/-- The temporaries of emitted code are those that were made for it, and `out`. -/
theorem numbered_emit (shape : Shape) (out cursor : Var) (n : Nat) :
    Numbered out n ((shape.emit out cursor).run n) := by
  cases shape with
  | single row => exact numbered_emitFirst row _ out cursor n
  | optional row flattened => exact numbered_emitFirst row _ out cursor n
  | list row => exact numbered_emitList row out cursor n
  | stream row =>
      rw [emit_stream_run]
      obtain ⟨own, hOwn, hPerm⟩ := numbered_emitList row (.temporary "items" n) cursor (n + 1)
      refine ⟨_, (Numbers.numbered n ["items"] (by decide)).append hOwn, ?_⟩
      have hOrder := (hPerm.append_right [out]).trans List.perm_append_comm
      simpa [bound?, Stmt.body, Var.numbered] using hOrder
  | map kind key value => exact numbered_emitMap kind key value false out cursor n
  | multimap kind key value => exact numbered_emitMap kind key value true out cursor n
  | rows => exact ⟨_, Numbers.numbered n [] (by simp), List.Perm.refl _⟩
  | rowCount =>
      refine ⟨_, Numbers.numbered n ["count"] (by decide), ?_⟩
      rw [emit_rowCount_run]
      exact List.Perm.swap out (.temporary "count" n) []

end Shape

end TypedQuery
