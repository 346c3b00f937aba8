import Mathlib.Data.List.Nodup
import TypedQuery.Program.Scope
import TypedQuery.Proofs.Program.Numbering

/-! The names of the temporaries that scopes make. All scopes that come from one count together, so
that no two temporaries have the same number. Their names are different too, unless a stem ends in
digits that are read as part of a later number. -/

namespace TypedQuery

namespace Var

/-- A number that ends in the digits of another one is not smaller. -/
theorem le_of_toDigits_eq_append {i j : Nat} {digits : List Char}
    (h : Nat.toDigits 10 i = digits ++ Nat.toDigits 10 j) : j ≤ i := by
  calc
    j = Nat.ofDigitChars 10 (Nat.toDigits 10 j) 0 := Nat.ofDigitChars_ten_toDigits.symm
    _ ≤ 10 ^ (Nat.toDigits 10 j).length * Nat.ofDigitChars 10 digits 0 +
        Nat.ofDigitChars 10 (Nat.toDigits 10 j) 0 := Nat.le_add_left _ _
    _ = Nat.ofDigitChars 10 (digits ++ Nat.toDigits 10 j) 0 := by
      rw [Nat.ofDigitChars_append]
      exact Nat.ofDigitChars_eq_ofDigitChars_zero.symm
    _ = i := by rw [← h, Nat.ofDigitChars_ten_toDigits]

/-- Two temporaries have one name exactly if the earlier stem goes on where the later one ends, with
the digits that the later number has in front of the earlier one. -/
theorem name_eq_name_iff {stem other : String} {i j : Nat} (h : i < j) :
    (temporary stem i).name = (temporary other j).name ↔
      ∃ digits, stem = other ++ digits ∧ toString j = digits ++ toString i := by
  constructor
  · intro hSame
    have hLists : stem.toList ++ Nat.toDigits 10 i = other.toList ++ Nat.toDigits 10 j := by
      simpa [name] using congrArg String.toList hSame
    rcases List.append_eq_append_iff.mp hLists with ⟨digits, -, hIndex⟩ | ⟨digits, hStem, hIndex⟩
    · have hLe := le_of_toDigits_eq_append hIndex
      omega
    · refine ⟨String.ofList digits, String.toList_inj.mp ?_, String.toList_inj.mp ?_⟩
      · simpa using hStem
      · simpa using hIndex
  · rintro ⟨digits, rfl, hIndex⟩
    simp only [name, hIndex, String.append_assoc]

@[simp]
theorem length_numbered (n : Nat) (stems : List String) :
    (numbered n stems).length = stems.length := by
  induction stems generalizing n with
  | nil => rfl
  | cons stem rest ih => rw [numbered, List.length_cons, List.length_cons, ih]

theorem getElem?_numbered (n : Nat) (stems : List String) (i : Nat) :
    (numbered n stems)[i]? = stems[i]?.map (temporary · (n + i)) := by
  induction stems generalizing n i with
  | nil => rfl
  | cons stem rest ih =>
      cases i with
      | zero => rfl
      | succ i => simpa [numbered, Nat.add_comm, Nat.add_left_comm] using ih (n + 1) i

/-- The number of a later temporary starts with digits that the stem of an earlier one ends in, and
goes on with the number of the earlier one; without these digits the stems are the same. -/
def Clash (stems : List String) : Prop :=
  ∃ (i j : Nat) (stem digits : String), i < j ∧
    stems[i]? = some (stem ++ digits) ∧ stems[j]? = some stem ∧ toString j = digits ++ toString i

/-- The names of numbered temporaries are different exactly if no two stems clash. -/
theorem nodup_names_iff (stems : List String) :
    ((numbered 0 stems).map name).Nodup ↔ ¬ Clash stems := by
  rw [List.nodup_iff_getElem?_ne_getElem?]
  simp only [List.getElem?_map, getElem?_numbered, List.length_map, length_numbered, Nat.zero_add]
  constructor
  · rintro hDistinct ⟨i, j, stem, digits, hLt, hEarlier, hLater, hNumber⟩
    obtain ⟨hLength, -⟩ := List.getElem?_eq_some_iff.mp hLater
    apply hDistinct i j hLt hLength
    rw [hEarlier, hLater]
    exact congrArg some ((name_eq_name_iff hLt).mpr ⟨digits, rfl, hNumber⟩)
  · intro hNone i j hLt hLength hSame
    have hLater : stems[j]? = some stems[j] := List.getElem?_eq_getElem hLength
    have hEarlier : stems[i]? = some stems[i] := List.getElem?_eq_getElem (Nat.lt_trans hLt hLength)
    rw [hEarlier, hLater] at hSame
    obtain ⟨digits, hStem, hNumber⟩ := (name_eq_name_iff hLt).mp (Option.some.inj hSame)
    exact hNone ⟨i, j, _, digits, hLt, hStem ▸ hEarlier, hLater, hNumber⟩

def EndsInDigit (stem : String) : Prop := stem.toList.getLast?.any Char.isDigit = true

instance : DecidablePred EndsInDigit := fun _ => inferInstanceAs (Decidable (_ = true))

/-- The stem of an earlier temporary that clashes with a later one ends in a digit. -/
theorem Clash.exists_endsInDigit {stems : List String} (h : Clash stems) :
    ∃ stem ∈ stems, EndsInDigit stem := by
  obtain ⟨i, j, stem, digits, hLt, hEarlier, hLater, hNumber⟩ := h
  refine ⟨_, List.mem_of_getElem? hEarlier, ?_⟩
  have hDigits : Nat.toDigits 10 j = digits.toList ++ Nat.toDigits 10 i := by
    simpa using congrArg String.toList hNumber
  have hSome : digits.toList ≠ [] := by
    intro hNil
    rw [hNil, List.nil_append] at hDigits
    have hLe := @le_of_toDigits_eq_append i j [] hDigits.symm
    omega
  have hLast : digits.toList.getLast hSome ∈ Nat.toDigits 10 j := by
    rw [hDigits]
    exact List.mem_append_left _ (List.getLast_mem hSome)
  rw [EndsInDigit, String.toList_append, List.getLast?_append_of_ne_nil _ hSome,
    List.getLast?_eq_some_getLast hSome]
  exact Nat.isDigit_of_mem_toDigits (by decide) (by decide) hLast

end Var

namespace Scopes

/-- A call on one of the scopes. -/
inductive Operation where
  | temporary (scope : Nat) (stem : String)
  | push (scope : Nat) (ts : Tokens)
  | fork (scope : Nat)
  /-- The end of a scope, which gives its tokens. -/
  | take (scope : Nat)

/-- The stem of the temporary that is asked for. -/
def Operation.stem? : Operation → Option String
  | temporary _ stem => some stem
  | _ => none

/-- The temporary that a call makes, if any, and the scopes after the call. -/
def perform (s : Scopes) : Operation → Option Var × Scopes
  | .temporary _ stem => (s.temporary stem).map some id
  | .push scope ts => (none, s.push scope ts)
  | .fork _ => (none, s.fork.2)
  | .take scope => (none, (s.take? scope).2)

/-- The temporaries that are made by calls one after the other. -/
def made (s : Scopes) : List Operation → List Var
  | [] => []
  | call :: rest => (s.perform call).1.toList ++ (s.perform call).2.made rest

theorem perform_made (s : Scopes) (call : Operation) :
    (s.perform call).1 = call.stem?.map (Var.temporary · s.next) := by
  cases call <;> rfl

/-- Only a temporary changes the number of the next one. -/
theorem next_perform (s : Scopes) (call : Operation) :
    (s.perform call).2.next = s.next + call.stem?.toList.length := by
  cases call <;> rfl

/-- Whatever scopes the calls are made on and whatever is done in between, temporaries are numbered
in the order in which they are made. -/
theorem made_eq_numbered (s : Scopes) (calls : List Operation) :
    s.made calls = Var.numbered s.next (calls.filterMap Operation.stem?) := by
  induction calls generalizing s with
  | nil => rfl
  | cons call rest ih =>
      rw [made, ih, perform_made, next_perform]
      cases h : call.stem? with
      | none => simp [h]
      | some stem => simp [h, Var.numbered]

/-- Temporaries are told apart by their names exactly if no two of their stems clash, and so they
are if no stem ends in a digit. This is so for all scopes that come from one, whatever else is done
with them in between. -/
theorem names_told_apart (names : Names) (calls : List Operation) :
    (start names).made calls = Var.numbered 0 (calls.filterMap Operation.stem?) ∧
    ((((start names).made calls).map Var.name).Nodup ↔
      ¬ Var.Clash (calls.filterMap Operation.stem?)) ∧
    ((∀ stem ∈ calls.filterMap Operation.stem?, ¬ Var.EndsInDigit stem) →
      (((start names).made calls).map Var.name).Nodup) := by
  rw [made_eq_numbered]
  refine ⟨rfl, Var.nodup_names_iff _, fun h => (Var.nodup_names_iff _).mpr fun hClash => ?_⟩
  obtain ⟨stem, hMem, hDigit⟩ := hClash.exists_endsInDigit
  exact h stem hMem hDigit

/-- Temporaries of a scope, and of a block in it that is closed before the last one. -/
theorem nested_names_told_apart :
    let calls : List Operation := [.temporary 0 "cursor", .fork 0, .temporary 1 "cursor",
      .push 1 [.ident "x"], .take 1, .temporary 0 "item"]
    (∀ stem ∈ calls.filterMap Operation.stem?, ¬ Var.EndsInDigit stem) ∧
      (((start ⟨Options.default.runtime, "db"⟩).made calls).map Var.name).Nodup :=
  ⟨by decide, (names_told_apart _ _).2.2 (by decide)⟩

/-- A stem that ends in a digit gives the name of a later temporary of a block inside: both are
`__a10`, once the first one that starts with `a1`, and once the eleventh that starts with `a`. -/
theorem name_repeated_in_block :
    let calls : List Operation := .temporary 0 "a1" ::
      (List.replicate 9 (.temporary 0 "b") ++ [.fork 0, .temporary 1 "a"])
    (∀ stem ∈ calls.filterMap Operation.stem?, Text.isIdentifier stem = true) ∧
      ¬ (((start ⟨Options.default.runtime, "db"⟩).made calls).map Var.name).Nodup := by
  refine ⟨by decide, ?_⟩
  rw [made_eq_numbered, start, Var.nodup_names_iff, not_not]
  exact ⟨0, 10, "a", "1", by decide, rfl, rfl, by decide⟩

end Scopes

end TypedQuery
