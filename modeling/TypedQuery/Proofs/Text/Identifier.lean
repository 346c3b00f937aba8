import TypedQuery.Text.Identifier

namespace TypedQuery.Text

/-- An identifier behind the mark `r#`. -/
def Marked (s : String) : Prop := ∃ plain, isIdentifier plain = true ∧ s = "r#" ++ plain

/-- What can be the name of something: an identifier, perhaps marked. -/
def IsName (s : String) : Prop := isIdentifier s = true ∨ Marked s

/-- An identifier can go on with the characters of identifiers. -/
theorem isIdentifier_append {s t : String} (h : isIdentifier s = true)
    (hMore : ∀ c ∈ t.toList, isIdentifierContinue c = true) : isIdentifier (s ++ t) = true := by
  unfold isIdentifier at h ⊢
  rw [String.toList_append]
  split at h
  · cases h
  · rename_i hChars
    rw [Bool.and_eq_true] at h
    rw [hChars, List.cons_append, Bool.and_eq_true, List.all_append, Bool.and_eq_true]
    exact ⟨h.1, h.2, List.all_eq_true.mpr hMore⟩

/-- The hash of the mark is in no identifier. -/
theorem isIdentifier_eq_false_of_hash {s : String} {c : Char} {rest : List Char}
    (h : s.toList = c :: '#' :: rest) : isIdentifier s = false := by
  have hHash : isIdentifierContinue '#' = false := by decide
  simp [isIdentifier, h, hHash]

theorem isIdentifierContinue_of_isDigit {c : Char} (h : c.isDigit = true) :
    isIdentifierContinue c = true := by
  have hAscii : c.toNat < 128 := by
    simp only [Char.isDigit, Bool.and_eq_true, decide_eq_true_eq, ge_iff_le,
      UInt32.le_iff_toNat_le] at h
    exact Nat.lt_of_le_of_lt h.2 (by decide)
  rw [isIdentifierContinue, if_pos hAscii, Char.isAlphanum, h]
  simp

end TypedQuery.Text
