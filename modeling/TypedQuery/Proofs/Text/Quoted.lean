import TypedQuery.Text.Quoted
import TypedQuery.Token.Literal

namespace TypedQuery

namespace Text

open Lexer StringLiteral

theorem hexValue?_digitChar {d : Nat} (h : d < 16) : hexValue? d.digitChar = some d := by
  revert d
  decide

theorem digitChar_ne_brace {d : Nat} (h : d < 16) : d.digitChar ≠ '}' := by
  revert d
  decide

theorem unicodeEscape_digitChar {d : Nat} (h : d < 16) (value : Nat) (rest : List Char) :
    unicodeEscape (d.digitChar :: rest) value = unicodeEscape rest (value * 16 + d) := by
  rw [unicodeEscape, hexValue?_digitChar h]
  exact digitChar_ne_brace h

/-- The digits of a number are read as this number. -/
theorem unicodeEscape_hexDigits (n : Nat) (rest : List Char) :
    unicodeEscape (hexDigits n ++ rest) 0 = unicodeEscape rest n := by
  unfold hexDigits
  induction n using Nat.strongRecOn generalizing rest with
  | ind n ih =>
      by_cases hSmall : n < 16
      · rw [Nat.toDigits_of_lt_base hSmall, List.singleton_append, unicodeEscape_digitChar hSmall,
          Nat.zero_mul, Nat.zero_add]
      · have hLarge : 16 ≤ n := Nat.le_of_not_lt hSmall
        have hDigit : n % 16 < 16 := Nat.mod_lt n (by decide)
        rw [Nat.toDigits_of_base_le (by decide) hLarge, List.append_assoc,
          ih (n / 16) (Nat.div_lt_self (by omega) (by decide)), List.singleton_append,
          unicodeEscape_digitChar hDigit, Nat.div_add_mod']

/-- The characters that are escaped by a letter, or by a sign that stands for itself. -/
def lettered : List Char := ['\x00', '\t', '\r', '\n', '"', '\\']

theorem escapeChar_of_plain {c : Char} (h : c ∉ lettered) (following : Option Char) :
    escapeChar c following =
      if isHidden c then ['\\', 'u', '{'] ++ hexDigits c.toNat ++ ['}'] else [c] := by
  simp only [lettered, List.mem_cons, List.not_mem_nil, or_false, not_or] at h
  simp only [escapeChar, h, if_false]

/-- An escaped character is read as itself. -/
theorem cooked_escapeChar (c : Char) (following : Option Char) (fuel : Nat) (rest : List Char) :
    cooked (fuel + 1) (escapeChar c following ++ rest) = c :: cooked fuel rest := by
  by_cases hLettered : c ∈ lettered
  · simp only [lettered, List.mem_cons, List.not_mem_nil, or_false] at hLettered
    obtain rfl | rfl | rfl | rfl | rfl | rfl := hLettered
    · rw [escapeChar, if_pos rfl]
      split <;> rfl
    all_goals rfl
  · rw [escapeChar_of_plain hLettered]
    cases isHidden c with
    | true =>
        have hDigits : unicodeEscape (hexDigits c.toNat ++ '}' :: rest) 0 = (c.toNat, rest) := by
          rw [unicodeEscape_hexDigits]
          rfl
        simp [cooked, escaped, hDigits]
    | false =>
        simp only [lettered, List.mem_cons, List.not_mem_nil, or_false, not_or] at hLettered
        simp [cooked, hLettered]

theorem escapeChar_ne_nil (c : Char) (following : Option Char) : escapeChar c following ≠ [] := by
  intro hNil
  have hRead := cooked_escapeChar c following 0 []
  rw [hNil] at hRead
  cases hRead

theorem cooked_escape (cs : List Char) {fuel : Nat} (h : (escape cs).length ≤ fuel) :
    cooked fuel (escape cs ++ ['"']) = cs := by
  induction cs generalizing fuel with
  | nil => cases fuel <;> rfl
  | cons c cs ih =>
      have hSome := List.length_pos_iff.mpr (escapeChar_ne_nil c cs.head?)
      rw [escape, List.length_append] at h
      obtain ⟨fuel, rfl⟩ : ∃ n, fuel = n + 1 := ⟨fuel - 1, by omega⟩
      rw [escape, List.append_assoc, cooked_escapeChar, ih (by omega)]

end Text

/-- The literal that is written for a text denotes it. -/
theorem StringLiteral.value_quote (s : String) : StringLiteral.value ⟨Text.quote s⟩ = s := by
  have hText : (Text.quote s).toList = '"' :: (Text.escape s.toList ++ ['"']) := by
    simp [Text.quote]
  rw [value, hText]
  change String.ofList (cooked _ (Text.escape s.toList ++ ['"'])) = s
  rw [Text.cooked_escape s.toList (by simp), String.ofList_toList]

end TypedQuery
