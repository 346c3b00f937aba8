import Mathlib.Data.List.TakeWhile
import TypedQuery.Proofs.Program.Occurrences
import TypedQuery.Proofs.Text.Identifier
import TypedQuery.Token.Lexer

/-! The names in a text. Every identifier among its tokens is spelled with the characters of an
identifier, perhaps after the mark `r#`. -/

namespace TypedQuery

namespace Lexer

open Text

/-- A scanner accepts the characters in front of those that remain. -/
theorem scanned_append (front rest : List Char) :
    scanned (front ++ rest) rest = String.ofList front := by
  simp [scanned]

/-- What is scanned as the body of a name is an identifier. -/
theorem identifierBody_eq_some {cs rest : List Char} (h : identifierBody cs = some rest) :
    ∃ front, cs = front ++ rest ∧ isIdentifier (String.ofList front) = true := by
  cases cs with
  | nil => cases h
  | cons c tail =>
      rw [identifierBody] at h
      split at h
      · rename_i hStart
        obtain rfl := Option.some.inj h
        refine ⟨c :: tail.takeWhile isIdentifierContinue, ?_, ?_⟩
        · rw [List.cons_append, List.takeWhile_append_dropWhile]
        · simp only [isIdentifier, String.toList_ofList, hStart, Bool.true_and, List.all_eq_true]
          exact fun _ => List.mem_takeWhile_imp
      · cases h

/-- A name is scanned with its mark, or without. -/
theorem name_eq_some {cs rest : List Char} (h : name cs = some rest) :
    ∃ front, cs = front ++ rest ∧ IsName (String.ofList front) := by
  unfold name at h
  split at h
  · rename_i body
    split at h
    · rename_i found hBody
      obtain ⟨front, rfl, hFront⟩ := identifierBody_eq_some hBody
      split at h
      · cases h
      · obtain rfl := Option.some.inj h
        exact ⟨'r' :: '#' :: front, rfl, Or.inr ⟨_, hFront, by simp [String.ext_iff]⟩⟩
    · cases h
  · obtain ⟨front, hFront, hName⟩ := identifierBody_eq_some h
    exact ⟨front, hFront, Or.inl hName⟩

end Lexer

namespace Tokens

theorem identifiers_cons (t : Token) (ts : Tokens) :
    identifiers (t :: ts) = identifiers [t] ++ ts.identifiers :=
  identifiers_append [t] ts

theorem identifiers_ident (name : String) : identifiers [.ident name] = [name] := rfl

/-- The names in a group are those of its tokens. -/
theorem identifiers_group (delimiter : Delimiter) (inner : Tokens) :
    identifiers [.group delimiter inner] = inner.identifiers := by
  simp [identifiers, occurrences, Token.occurrencesIn, Token.occurrences]

/-- All identifiers in some code are names. -/
def Named (ts : Tokens) : Prop := ∀ name ∈ ts.identifiers, Text.IsName name

theorem named_nil : Named [] := fun _ h => nomatch h

/-- Two pieces of code have proper names if both have. -/
theorem named_append {ts rest : Tokens} : (ts ++ rest).Named ↔ ts.Named ∧ rest.Named := by
  simp only [Named, identifiers_append, List.forall_mem_append]

theorem named_cons {t : Token} {ts : Tokens} : Named (t :: ts) ↔ Named [t] ∧ ts.Named := by
  rw [← List.singleton_append, named_append]

/-- Tokens are collected from the last to the first, which changes no name. -/
theorem named_reverse {ts : Tokens} : Named ts.reverse ↔ ts.Named := by
  induction ts with
  | nil => rfl
  | cons t ts ih => rw [List.reverse_cons, named_append, ih, and_comm, ← named_cons]

theorem named_ident {name : String} : Named [.ident name] ↔ Text.IsName name := by
  rw [Named, identifiers_ident, List.forall_mem_singleton]

theorem named_group {delimiter : Delimiter} {inner : Tokens} :
    Named [.group delimiter inner] ↔ inner.Named := by
  rw [Named, identifiers_group, Named]

theorem named_literal (text : String) : Named [.literal text] := fun _ h => nomatch h

theorem named_punct (c : Char) (joint : Bool) : Named [.punct c joint] := fun _ h => nomatch h

end Tokens

namespace Lexer

open Tokens

theorem named_punct? {cs rest : List Char} {t : Token} (h : punct cs = some (t, rest)) :
    Named [t] := by
  unfold punct at h
  split at h
  · split at h
    · split at h
      · cases h
        exact named_punct _ _
      · cases h
    · cases h
      exact named_punct _ _
    · cases h
  · cases h

/-- A single token that is scanned has a proper name, if it has one at all. -/
theorem named_leaf {cs rest : List Char} {t : Token} (h : leaf cs = some (t, rest)) :
    Named [t] := by
  unfold leaf at h
  split at h
  · cases h
    exact named_literal _
  · split at h
    · rename_i hPunct
      cases h
      exact named_punct? hPunct
    · obtain ⟨after, hName, hLeaf⟩ := Option.map_eq_some_iff.mp h
      cases hLeaf
      unfold identifier at hName
      dsimp only at hName
      split at hName
      · cases hName
      · obtain ⟨front, rfl, hFront⟩ := name_eq_some hName
        rw [scanned_append, named_ident]
        exact hFront

/-- A documentation comment becomes an attribute, whose name is proper. -/
theorem named_documentationTokens (inner : Bool) (text : List Char) :
    Named (documentationTokens inner text) := by
  have hDoc : Text.IsName "doc" := Or.inl (by decide)
  have hAttribute : Named [.group .bracket
      [.ident "doc", .punct '=' false, .literal (Text.quote (String.ofList text))]] :=
    named_group.mpr (named_cons.mpr ⟨named_ident.mpr hDoc,
      named_cons.mpr ⟨named_punct _ _, named_literal _⟩⟩)
  cases inner with
  | true =>
      exact named_cons.mpr ⟨named_punct _ _, named_cons.mpr ⟨named_punct _ _, hAttribute⟩⟩
  | false => exact named_cons.mpr ⟨named_punct _ _, hAttribute⟩

/-- Reading goes on with names alone: in the group that is being read, and in those around it. -/
theorem named_readTokens {fuel : Nat} {cs : List Char} {found : List Token}
    {outer : List (Delimiter × List Token)} {ts : Tokens} (hFound : Named found)
    (hOuter : ∀ group ∈ outer, Named group.2) (h : readTokens fuel cs found outer = some ts) :
    ts.Named := by
  induction fuel generalizing cs found outer with
  | zero => cases h
  | succ fuel ih =>
      rw [readTokens] at h
      split at h
      · refine ih (named_append.mpr ⟨?_, hFound⟩) hOuter h
        exact named_reverse.mpr (named_documentationTokens _ _)
      split at h
      · split at h
        · obtain rfl := Option.some.inj h
          exact named_reverse.mpr hFound
        · cases h
      split at h
      · split at h
        · exact ih (named_cons.mpr ⟨named_literal _, hFound⟩) hOuter h
        · exact ih named_nil (List.forall_mem_cons.mpr ⟨hFound, hOuter⟩) h
      · split at h
        · split at h
          · obtain ⟨hBefore, hOuter⟩ := List.forall_mem_cons.mp hOuter
            refine ih (named_cons.mpr ⟨?_, hBefore⟩) hOuter h
            exact named_group.mpr (named_reverse.mpr hFound)
          · cases h
        · cases h
      · split at h
        · rename_i hLeaf
          exact ih (named_cons.mpr ⟨named_leaf hLeaf, hFound⟩) hOuter h
        · cases h

/-- Every identifier in a text is a name. -/
theorem named_tokens {source : String} {ts : Tokens} (h : tokens source = some ts) : ts.Named :=
  named_readTokens named_nil (List.forall_mem_nil _) h

end Lexer

end TypedQuery
