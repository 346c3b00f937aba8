import TypedQuery.Text.UppercaseTable

/-!
Uppercase text. A letter may become several letters, so a text can grow.
-/

namespace TypedQuery.Text

def CaseRun.contains (run : CaseRun) (c : Nat) : Bool :=
  run.first ≤ c && c ≤ run.last && (c - run.first) % run.step == 0

/-- The uppercase form of one character. -/
def uppercaseChar (c : Char) : List Char :=
  if c.toNat < 128 then [c.toUpper]
  else
    match caseExpansions.find? (·.1 = c.toNat) with
    | some (_, letters) => letters.map Char.ofNat
    | none =>
      match caseRuns.find? (·.contains c.toNat) with
      | some run => [Char.ofNat (c.toNat + run.offset).toNat]
      | none => [c]

def uppercase (s : String) : String := String.ofList (s.toList.flatMap uppercaseChar)

end TypedQuery.Text
