import TypedQuery.Declaration.Arguments
import TypedQuery.Proofs.Source.Reading

/-! Parsers and the phrases that they read. A parser for a phrase succeeds exactly if the tokens
ahead start with one, and passes over this phrase alone; a parser for all tokens does so to their
end. -/

namespace TypedQuery

/-- The literal is spelled as a string. -/
def StringLiteral.IsString (s : StringLiteral) : Prop := ofText? s.text = some s

/-- A literal is a string by its text, which stays as it is written. -/
theorem StringLiteral.ofText?_eq_some_iff {text : String} {s : StringLiteral} :
    ofText? text = some s ↔ s.IsString ∧ text = s.text := by
  have hText (h : ofText? text = some s) : text = s.text := by
    unfold ofText? at h
    split at h <;> cases h <;> rfl
  constructor
  · intro h
    obtain rfl := hText h
    exact ⟨h, rfl⟩
  · rintro ⟨h, rfl⟩
    exact h

namespace Parser

variable {α β : Type}

/-- The parser reads the phrases that are spelled like this, whatever follows them. -/
def Parses (p : Parser α) (Spells : α → Tokens → Prop) : Prop :=
  ∀ ts stray a t, p.run ⟨ts, stray⟩ = .ok (a, t) ↔
    ∃ front rest, Spells a front ∧ ts = front ++ rest ∧ t = ⟨rest, stray⟩

/-- The parser reads all tokens, which are spelled like this. -/
def ParsesAll (p : Parser α) (Spells : α → Tokens → Prop) : Prop :=
  ∀ ts stray a t, p.run ⟨ts, stray⟩ = .ok (a, t) ↔ Spells a ts ∧ t = ⟨[], stray⟩

theorem run_rest_bind (f : Tokens → Parser β) (s : Ahead) : (rest >>= f).run s = (f s.rest).run s :=
  rfl

theorem run_fail_ne (w : Wanted) {s : Ahead} {found : α × Ahead} :
    (fail w : Parser α).run s ≠ .ok found := by
  rintro ⟨⟩

/-- Tokens that are passed over. -/
theorem run_advance_pure_iff {a b : α} {count : Nat} {s t : Ahead} :
    (do advance count; return a : Parser α).run s = .ok (b, t) ↔
      b = a ∧ t = ⟨s.rest.drop count, s.stray⟩ := by
  have hRun : (do advance count; return a : Parser α).run s =
      .ok (a, ⟨s.rest.drop count, s.stray || false⟩) := rfl
  rw [hRun, Bool.or_false, Except.ok.injEq, Prod.mk.injEq, eq_comm, @eq_comm _ t]

/-- Both lists of tokens give the same result, or none. -/
def SameResult (p : Parser α) (ts others : Tokens) : Prop :=
  ∀ a, p.parse ts = .ok a ↔ p.parse others = .ok a

section Rules

variable {P : α → Tokens → Prop} {Q : α → β → Tokens → Prop}

/-- A phrase may be described in another way. -/
theorem Parses.congr {Q : α → Tokens → Prop} {p : Parser α} (h : p.Parses P)
    (hSame : ∀ a ts, P a ts ↔ Q a ts) : p.Parses Q := by
  intro ts stray a t
  simp only [h ts stray a t, hSame]

theorem ParsesAll.congr {Q : α → Tokens → Prop} {p : Parser α} (h : p.ParsesAll P)
    (hSame : ∀ a ts, P a ts ↔ Q a ts) : p.ParsesAll Q := by
  intro ts stray a t
  rw [h ts stray a t, hSame]

/-- A parser that reads nothing has the empty phrase. -/
theorem Parses.pure (a : α) : (pure a : Parser α).Parses fun b ts => b = a ∧ ts = [] := by
  intro ts stray b t
  rw [run_pure_ok_iff]
  constructor
  · rintro ⟨rfl, rfl⟩
    exact ⟨[], ts, ⟨rfl, rfl⟩, rfl, rfl⟩
  · rintro ⟨_, rest, ⟨rfl, rfl⟩, rfl, rfl⟩
    exact ⟨rfl, rfl⟩

/-- A parser that fails has no phrase. -/
theorem Parses.throw (e : SourceError) : (throw e : Parser α).Parses fun _ _ => False := by
  intro ts stray a t
  constructor
  · rintro ⟨⟩
  · rintro ⟨_, _, h, -⟩
    exact h.elim

theorem Parses.ite {Q : α → Tokens → Prop} {p q : Parser α} {c : Prop} [Decidable c]
    (h : p.Parses P) (hElse : q.Parses Q) :
    (if c then p else q).Parses fun a ts => if c then P a ts else Q a ts := by
  split
  · exact h
  · exact hElse

/-- One phrase after the other. -/
theorem Parses.bind {p : Parser α} {f : α → Parser β} (hFirst : p.Parses P)
    (h : ∀ a, (f a).Parses (Q a)) :
    (p >>= f).Parses fun b ts => ∃ a front back, P a front ∧ Q a b back ∧ ts = front ++ back := by
  intro ts stray b u
  rw [run_bind_ok_iff]
  constructor
  · rintro ⟨a, t, hStart, hRest⟩
    obtain ⟨front, rest, hFront, rfl, rfl⟩ := (hFirst _ _ _ _).mp hStart
    obtain ⟨back, rest, hBack, rfl, rfl⟩ := (h a _ _ _ _).mp hRest
    exact ⟨front ++ back, rest, ⟨a, front, back, hFront, hBack, rfl⟩,
      (List.append_assoc _ _ _).symm, rfl⟩
  · rintro ⟨_, rest, ⟨a, front, back, hFront, hBack, rfl⟩, rfl, rfl⟩
    exact ⟨a, _, (hFirst _ _ _ _).mpr ⟨front, back ++ rest, hFront, List.append_assoc _ _ _, rfl⟩,
      (h a _ _ _ _).mpr ⟨back, rest, hBack, rfl, rfl⟩⟩

/-- The last phrase goes to the end. -/
theorem Parses.bindAll {p : Parser α} {f : α → Parser β} (hFirst : p.Parses P)
    (h : ∀ a, (f a).ParsesAll (Q a)) :
    (p >>= f).ParsesAll fun b ts =>
      ∃ a front back, P a front ∧ Q a b back ∧ ts = front ++ back := by
  intro ts stray b u
  rw [run_bind_ok_iff]
  constructor
  · rintro ⟨a, t, hStart, hRest⟩
    obtain ⟨front, rest, hFront, rfl, rfl⟩ := (hFirst _ _ _ _).mp hStart
    obtain ⟨hBack, rfl⟩ := (h a _ _ _ _).mp hRest
    exact ⟨⟨a, front, rest, hFront, hBack, rfl⟩, rfl⟩
  · rintro ⟨⟨a, front, back, hFront, hBack, rfl⟩, rfl⟩
    exact ⟨a, _, (hFirst _ _ _ _).mpr ⟨front, back, hFront, rfl, rfl⟩,
      (h a _ _ _ _).mpr ⟨hBack, rfl⟩⟩

/-- A result that is changed. -/
theorem Parses.map {p : Parser α} (h : p.Parses P) (f : α → β) :
    (p >>= fun a => Pure.pure (f a)).Parses fun b ts => ∃ a, P a ts ∧ b = f a := by
  refine (h.bind fun a => .pure (f a)).congr fun b ts => ?_
  constructor
  · rintro ⟨a, front, back, hFront, ⟨rfl, rfl⟩, rfl⟩
    exact ⟨a, by simpa using hFront, rfl⟩
  · rintro ⟨a, hFront, rfl⟩
    exact ⟨a, ts, [], hFront, ⟨rfl, rfl⟩, (List.append_nil _).symm⟩

/-- A result that is checked at the end. -/
theorem ParsesAll.check {p : Parser α} (h : p.ParsesAll P) (f : α → Except SourceError β) :
    (p >>= fun a => liftM (f a)).ParsesAll fun b ts => ∃ a, P a ts ∧ f a = .ok b := by
  intro ts stray b u
  simp only [run_bind_ok_iff, h ts stray, run_lift_ok_iff]
  constructor
  · rintro ⟨a, t, ⟨hAll, rfl⟩, hCheck, rfl⟩
    exact ⟨⟨a, hAll, hCheck⟩, rfl⟩
  · rintro ⟨⟨a, hAll, hCheck⟩, rfl⟩
    exact ⟨a, _, ⟨hAll, rfl⟩, hCheck, rfl⟩

/-- Nothing stays behind a parser that reads all tokens. -/
theorem ParsesAll.parse_iff {p : Parser α} (h : p.ParsesAll P) {ts : Tokens} {a : α} :
    p.parse ts = .ok a ↔ P a ts := by
  unfold parse
  constructor
  · intro hParse
    split at hParse
    · cases hParse
    · rename_i found t hRun
      obtain ⟨hAll, rfl⟩ := (h _ _ _ _).mp hRun
      cases hParse
      exact hAll
  · intro hAll
    rw [(h ts false a _).mpr ⟨hAll, rfl⟩]
    rfl

/-- The check at the end decides. -/
theorem ParsesAll.parse_check {p : Parser α} (h : p.ParsesAll P) (f : α → Except SourceError β)
    {ts : Tokens} {a : α} (hAll : P a ts) : (p >>= fun a => liftM (f a)).parse ts = f a := by
  rw [parse, run_bind, (h ts false a _).mpr ⟨hAll, rfl⟩]
  dsimp only
  rw [run_lift]
  cases f a <;> rfl

/-- All tokens are read in one way. -/
theorem ParsesAll.unique {p : Parser α} (h : p.ParsesAll P) {ts : Tokens} {a b : α}
    (hFirst : P a ts) (hSecond : P b ts) : a = b := by
  rw [← h.parse_iff] at hFirst hSecond
  exact Except.ok.inj (hFirst.symm.trans hSecond)

/-- The inside of a group, if all of it is read. -/
theorem ParsesAll.inside {p : Parser α} (h : p.ParsesAll P) (delimiter : Delimiter) :
    (inside delimiter p).Parses fun a ts => ∃ inner, P a inner ∧ ts = [.group delimiter inner] := by
  intro ts stray a u
  rw [Parser.inside, run_rest_bind]
  dsimp only
  constructor
  · intro hRun
    split at hRun
    · rename_i found inner rest
      split at hRun
      · rename_i hDelimiter
        obtain ⟨⟨b, t⟩, _, hLift, hRun⟩ := run_bind_ok_iff.mp hRun
        obtain ⟨hInner, rfl⟩ := run_lift_ok_iff.mp hLift
        obtain ⟨hAll, rfl⟩ := (h _ _ _ _).mp hInner
        obtain ⟨rfl, rfl⟩ := run_advance_pure_iff.mp hRun
        exact ⟨[_], rest, ⟨inner, hAll, by rw [hDelimiter]⟩, rfl, rfl⟩
      · exact absurd hRun (run_fail_ne _)
    · exact absurd hRun (run_fail_ne _)
  · rintro ⟨_, rest, ⟨inner, hAll, rfl⟩, rfl, rfl⟩
    have hInner : p.run ⟨inner, false⟩ = .ok (a, ⟨[], false⟩) := (h _ _ _ _).mpr ⟨hAll, rfl⟩
    dsimp only [List.singleton_append]
    rw [if_pos rfl, run_bind, run_lift, hInner]
    exact run_advance_pure_iff.mpr ⟨rfl, rfl⟩

end Rules

/-- A name is one word that is no keyword. -/
theorem parses_identifier :
    identifier.Parses fun name ts => isWord name = true ∧ ts = [.ident name] := by
  intro ts stray name t
  rw [identifier, run_rest_bind]
  dsimp only
  constructor
  · intro hRun
    split at hRun
    · rename_i text rest
      split at hRun
      · rename_i hWord
        obtain ⟨rfl, rfl⟩ := run_advance_pure_iff.mp hRun
        exact ⟨[_], rest, ⟨hWord, rfl⟩, rfl, rfl⟩
      · exact absurd hRun (run_fail_ne _)
    · exact absurd hRun (run_fail_ne _)
  · rintro ⟨_, rest, ⟨hWord, rfl⟩, rfl, rfl⟩
    dsimp only [List.singleton_append]
    rw [if_pos hWord]
    exact run_advance_pure_iff.mpr ⟨rfl, rfl⟩

/-- A sign of one character may be part of a longer operator. -/
theorem startWith_single_iff {c : Char} {ts : Tokens} :
    Tokens.startWith [c] ts = true ↔ ∃ joint rest, ts = .punct c joint :: rest := by
  constructor
  · intro h
    unfold Tokens.startWith at h
    split at h
    · rename_i joint rest hChars
      cases hChars
      exact ⟨joint, rest, by rw [of_decide_eq_true h]⟩
    · rename_i hChars
      cases hChars
      simp [Tokens.startWith] at h
    · cases h
  · rintro ⟨joint, rest, rfl⟩
    exact decide_eq_true rfl

/-- Whatever an operator of one character is joint to, it is read alone. -/
theorem parses_operator {spelling : String} {c : Char} (h : spelling.toList = [c]) :
    (operator spelling).Parses fun found ts =>
      found = Token.operator spelling ∧ ∃ joint, ts = [.punct c joint] := by
  have hLength : spelling.length = 1 := by rw [← String.length_toList, h]; rfl
  intro ts stray found t
  rw [operator, run_rest_bind, h, hLength]
  dsimp only
  constructor
  · intro hRun
    split at hRun
    · rename_i hAhead
      obtain ⟨rfl, rfl⟩ := run_advance_pure_iff.mp hRun
      obtain ⟨joint, rest, rfl⟩ := startWith_single_iff.mp hAhead
      exact ⟨[_], rest, ⟨rfl, joint, rfl⟩, rfl, rfl⟩
    · cases hRun
  · rintro ⟨_, rest, ⟨rfl, joint, rfl⟩, rfl, rfl⟩
    rw [List.singleton_append, if_pos (startWith_single_iff.mpr ⟨joint, rest, rfl⟩)]
    exact run_advance_pure_iff.mpr ⟨rfl, rfl⟩

/-- A string is told apart from the literals that have no class. -/
theorem unclassifiedAhead_of_isString {s : StringLiteral} (h : s.IsString) (rest : Tokens) :
    Tokens.unclassifiedAhead (s.token :: rest) = false := by
  unfold StringLiteral.IsString StringLiteral.ofText? at h
  unfold Tokens.unclassifiedAhead StringLiteral.token
  split at h
  · rename_i hText
    simp [hText]
  · rename_i hText
    simp [hText]
  · cases h

/-- Looking ahead reads nothing, but is refused in front of a literal without a class. -/
theorem ahead_run (w : Wanted) (s : Ahead) :
    (ahead w).run s =
      if w.isLiteralClass && Tokens.unclassifiedAhead s.rest then .error .unreported
      else .ok (w.isAhead s.rest, s) := by
  rw [ahead, run_rest_bind, sees]
  split <;> rfl

/-- A string is one token. -/
theorem parses_stringLiteral :
    stringLiteral.Parses fun s ts => s.IsString ∧ ts = [s.token] := by
  intro ts stray found t
  rw [stringLiteral, run_bind, ahead_run]
  constructor
  · intro hRun
    by_cases hClass : (Wanted.stringLiteral.isLiteralClass && Tokens.unclassifiedAhead ts) = true
    · rw [if_pos hClass] at hRun
      cases hRun
    · rw [if_neg hClass] at hRun
      dsimp only at hRun
      rw [run_rest_bind] at hRun
      dsimp only at hRun
      split at hRun
      · rename_i text rest
        split at hRun
        · rename_i s hText
          obtain ⟨rfl, rfl⟩ := run_advance_pure_iff.mp hRun
          obtain ⟨hString, rfl⟩ := StringLiteral.ofText?_eq_some_iff.mp hText
          exact ⟨[_], rest, ⟨hString, rfl⟩, rfl, rfl⟩
        · exact absurd hRun (run_fail_ne _)
      · exact absurd hRun (run_fail_ne _)
  · rintro ⟨_, rest, ⟨hString, rfl⟩, rfl, rfl⟩
    rw [List.singleton_append, unclassifiedAhead_of_isString hString, Bool.and_false,
      if_neg Bool.false_ne_true]
    dsimp only
    rw [run_rest_bind]
    dsimp only [StringLiteral.token]
    rw [StringLiteral.ofText?_eq_some_iff.mpr ⟨hString, rfl⟩]
    exact run_advance_pure_iff.mpr ⟨rfl, rfl⟩

end Parser

end TypedQuery
