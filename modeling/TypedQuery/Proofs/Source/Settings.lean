import Mathlib.Data.List.Nodup
import TypedQuery.Proofs.Source.Phrases

/-! Lists of settings. Settings are read one after the other up to the end, with commas between
them; what counts in the end is what the last ones say. -/

namespace TypedQuery

/-- Items with commas between them, and perhaps one after the last. -/
inductive Separated {α : Type} (Spells : α → Tokens → Prop) : List α → Tokens → Prop where
  | nil : Separated Spells [] []
  | last {a : α} {ts : Tokens} (h : Spells a ts) : Separated Spells [a] ts
  | cons {a : α} {as : List α} {front rest : Tokens} (h : Spells a front) (joint : Bool)
      (hRest : Separated Spells as rest) :
      Separated Spells (a :: as) (front ++ .punct ',' joint :: rest)

theorem separated_nil_iff {α : Type} {Spells : α → Tokens → Prop} (hSome : ∀ a, ¬Spells a [])
    {items : List α} : Separated Spells items [] ↔ items = [] := by
  constructor
  · intro h
    generalize hTokens : ([] : Tokens) = ts at h
    cases h with
    | nil => rfl
    | last h => exact absurd (hTokens ▸ h) (hSome _)
    | cons => simp at hTokens
  · rintro rfl
    exact .nil

/-- A last element that differs from one in the middle stands behind it. -/
theorem exists_of_append_cons_eq {α : Type} {front back rest : List α} {a last : α}
    (h : front ++ a :: rest = back ++ [last]) (hLast : last ≠ a) :
    ∃ middle, rest = middle ++ [last] ∧ back = front ++ a :: middle := by
  rcases List.eq_nil_or_concat rest with rfl | ⟨middle, x, rfl⟩
  · exact absurd (List.append_inj_right' h rfl) (by simpa using hLast.symm)
  · have hSplit : (front ++ a :: middle) ++ [x] = back ++ [last] := by simpa using h
    obtain ⟨rfl, hSame⟩ := List.append_inj' hSplit rfl
    cases hSame
    exact ⟨middle, by simp, rfl⟩

/-- A comma behind the last item changes nothing. -/
theorem separated_trailing_iff {α : Type} {Spells : α → Tokens → Prop} (hSome : ∀ a, ¬Spells a [])
    (hItem : ∀ a front joint, ¬Spells a (front ++ [.punct ',' joint])) {items : List α}
    {front : Tokens} {last : Token} (hLast : ∀ joint, last ≠ .punct ',' joint) (joint : Bool) :
    Separated Spells items (front ++ [last] ++ [.punct ',' joint]) ↔
      Separated Spells items (front ++ [last]) := by
  constructor
  · intro h
    generalize hTokens : front ++ [last] ++ [.punct ',' joint] = ts at h
    induction h generalizing front with
    | nil => simp at hTokens
    | last h =>
        rw [← hTokens] at h
        exact absurd h (hItem _ _ _)
    | @cons a as first rest h comma hRest ih =>
        rcases List.eq_nil_or_concat rest with rfl | ⟨middle, x, rfl⟩
        · obtain ⟨rfl, -⟩ := List.append_inj' hTokens rfl
          rw [(separated_nil_iff hSome).mp hRest]
          exact .last h
        · have hSplit : (front ++ [last]) ++ [.punct ',' joint] =
              (first ++ .punct ',' comma :: middle) ++ [x] := by simpa using hTokens
          obtain ⟨hFront, hSame⟩ := List.append_inj' hSplit rfl
          cases hSame
          obtain ⟨inner, rfl, rfl⟩ := exists_of_append_cons_eq hFront.symm (hLast comma)
          rw [List.append_assoc, List.cons_append]
          exact .cons h comma (ih (by simp))
  · intro h
    generalize hTokens : front ++ [last] = ts at h ⊢
    induction h generalizing front with
    | nil => simp at hTokens
    | last h => exact .cons h joint .nil
    | @cons a as first rest h comma hRest ih =>
        obtain ⟨middle, rfl, -⟩ := exists_of_append_cons_eq hTokens.symm (hLast comma)
        rw [List.append_assoc, List.cons_append]
        exact .cons h comma (ih rfl)

/-- Items that are printed one by one. -/
theorem separated_joined {α : Type} {Spells : α → Tokens → Prop} {items : List α}
    {pieces : List Tokens} (h : List.Forall₂ Spells items pieces) (trailing : Bool) :
    Separated Spells items (Parser.joined "," (pieces, trailing)) := by
  induction h with
  | nil =>
      rw [Parser.joined]
      exact .nil
  | @cons a piece items pieces hPiece hRest ih =>
      cases hRest with
      | nil =>
          rw [Parser.joined]
          cases trailing with
          | true => exact .cons hPiece false .nil
          | false => simpa using Separated.last hPiece
      | cons hSecond hOthers =>
          rw [Parser.joined, List.append_assoc]
          · exact .cons hPiece false ih
          · simp

/-- What the last of the items says that say anything. -/
def lastOf {α β : Type} (value? : α → Option β) (items : List α) : Option β :=
  (items.filterMap value?).getLast?

theorem lastOf_cons {α β : Type} (value? : α → Option β) (a : α) (items : List α) :
    lastOf value? (a :: items) = (lastOf value? items).or (value? a) := by
  unfold lastOf
  cases hValue : value? a with
  | none => simp [hValue]
  | some b => simp [hValue, List.getLast?_cons]

/-- Items of which only one says anything can stand in any order. -/
theorem lastOf_perm {α β : Type} {value? : α → Option β} {name : α → String} {found : String}
    (hName : ∀ a b, value? a = some b → name a = found) {items others : List α}
    (h : items.Perm others) (hNodup : (items.map name).Nodup) :
    lastOf value? items = lastOf value? others := by
  have hCount : (items.filterMap value?).length ≤ (items.map name).count found := by
    clear h hNodup
    induction items with
    | nil => simp
    | cons a items ih =>
        cases hValue : value? a with
        | none =>
            rw [List.filterMap_cons_none hValue, List.map_cons]
            exact Nat.le_trans ih List.count_le_count_cons
        | some b =>
            rw [List.filterMap_cons_some hValue, List.map_cons, hName a b hValue,
              List.count_cons_self]
            exact Nat.succ_le_succ ih
  have hOne := Nat.le_trans hCount (List.nodup_iff_count_le_one.mp hNodup found)
  have hPerm := h.filterMap value?
  unfold lastOf
  generalize items.filterMap value? = said at hOne hPerm ⊢
  match said with
  | [] => rw [List.nil_perm.mp hPerm]
  | [b] => rw [List.singleton_perm.mp hPerm]
  | _ :: _ :: _ => simp at hOne

namespace Parser

variable {α β γ σ : Type}

theorem run_atEnd_nil (f : Bool → Parser β) (stray : Bool) :
    (atEnd >>= f).run ⟨[], stray⟩ = (f true).run ⟨[], stray⟩ := rfl

theorem run_atEnd_of_ne (f : Bool → Parser β) {ts : Tokens} (h : ts ≠ []) (stray : Bool) :
    (atEnd >>= f).run ⟨ts, stray⟩ = (f false).run ⟨ts, stray⟩ := by
  rw [← List.isEmpty_eq_false_iff.mpr h]
  rfl

theorem run_bind_assoc (p : Parser α) (f : α → Parser β) (g : β → Parser γ) (s : Ahead) :
    (p >>= fun a => f a >>= g).run s = ((p >>= f) >>= g).run s := by
  rw [run_bind, run_bind, run_bind]
  cases p.run s <;> rfl

section Settings

/-- A name and what follows it are one setting, which is put into the state. -/
def ReadsSetting (setting : String → σ → Parser σ) (Spells : α → Tokens → Prop) (put : σ → α → σ) :
    Prop :=
  ∀ s, (identifier >>= (setting · s)).Parses fun s' ts => ∃ a, Spells a ts ∧ s' = put s a

variable {setting : String → σ → Parser σ} {Spells : α → Tokens → Prop} {put : σ → α → σ}

theorem settings_run
    (hStep : ReadsSetting setting Spells put) (hSome : ∀ a, ¬Spells a []) {fuel : Nat} {s s' : σ}
    {ts : Tokens} {stray : Bool} {t : Ahead}
    (hFuel : ts.length < fuel) :
    (settings setting fuel s).run ⟨ts, stray⟩ = .ok (s', t) ↔
      (∃ items, Separated Spells items ts ∧ s' = items.foldl put s) ∧ t = ⟨[], stray⟩ := by
  induction fuel generalizing s ts with
  | zero => exact absurd hFuel (Nat.not_lt_zero _)
  | succ fuel ih =>
      rw [settings]
      by_cases hEnd : ts = []
      · subst hEnd
        simp only [run_atEnd_nil, if_pos, run_pure_ok_iff, separated_nil_iff hSome, exists_eq_left,
          List.foldl_nil]
        rw [eq_comm, @eq_comm _ t]
      · rw [run_atEnd_of_ne _ hEnd, if_neg Bool.false_ne_true, run_bind_assoc, run_bind_ok_iff]
        constructor
        · rintro ⟨_, _, hItem, hRun⟩
          obtain ⟨front, rest, ⟨a, hSpells, rfl⟩, rfl, rfl⟩ := (hStep _ _ _ _ _).mp hItem
          by_cases hLast : rest = []
          · subst hLast
            rw [run_atEnd_nil, if_pos rfl] at hRun
            obtain ⟨rfl, rfl⟩ := run_pure_ok_iff.mp hRun
            rw [List.append_nil]
            exact ⟨⟨[a], .last hSpells, rfl⟩, rfl⟩
          · rw [run_atEnd_of_ne _ hLast, if_neg Bool.false_ne_true] at hRun
            obtain ⟨_, _, hComma, hRun⟩ := run_bind_ok_iff.mp hRun
            obtain ⟨_, rest, ⟨-, joint, rfl⟩, rfl, rfl⟩ := (parses_operator rfl _ _ _ _).mp hComma
            have hLess : rest.length < fuel := by
              simp at hFuel
              omega
            obtain ⟨⟨items, hItems, rfl⟩, rfl⟩ := (ih hLess).mp hRun
            exact ⟨⟨a :: items, .cons hSpells joint hItems, rfl⟩, rfl⟩
        · rintro ⟨⟨items, hItems, rfl⟩, rfl⟩
          cases hItems with
          | nil => exact absurd rfl hEnd
          | @last a _ h =>
              exact ⟨put s a, ⟨[], stray⟩,
                (hStep _ _ _ _ _).mpr ⟨ts, [], ⟨a, h, rfl⟩, by simp, rfl⟩, rfl⟩
          | @cons a items front rest h joint hRest =>
              have hLess : rest.length < fuel := by
                simp at hFuel
                omega
              refine ⟨put s a, ⟨.punct ',' joint :: rest, stray⟩,
                (hStep _ _ _ _ _).mpr ⟨front, _, ⟨a, h, rfl⟩, rfl, rfl⟩, ?_⟩
              rw [run_atEnd_of_ne _ (List.cons_ne_nil _ _), if_neg Bool.false_ne_true,
                run_bind_ok_iff]
              exact ⟨_, ⟨rest, stray⟩,
                (parses_operator rfl _ _ _ _).mpr ⟨[_], rest, ⟨rfl, joint, rfl⟩, rfl, rfl⟩,
                (ih hLess).mpr ⟨⟨items, hRest, rfl⟩, rfl⟩⟩

/-- Settings are read to the end of the tokens. -/
theorem parsesAll_allSettings
    (hStep : ReadsSetting setting Spells put) (hSome : ∀ a, ¬Spells a []) (start : σ) :
    (allSettings setting start).ParsesAll fun s ts =>
      ∃ items, Separated Spells items ts ∧ s = items.foldl put start :=
  fun _ _ _ _ => settings_run hStep hSome (Nat.lt_succ_self _)

variable {finish : σ → Except SourceError β} {start : σ}

/-- Whether the settings make a result is decided once all of them are read. -/
theorem parsesAll_finished
    (hStep : ReadsSetting setting Spells put) (hSome : ∀ a, ¬Spells a []) :
    (allSettings setting start >>= fun s => liftM (finish s)).ParsesAll fun b ts =>
      ∃ items, Separated Spells items ts ∧ finish (items.foldl put start) = .ok b := by
  refine ((parsesAll_allSettings hStep hSome start).check finish).congr fun b ts => ?_
  constructor
  · rintro ⟨_, ⟨items, hItems, rfl⟩, hFinish⟩
    exact ⟨items, hItems, hFinish⟩
  · rintro ⟨items, hItems, hFinish⟩
    exact ⟨_, ⟨items, hItems, rfl⟩, hFinish⟩

theorem finished_trailing
    (hStep : ReadsSetting setting Spells put) (hSome : ∀ a, ¬Spells a [])
    (hItem : ∀ a front joint, ¬Spells a (front ++ [.punct ',' joint]))
    {front : Tokens} {last : Token} (hLast : ∀ joint, last ≠ .punct ',' joint) (joint : Bool) :
    (allSettings setting start >>= fun s => liftM (finish s)).SameResult
      (front ++ [last] ++ [.punct ',' joint]) (front ++ [last]) := by
  intro b
  simp only [(parsesAll_finished hStep hSome).parse_iff, separated_trailing_iff hSome hItem hLast]

/-- Settings that come to the same are checked alike. -/
theorem finished_congr
    (hStep : ReadsSetting setting Spells put) (hSome : ∀ a, ¬Spells a [])
    {items others : List α} {ts us : Tokens}
    (h : Separated Spells items ts) (hOther : Separated Spells others us)
    (hSame : items.foldl put start = others.foldl put start) :
    (allSettings setting start >>= fun s => liftM (finish s)).parse ts =
      (allSettings setting start >>= fun s => liftM (finish s)).parse us := by
  have hAll := parsesAll_allSettings hStep hSome start
  rw [hAll.parse_check finish ⟨items, h, rfl⟩, hAll.parse_check finish ⟨others, hOther, rfl⟩, hSame]

end Settings

end Parser

end TypedQuery
