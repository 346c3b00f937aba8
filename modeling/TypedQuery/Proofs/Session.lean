import TypedQuery.Relation.Fetch

namespace TypedQuery

namespace Session

variable {α β γ : Type}

/-- The end of a session after earlier queries. -/
def after (session : Session β) (calls : List Call) : Except DataError β × List Call :=
  session.run.run calls

@[simp]
theorem after_pure (b : β) (calls : List Call) :
    (pure b : Session β).after calls = (.ok b, calls) := rfl

/-- A session goes on with the calls that were sent before. -/
theorem after_bind (session : Session β) (next : β → Session γ) (calls : List Call) :
    (session >>= next).after calls =
      match session.after calls with
      | (.ok b, sent) => (next b).after sent
      | (.error e, sent) => (.error e, sent) := by
  change (ExceptT.bindCont next (session.after calls).1).run (session.after calls).2 = _
  rcases session.after calls with ⟨_ | b, sent⟩ <;> rfl

/-- A step that sends nothing. -/
@[simp]
theorem after_liftM (step : Except DataError β) (calls : List Call) :
    (liftM step : Session β).after calls = (step, calls) := by
  cases step <;> rfl

/-- Whatever the session gives satisfies the condition. -/
def Ensures (session : Session β) (P : β → Prop) : Prop :=
  ∀ calls b sent, session.after calls = (.ok b, sent) → P b

variable {session : Session β} {P : β → Prop}

theorem Ensures.pure {b : β} (h : P b) : Ensures (pure b) P := by
  intro calls b' sent hEnd
  rw [after_pure] at hEnd
  cases hEnd
  exact h

/-- What the first session ensures may be used by the next one. -/
theorem Ensures.bind {next : β → Session γ} {Q : γ → Prop} (h : session.Ensures P)
    (hNext : ∀ b, P b → (next b).Ensures Q) : (session >>= next).Ensures Q := by
  intro calls c sent hEnd
  rw [after_bind] at hEnd
  rcases hFirst : session.after calls with ⟨e | b, middle⟩
  · rw [hFirst] at hEnd
    cases hEnd
  · rw [hFirst] at hEnd
    exact hNext b (h calls b middle hFirst) middle c sent hEnd

/-- What is ensured may be weakened. -/
theorem Ensures.mono {Q : β → Prop} (h : session.Ensures P) (hPost : ∀ b, P b → Q b) :
    session.Ensures Q :=
  fun calls b sent hEnd => hPost b (h calls b sent hEnd)

theorem ensures_liftM {step : Except DataError β} :
    Ensures (liftM step) fun b => step = .ok b := by
  intro calls b sent hEnd
  rw [after_liftM] at hEnd
  exact congrArg Prod.fst hEnd

/-- What a scan ensures, by what it ensures after each part of the list. -/
theorem Ensures.foldlM {ι : Type} {step : β → ι → Session β} {Inv : List ι → β → Prop}
    {xs done : List ι} {b : β} (hInit : Inv done b)
    (hStep : ∀ seen x b, x ∈ xs → Inv seen b → (step b x).Ensures (Inv (seen ++ [x]))) :
    (xs.foldlM step b).Ensures (Inv (done ++ xs)) := by
  induction xs generalizing done b with
  | nil => simpa using Ensures.pure hInit
  | cons x xs ih =>
      rw [List.foldlM_cons]
      refine (hStep done x b List.mem_cons_self hInit).bind fun b' hNext => ?_
      rw [List.append_cons]
      exact ih hNext fun seen y c hy => hStep seen y c (List.mem_cons_of_mem x hy)

/-- What was sent before makes no difference to the result. -/
def Oblivious (session : Session β) : Prop :=
  ∀ calls others, (session.after calls).1 = (session.after others).1

theorem Oblivious.pure (b : β) : Oblivious (pure b) := fun _ _ => rfl

theorem oblivious_liftM (step : Except DataError β) : Oblivious (liftM step) := by
  intro calls others
  rw [after_liftM, after_liftM]

/-- Sessions that do not look back do not look back together. -/
theorem Oblivious.bind {next : β → Session γ} (h : session.Oblivious)
    (hNext : ∀ b, (next b).Oblivious) : (session >>= next).Oblivious := by
  intro calls others
  have hFirst := h calls others
  rw [after_bind, after_bind]
  generalize session.after calls = first at hFirst ⊢
  generalize session.after others = second at hFirst ⊢
  obtain ⟨result, sent⟩ := first
  obtain ⟨other, later⟩ := second
  subst hFirst
  cases result with
  | error e => rfl
  | ok b => exact hNext b sent later

/-- Neither does a fold of such sessions. -/
theorem Oblivious.foldlM {ι : Type} {step : β → ι → Session β}
    (hStep : ∀ b x, (step b x).Oblivious) (xs : List ι) (b : β) :
    (xs.foldlM step b).Oblivious := by
  induction xs generalizing b with
  | nil => exact .pure b
  | cons x xs ih =>
      rw [List.foldlM_cons]
      exact (hStep b x).bind ih

end Session

/-- The connection answers every call alike, whatever it was asked before. -/
def Connection.Stateless (db : Connection) : Prop :=
  ∀ earlier other call, db.answer earlier call = db.answer other call

/-- A query is answered knowing all earlier ones. -/
theorem Connection.query_after (db : Connection) (sql : String) (args : List Value)
    (calls : List Call) :
    (db.query sql args).after calls = (db.answer calls ⟨sql, args⟩, calls ++ [⟨sql, args⟩]) := by
  change Session.after (liftM (db.answer calls ⟨sql, args⟩)) (calls ++ [⟨sql, args⟩]) = _
  rw [Session.after_liftM]

theorem Connection.Stateless.query {db : Connection} (h : db.Stateless) (sql : String)
    (args : List Value) : (db.query sql args).Oblivious := by
  intro calls others
  rw [Connection.query_after, Connection.query_after]
  exact h calls others _

/-- A query gives what the connection answers after some earlier queries. -/
theorem Connection.query_ensures (db : Connection) (sql : String) (args : List Value) :
    (db.query sql args).Ensures fun answer =>
      ∃ earlier, db.answer earlier ⟨sql, args⟩ = .ok answer := by
  intro calls answer sent hEnd
  rw [Connection.query_after] at hEnd
  exact ⟨calls, congrArg Prod.fst hEnd⟩

/-- Where a failure is placed does not change what succeeds. -/
theorem RelationQuery.located_ensures {β : Type} (q : RelationQuery) {session : Session β}
    {P : β → Prop} (h : session.Ensures P) : (q.located session).Ensures P := by
  intro calls b sent hEnd
  have hLocated : (q.located session).after calls =
      ((session.after calls).1.mapError (.relation q.table), (session.after calls).2) := rfl
  rw [hLocated] at hEnd
  rcases hFirst : session.after calls with ⟨e | b', middle⟩
  · rw [hFirst] at hEnd
    cases hEnd
  · rw [hFirst] at hEnd
    cases hEnd
    exact h calls b middle hFirst

end TypedQuery
