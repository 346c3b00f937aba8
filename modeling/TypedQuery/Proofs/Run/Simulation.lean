import TypedQuery.Program.Run
import TypedQuery.Proofs.Session

/-! Runs of generated code against sessions that say the same without variables. A step simulates a
session if it sends the same queries, fails where the session fails, and otherwise leaves the
variables as a condition on the result of the session says. -/

namespace TypedQuery

/-- The end of a step after earlier queries. -/
def Run.after {α : Type} (step : Run α) (env : Env) (calls : List Call) :
    Except Fault (α × Env) × List Call :=
  (step.run env).run.run calls

/-- The same without the variables that are left. -/
def Run.outcomeAfter {α : Type} (step : Run α) (env : Env) (calls : List Call) :
    Except Fault α × List Call :=
  ((step.after env calls).1.map (·.1), (step.after env calls).2)

namespace Env

/-- A variable holds what was put into it last. -/
theorem lookup_put (env : Env) (v w : Var) (slot : Slot) :
    (env.put v slot).lookup w = if w = v then some slot else env.lookup w := by
  induction env with
  | nil =>
      rw [put, List.lookup_cons]
      by_cases h : w = v
      · simp [h]
      · simp [h, beq_false_of_ne h]
  | cons entry rest ih =>
      obtain ⟨name, held⟩ := entry
      by_cases hName : v = name
      · subst hName
        by_cases h : w = v
        · simp [put, h]
        · simp [put, List.lookup_cons, h, beq_false_of_ne h]
      · rw [put, if_neg hName, List.lookup_cons, List.lookup_cons, ih]
        by_cases h : w = v
        · subst h
          simp [beq_false_of_ne hName]
        · simp [h]

@[simp]
theorem lookup_put_self (env : Env) (v : Var) (slot : Slot) :
    (env.put v slot).lookup v = some slot := by
  rw [lookup_put, if_pos rfl]

theorem lookup_put_of_ne (env : Env) {v w : Var} (slot : Slot) (h : w ≠ v) :
    (env.put v slot).lookup w = env.lookup w := by
  rw [lookup_put, if_neg h]

end Env

namespace Run

variable {α β γ δ : Type}

/-- A run goes on with the variables and the calls that the first step leaves. -/
theorem after_bind (step : Run α) (next : α → Run γ) (env : Env) (calls : List Call) :
    (step >>= next).after env calls =
      match step.after env calls with
      | (.ok (a, env), sent) => (next a).after env sent
      | (.error e, sent) => (.error e, sent) := by
  change (ExceptT.bindCont (fun p : α × Env => (next p.1).run p.2)
    (step.after env calls).1).run (step.after env calls).2 = _
  rcases step.after env calls with ⟨_ | ⟨a, env⟩, sent⟩ <;> rfl

/-- The end of a step that belongs to the end of a session: both have sent the same queries, and
fail alike, or their results and the variables that are left meet a condition. -/
inductive Matches (post : β → α → Env → Prop) :
    Except DataError β × List Call → Except Fault (α × Env) × List Call → Prop where
  | done {b : β} {a : α} {left : Env} {sent : List Call} (h : post b a left) :
      Matches post (.ok b, sent) (.ok (a, left), sent)
  | failed {e : DataError} {sent : List Call} :
      Matches post (.error e, sent) (.error (.failed e), sent)

/-- The step does what the session does, whatever was sent before. -/
def Simulates (step : Run α) (env : Env) (session : Session β) (post : β → α → Env → Prop) : Prop :=
  ∀ calls, Matches post (session.after calls) (step.after env calls)

/-- The step only reads variables. -/
def Yields (step : Run α) (env : Env) (a : α) : Prop :=
  ∀ calls, step.after env calls = (.ok (a, env), calls)

variable {step : Run α} {env : Env} {session : Session β} {post : β → α → Env → Prop}

/-- Steps that simulate sessions one after the other simulate the whole session. -/
theorem Simulates.bind {next : α → Run γ} {rest : β → Session δ} {last : δ → γ → Env → Prop}
    (h : Simulates step env session post)
    (hNext : ∀ b a left, post b a left → Simulates (next a) left (rest b) last) :
    Simulates (step >>= next) env (session >>= rest) last := by
  intro calls
  have hStep := h calls
  rw [Session.after_bind, after_bind]
  generalize session.after calls = told at hStep
  generalize step.after env calls = done at hStep
  cases hStep with
  | done hPost => exact hNext _ _ _ hPost _
  | failed => exact Matches.failed

/-- A step that does nothing simulates a session that does nothing. -/
theorem Simulates.pure {a : α} {b : β} (h : post b a env) :
    Simulates (pure a) env (pure b) post :=
  fun _ => Matches.done h

/-- A condition on the result of a session may be weakened. -/
theorem Simulates.mono {weaker : β → α → Env → Prop} (h : Simulates step env session post)
    (hPost : ∀ b a left, post b a left → weaker b a left) :
    Simulates step env session weaker := by
  intro calls
  have hStep := h calls
  generalize session.after calls = told at hStep
  generalize step.after env calls = done at hStep
  cases hStep with
  | done hLeft => exact Matches.done (hPost _ _ _ hLeft)
  | failed => exact Matches.failed

/-- What the session ensures holds of its result. -/
theorem Simulates.ensure {P : β → Prop} (h : Simulates step env session post)
    (hEnsures : session.Ensures P) :
    Simulates step env session fun b a left => post b a left ∧ P b := by
  intro calls
  have hStep := h calls
  have hResult := hEnsures calls
  generalize session.after calls = told at hStep hResult
  generalize step.after env calls = done at hStep
  cases hStep with
  | done hLeft => exact Matches.done ⟨hLeft, hResult _ _ rfl⟩
  | failed => exact Matches.failed

/-- A step that follows may be told with its result alone. -/
theorem Simulates.seq {next : α → Run γ} {last : β → γ → Env → Prop}
    (h : Simulates step env session post)
    (hNext : ∀ b a left, post b a left → Simulates (next a) left (Pure.pure b : Session β) last) :
    Simulates (step >>= next) env session last := by
  have hBind := h.bind hNext
  rwa [bind_pure] at hBind

/-- A step with the result of the session has its outcome. -/
theorem Simulates.outcomeAfter {step : Run β} (h : Simulates step env session fun b a _ => a = b)
    (calls : List Call) : step.outcomeAfter env calls =
      ((session.after calls).1.mapError Fault.failed, (session.after calls).2) := by
  have hStep := h calls
  rw [Run.outcomeAfter]
  generalize step.after env calls = done at hStep
  generalize session.after calls = told at hStep
  cases hStep with
  | done hSame =>
      subst hSame
      rfl
  | failed => rfl

/-- What follows a step that only reads can be told without it. -/
theorem Yields.simulates {a : α} {next : α → Run γ} {last : β → γ → Env → Prop}
    (h : Yields step env a) (hNext : Simulates (next a) env session last) :
    Simulates (step >>= next) env session last := by
  intro calls
  rw [after_bind, h calls]
  exact hNext calls

theorem Yields.pure (a : α) (env : Env) : Yields (pure a) env a := fun _ => rfl

/-- Steps that only read variables may follow each other. -/
theorem Yields.bind {a : α} {b : β} {next : α → Run β} (h : Yields step env a)
    (hNext : Yields (next a) env b) : Yields (step >>= next) env b := by
  intro calls
  rw [after_bind, h calls]
  exact hNext calls

/-- A step that may fail does what it says. -/
theorem simulates_attempt (tried : Except DataError α) (env : Env) :
    Simulates (attempt tried) env (liftM tried) fun b a left => a = b ∧ left = env := by
  intro calls
  rw [Session.after_liftM]
  cases tried with
  | error e => exact Matches.failed
  | ok a => exact Matches.done ⟨rfl, rfl⟩

/-- Queries are sent as the session sends them. -/
theorem simulates_send (session : Session α) (env : Env) :
    Simulates (send session) env session fun b a left => a = b ∧ left = env := by
  intro calls
  let next (a : α) : ExceptT Fault (StateM (List Call)) (α × Env) := Pure.pure (a, env)
  have hSend : (send session).after env calls =
      StateT.run (ExceptT.bindCont next ((session.after calls).1.mapError Fault.failed))
        (session.after calls).2 := rfl
  rw [hSend]
  rcases session.after calls with ⟨e | a, sent⟩
  · exact Matches.failed
  · exact Matches.done ⟨rfl, rfl⟩

/-- An assignment sends nothing, and the code behind it sees the new value. -/
theorem simulates_assign (v : Var) (slot : Slot) (env : Env) {next : Unit → Run γ}
    {last : β → γ → Env → Prop} (hNext : Simulates (next ()) (env.put v slot) session last) :
    Simulates (assign v slot >>= next) env session last := by
  intro calls
  exact hNext calls

section Reading

variable {v : Var}

/-- A variable that is not bound leaves the code stuck. -/
theorem after_slot (v : Var) (env : Env) (calls : List Call) :
    (slot v).after env calls = ((env.lookup v).elim stuck Pure.pure).after env calls := by
  have hGet : Run.after (get : Run Env) env calls = (.ok (env, env), calls) := rfl
  rw [slot, after_bind, hGet]
  dsimp only
  cases env.lookup v <;> rfl

/-- A variable that is bound is read without any call. -/
theorem yields_slot {held : Slot} (h : env.lookup v = some held) : Yields (slot v) env held := by
  intro calls
  rw [after_slot, h]
  rfl

/-- A variable that is not bound cannot be read. -/
theorem after_slot_of_unbound (h : env.lookup v = none) (calls : List Call) :
    (slot v).after env calls = (.error .stuck, calls) := by
  rw [after_slot, h]
  rfl

theorem yields_cursor {c : Cursor} (h : env.lookup v = some (.cursor c)) :
    Yields (cursor v) env c := (yields_slot h).bind fun _ => rfl

/-- A variable that holds a snapshot is read as one. -/
theorem yields_snapshot {c : Snapshot} (h : env.lookup v = some (.cursor (.snapshot c))) :
    Yields (snapshot v) env c := (yields_cursor h).bind fun _ => rfl

theorem yields_index {n : Nat} (h : env.lookup v = some (.index n)) :
    Yields (index v) env n := (yields_slot h).bind fun _ => rfl

theorem yields_key {k : Option Key} (h : env.lookup v = some (.key k)) :
    Yields (key v) env k := (yields_slot h).bind fun _ => rfl

theorem yields_groups {gs : List (Key × List Datum)} (h : env.lookup v = some (.groups gs)) :
    Yields (groups v) env gs := (yields_slot h).bind fun _ => rfl

theorem yields_datum {d : Datum} (h : env.lookup v = some (.datum d)) :
    Yields (datum v) env d := (yields_slot h).bind fun _ => rfl

theorem yields_items {ds : List Datum} (h : env.lookup v = some (.items ds)) :
    Yields (items v) env ds := (yields_slot h).bind fun _ => rfl

theorem yields_entries {es : List (Datum × Datum)} (h : env.lookup v = some (.entries es)) :
    Yields (entries v) env es := (yields_slot h).bind fun _ => rfl

theorem yields_count {n : Nat} (h : env.lookup v = some (.count n)) :
    Yields (count v) env n := (yields_slot h).bind fun _ => rfl

end Reading

end Run

end TypedQuery
