import TypedQuery.Proofs.Program.Emission
import TypedQuery.Proofs.Run.Control

/-! Emitted code counts its temporaries, so that a piece of code changes only those of its own
numbers, and what it binds lasts through every piece that is numbered apart. -/

namespace TypedQuery

open Run

namespace Var

/-- A temporary with a number from `n` on and below `m`. -/
def Between (n m : Nat) : Var → Prop
  | named _ => False
  | temporary _ index => n ≤ index ∧ index < m

/-- A variable that was there before the number `n` was given away. -/
def Older (n : Nat) : Var → Prop
  | named _ => True
  | temporary _ index => index < n

variable {n m : Nat} {v : Var}

/-- A number between two bounds is between wider ones. -/
theorem Between.widen (h : v.Between n m) {n' m' : Nat} (hLow : n' ≤ n) (hHigh : m ≤ m') :
    v.Between n' m' := by
  cases v with
  | named => exact h.elim
  | temporary stem index => exact ⟨Nat.le_trans hLow h.1, Nat.lt_of_lt_of_le h.2 hHigh⟩

/-- What is older than a number is older than later ones. -/
theorem Older.mono (h : v.Older n) (hLe : n ≤ m) : v.Older m := by
  cases v with
  | named => trivial
  | temporary stem index => exact Nat.lt_of_lt_of_le h hLe

/-- Nothing is older than a number and made from it on. -/
theorem Older.not_between (h : v.Older n) : ¬v.Between n m := by
  cases v with
  | named => exact id
  | temporary stem index => exact fun hBetween => absurd hBetween.1 (Nat.not_le.mpr h)

/-- A variable is not a temporary that was made later. -/
theorem Older.ne (h : v.Older n) {w : Var} (hBetween : w.Between n m) : v ≠ w := by
  rintro rfl
  exact h.not_between hBetween

theorem between_temporary {stem : String} {index : Nat} (hLow : n ≤ index) (hHigh : index < m) :
    (temporary stem index).Between n m := ⟨hLow, hHigh⟩

theorem older_temporary {stem : String} {index : Nat} (h : index < n) :
    (temporary stem index).Older n := h

/-- Numbers that do not overlap belong to different temporaries. -/
theorem Between.ne_of_le {k l : Nat} (h : v.Between n m) {w : Var} (hOther : w.Between k l)
    (hLe : m ≤ k) : v ≠ w := by
  rintro rfl
  cases v with
  | named => exact h.elim
  | temporary stem index => exact absurd (Nat.lt_of_lt_of_le h.2 hLe) (Nat.not_lt.mpr hOther.1)

end Var

/-- The variables differ only in temporaries numbered from `n` to `m`. -/
def Env.SameOutside (n m : Nat) (env left : Env) : Prop :=
  ∀ v, ¬v.Between n m → left.lookup v = env.lookup v

/-- The variables differ only in some that are listed. -/
def Env.SameBut (changed : List Var) (env left : Env) : Prop :=
  ∀ v, v ∉ changed → left.lookup v = env.lookup v

namespace Env

variable {n m : Nat} {env left : Env}

theorem SameOutside.refl (n m : Nat) (env : Env) : SameOutside n m env env := fun _ _ => rfl

/-- Code that is numbered together changes no older variable, piece after piece. -/
theorem SameOutside.trans {later : Env} (h : SameOutside n m env left)
    (hLater : SameOutside n m left later) : SameOutside n m env later :=
  fun v hv => (hLater v hv).trans (h v hv)

/-- A piece of code may be counted to a larger one. -/
theorem SameOutside.widen (h : SameOutside n m env left) {n' m' : Nat} (hLow : n' ≤ n)
    (hHigh : m ≤ m') : SameOutside n' m' env left :=
  fun v hv => h v fun hBetween => hv (hBetween.widen hLow hHigh)

/-- A variable of the own numbers may be changed. -/
theorem SameOutside.put (h : SameOutside n m env left) {v : Var} (hv : v.Between n m)
    (slot : Slot) : SameOutside n m env (left.put v slot) := by
  intro w hw
  have hOther : w ≠ v := by
    rintro rfl
    exact hw hv
  rw [lookup_put_of_ne left slot hOther, h w hw]

/-- An older variable keeps what it holds. -/
theorem SameOutside.older (h : SameOutside n m env left) {v : Var} (hv : v.Older n) :
    left.lookup v = env.lookup v := h v hv.not_between

theorem SameBut.refl (changed : List Var) (env : Env) : SameBut changed env env := fun _ _ => rfl

/-- One of the variables that may change may be changed. -/
theorem SameBut.put {changed : List Var} (h : SameBut changed env left) {v : Var}
    (hv : v ∈ changed) (slot : Slot) : SameBut changed env (left.put v slot) := by
  intro w hw
  have hOther : w ≠ v := by
    rintro rfl
    exact hw hv
  rw [lookup_put_of_ne left slot hOther, h w hw]

theorem SameBut.trans {changed : List Var} {later : Env} (h : SameBut changed env left)
    (hLater : SameBut changed left later) : SameBut changed env later :=
  fun v hv => (hLater v hv).trans (h v hv)

theorem SameBut.subset {changed more : List Var} (h : SameBut changed env left)
    (hMore : changed ⊆ more) : SameBut more env left :=
  fun v hv => h v fun hMem => hv (hMore hMem)

/-- Variables that are numbered together may all change. -/
theorem SameBut.sameOutside {changed : List Var} (h : SameBut changed env left)
    (hChanged : ∀ v ∈ changed, v.Between n m) : SameOutside n m env left :=
  fun v hv => h v fun hMem => hv (hChanged v hMem)

end Env

/-- A loop that scans rows and keeps what it has found in a variable. A round of it may change that
variable and some others, but not the cursor. -/
theorem Run.Runs.scanRows {β γ : Type} {reader : Reader} {db : Connection} {env : Env}
    {cursor out : Var} {changed : List Var} {body rest : List Stmt} {c : Cursor} {b : β}
    {told : β → Line → Except DataError β} {slot : β → Slot} {next : β → Session γ}
    {last : γ → Env → Prop} (hCursor : env.lookup cursor = some (.cursor c))
    (hHeld : env.lookup out = some (slot b)) (hApart : cursor ∉ out :: changed)
    (hRound : ∀ b left line, left.lookup out = some (slot b) →
      env.SameBut (cursor :: out :: changed) left → left.Shows cursor line →
      Simulates (stmts reader db body) left (liftM (told b line)) fun b _ after =>
        after.lookup out = some (slot b) ∧ left.SameBut (out :: changed) after)
    (hRest : ∀ b left position, left.lookup out = some (slot b) →
      left.lookup cursor = some (.cursor (c.seek position)) →
      env.SameBut (cursor :: out :: changed) left → Runs reader db rest left (next b) last) :
    Runs reader db (.whileRows cursor body :: rest) env
      (liftM (c.lines.foldlM told b) >>= next) last := by
  let Inv (b : β) (left : Env) : Prop :=
    left.lookup out = some (slot b) ∧ env.SameBut (cursor :: out :: changed) left
  have hOut : out ≠ cursor := fun hSame => hApart (hSame ▸ List.mem_cons_self)
  have hStable (b : β) (left : Env) (moved : Slot) (h : Inv b left) :
      Inv b (left.put cursor moved) :=
    ⟨(Env.lookup_put_of_ne left moved hOut).trans h.1, h.2.put List.mem_cons_self moved⟩
  have hStep (b : β) (left : Env) (line : Line) (h : Inv b left) (hShows : left.Shows cursor line) :
      Simulates (stmts reader db body) left (liftM (told b line)) fun b _ after =>
        Inv b after ∧ after.lookup cursor = left.lookup cursor := by
    apply (hRound b left line h.1 h.2 hShows).mono
    intro b _ after hAfter
    obtain ⟨hFound, hSame⟩ := hAfter
    exact ⟨⟨hFound, h.2.trans (hSame.subset (List.subset_cons_self _ _))⟩, hSame cursor hApart⟩
  exact Runs.whileRows hCursor ⟨hHeld, Env.SameBut.refl _ env⟩ hStable hStep
    fun b left position hInv hMoved => hRest b left position hInv.1 hMoved hInv.2

/-- The variables that preparation has bound hold what it has found. -/
structure Bindings.Hold (b : Bindings) (p : Prepared) (env : Env) : Prop where
  columns : List.Forall₂ (fun v index => env.lookup v = some (.index index)) b.columns p.columns
  relations : List.Forall₂ (fun r found => env.lookup r.keyIndex = some (.index found.1) ∧
    env.lookup r.groups = some (.groups found.2)) b.relations p.relations

/-- All variables that preparation has bound are temporaries with these numbers. -/
structure Bindings.Within (n m : Nat) (b : Bindings) : Prop where
  columns : ∀ v ∈ b.columns, v.Between n m
  relations : ∀ r ∈ b.relations, r.keyIndex.Between n m ∧ r.groups.Between n m

namespace Bindings

variable {n m : Nat} {b : Bindings} {p : Prepared} {env left : Env}

/-- Bindings last where their variables are not touched. -/
theorem Hold.keep (h : b.Hold p env) (hWithin : b.Within n m)
    (hSame : ∀ v, v.Between n m → left.lookup v = env.lookup v) : b.Hold p left := by
  constructor
  · have hBoth := (List.forall₂_and_left _ _).mpr ⟨hWithin.columns, h.columns⟩
    exact hBoth.imp fun v index ⟨hv, hIndex⟩ => (hSame v hv).trans hIndex
  · have hBoth := (List.forall₂_and_left _ _).mpr ⟨hWithin.relations, h.relations⟩
    exact hBoth.imp fun r found ⟨⟨hKey, hGroups⟩, hIndex, hFound⟩ =>
      ⟨(hSame _ hKey).trans hIndex, (hSame _ hGroups).trans hFound⟩

/-- Bindings last while variables of other numbers change. -/
theorem Hold.sameBut (h : b.Hold p env) (hWithin : b.Within n m) {changed : List Var}
    (hSame : env.SameBut changed left) (hApart : ∀ v ∈ changed, ¬v.Between n m) : b.Hold p left :=
  h.keep hWithin fun v hv => hSame v fun hMem => hApart v hMem hv

theorem Within.widen (h : b.Within n m) {n' m' : Nat} (hLow : n' ≤ n) (hHigh : m ≤ m') :
    b.Within n' m' :=
  ⟨fun v hv => (h.columns v hv).widen hLow hHigh,
    fun r hr => ⟨(h.relations r hr).1.widen hLow hHigh, (h.relations r hr).2.widen hLow hHigh⟩⟩

end Bindings

namespace EntityRow

/-- The numbers of temporaries only grow, and preparation binds what it has numbered itself. -/
theorem prepareColumns_within (cursor : Var) (fields : List ColumnField) (n : Nat) :
    n ≤ ((prepareColumns cursor fields).run n).2 ∧
      ∀ v ∈ ((prepareColumns cursor fields).run n).1.1,
        v.Between n ((prepareColumns cursor fields).run n).2 := by
  rw [prepareColumns_run]
  refine ⟨Nat.le_add_right _ _, fun v hv => ?_⟩
  obtain ⟨index, hIndex, rfl⟩ := List.mem_map.mp hv
  rw [List.mem_range'_1] at hIndex
  exact Var.between_temporary hIndex.1 hIndex.2

mutual

/-- Preparation binds variables of its own numbers, and counts up. -/
theorem prepare_within (cursor : Var) : (e : EntityRow) → (n : Nat) →
    n ≤ ((e.prepare cursor).run n).2 ∧
      ((e.prepare cursor).run n).1.1.Within n ((e.prepare cursor).run n).2
  | .mk path fields relations, n => by
      rw [prepare_run]
      obtain ⟨hLookups, hColumns⟩ := prepareColumns_within cursor fields n
      obtain ⟨hFetches, hRelations⟩ := prepareRelations_within cursor relations
        ((prepareColumns cursor fields).run n).2
      refine ⟨Nat.le_trans hLookups hFetches, fun v hv => ?_, fun r hr => ?_⟩
      · exact (hColumns v hv).widen (Nat.le_refl _) hFetches
      · obtain ⟨hKey, hGroups⟩ := hRelations r hr
        exact ⟨hKey.widen hLookups (Nat.le_refl _), hGroups.widen hLookups (Nat.le_refl _)⟩

/-- So do the collectors, each behind the one before it. -/
theorem prepareRelations_within (cursor : Var) :
    (relations : List (RelationField × EntityRow)) → (n : Nat) →
    n ≤ ((prepareRelations cursor relations).run n).2 ∧
      ∀ r ∈ ((prepareRelations cursor relations).run n).1.1,
        r.keyIndex.Between n ((prepareRelations cursor relations).run n).2 ∧
          r.groups.Between n ((prepareRelations cursor relations).run n).2
  | [], n => by
      rw [prepareRelations_nil]
      exact ⟨Nat.le_refl n, fun r hr => nomatch hr⟩
  | (r, entity) :: rest, n => by
      rw [prepareRelations_cons]
      dsimp only
      obtain ⟨hInner, -⟩ := prepare_within (.temporary "related" (n + 3)) entity (n + 7)
      obtain ⟨hOuter, hOthers⟩ := prepareRelations_within cursor rest
        ((entity.prepare (.temporary "related" (n + 3))).run (n + 7)).2
      refine ⟨by omega, fun b hb => ?_⟩
      rcases List.mem_cons.mp hb with rfl | hb
      · exact ⟨Var.between_temporary (by omega) (by omega),
          Var.between_temporary (by omega) (by omega)⟩
      · obtain ⟨hKey, hGroups⟩ := hOthers b hb
        exact ⟨hKey.widen (by omega) (Nat.le_refl _), hGroups.widen (by omega) (Nat.le_refl _)⟩

end

end EntityRow

end TypedQuery
