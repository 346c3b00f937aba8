import Mathlib.Data.List.Forall2

namespace TypedQuery

variable {ε α β : Type}

/-- Two steps succeed exactly if both do. -/
theorem bind_eq_ok_iff {step : Except ε α} {next : α → Except ε β} {b : β} :
    step >>= next = .ok b ↔ ∃ a, step = .ok a ∧ next a = .ok b := by
  cases step with
  | error e => simp [bind, Except.bind]
  | ok a => simp [bind, Except.bind]

/-- Two steps fail where the first one fails, or else where the second one does. -/
theorem bind_eq_error_iff {step : Except ε α} {next : α → Except ε β} {e : ε} :
    step >>= next = .error e ↔ step = .error e ∨ ∃ a, step = .ok a ∧ next a = .error e := by
  cases step with
  | error e => simp [bind, Except.bind]
  | ok a => simp [bind, Except.bind]

theorem map_eq_ok_iff {step : Except ε α} {f : α → β} {b : β} :
    f <$> step = .ok b ↔ ∃ a, step = .ok a ∧ f a = b := by
  cases step with
  | error e => simp [Functor.map, Except.map]
  | ok a => simp [Functor.map, Except.map]

/-- A change of the result changes no failure. -/
theorem map_eq_error_iff {step : Except ε α} {f : α → β} {e : ε} :
    f <$> step = .error e ↔ step = .error e := by
  cases step with
  | error e => simp [Functor.map, Except.map]
  | ok a => simp [Functor.map, Except.map]

theorem mapError_eq_ok_iff {δ : Type} {step : Except ε α} {f : ε → δ} {a : α} :
    step.mapError f = .ok a ↔ step = .ok a := by
  cases step with
  | error e => simp [Except.mapError]
  | ok a => simp [Except.mapError]

theorem pure_eq_ok_iff {a b : α} : (pure a : Except ε α) = .ok b ↔ a = b := by
  simp [pure, Except.pure]

theorem pure_ne_error {a : α} {e : ε} : (pure a : Except ε α) ≠ .error e := by
  simp [pure, Except.pure]

/-- Every step has one of two ends. -/
theorem exists_error_iff_not_ok {step : Except ε α} :
    (∃ e, step = .error e) ↔ ∀ a, step ≠ .ok a := by
  cases step with
  | error e => simp
  | ok a => simp

/-- What a scan keeps, by what it keeps after each part of the list. -/
theorem foldlM_invariant {step : β → α → Except ε β} {Inv : List α → β → Prop} {xs done : List α}
    {b last : β} (hInit : Inv done b)
    (hStep : ∀ seen x b next, x ∈ xs → Inv seen b → step b x = .ok next → Inv (seen ++ [x]) next)
    (h : xs.foldlM step b = .ok last) : Inv (done ++ xs) last := by
  induction xs generalizing done b with
  | nil =>
      obtain rfl := pure_eq_ok_iff.mp h
      rwa [List.append_nil]
  | cons x xs ih =>
      obtain ⟨next, hNext, hRest⟩ := bind_eq_ok_iff.mp h
      rw [List.append_cons]
      exact ih (hStep done x b next List.mem_cons_self hInit hNext)
        (fun seen y b c hy => hStep seen y b c (List.mem_cons_of_mem x hy)) hRest

/-- Two scans have the same end if their steps have. -/
theorem mapM_congr_forall₂ {γ : Type} {R : α → γ → Prop} {f : α → Except ε β} {g : γ → Except ε β}
    {xs : List α} {ys : List γ} (h : List.Forall₂ R xs ys) (hStep : ∀ x y, R x y → f x = g y) :
    xs.mapM f = ys.mapM g := by
  induction h with
  | nil => rfl
  | cons hHead _ ih => rw [List.mapM_cons, List.mapM_cons, hStep _ _ hHead, ih]

/-- Two folds over lists that agree place by place take the same way. -/
theorem foldlM_congr_forall₂ {γ δ : Type} {R : α → γ → Prop} {f : δ → α → Except ε δ}
    {g : δ → γ → Except ε δ} {xs : List α} {ys : List γ} (h : List.Forall₂ R xs ys)
    (hStep : ∀ d x y, R x y → f d x = g d y) (d : δ) : xs.foldlM f d = ys.foldlM g d := by
  induction h generalizing d with
  | nil => rfl
  | cons hHead _ ih =>
      rw [List.foldlM_cons, List.foldlM_cons, hStep d _ _ hHead]
      exact congrArg _ (funext ih)

/-- A scan whose steps fail only where they read can read everything first. -/
theorem foldlM_of_read {γ : Type} {read : α → Except ε γ} {step : β → γ → β} (xs : List α) (b : β) :
    xs.foldlM (fun b x => do return step b (← read x)) b =
      (fun ys => ys.foldl step b) <$> xs.mapM read := by
  induction xs generalizing b with
  | nil => rfl
  | cons x xs ih =>
      rw [List.foldlM_cons, List.mapM_cons]
      cases read x with
      | error e => rfl
      | ok y =>
          refine (ih (step b y)).trans ?_
          cases xs.mapM read <;> rfl

/-- A scan collects its results one by one. -/
theorem foldlM_collect {f : α → Except ε β} (xs : List α) (done : List β) :
    xs.foldlM (fun ys x => do return ys ++ [← f x]) done =
      (xs.mapM f >>= fun ys => pure (done ++ ys)) := by
  induction xs generalizing done with
  | nil => simp
  | cons x xs ih =>
      simp only [List.foldlM_cons, List.mapM_cons, bind_assoc, pure_bind, ih, List.append_assoc,
        List.singleton_append]

/-- A scan succeeds if every step does. -/
theorem mapM_eq_ok_iff {f : α → Except ε β} {xs : List α} {ys : List β} :
    xs.mapM f = .ok ys ↔ List.Forall₂ (fun x y => f x = .ok y) xs ys := by
  induction xs generalizing ys with
  | nil =>
      rw [List.mapM_nil, pure_eq_ok_iff, List.forall₂_nil_left_iff]
      exact eq_comm
  | cons x xs ih =>
      rw [List.mapM_cons, bind_eq_ok_iff, List.forall₂_cons_left_iff]
      apply exists_congr
      intro y
      rw [bind_eq_ok_iff]
      simp only [pure_eq_ok_iff, ih]
      constructor
      · rintro ⟨hHead, rest, hRest, rfl⟩
        exact ⟨rest, hHead, hRest, rfl⟩
      · rintro ⟨rest, hHead, hRest, rfl⟩
        exact ⟨hHead, rest, hRest, rfl⟩

/-- The failure of a step. -/
def failure? (step : Except ε α) : Option ε :=
  match step with
  | .error e => some e
  | .ok _ => none

@[simp]
theorem failure?_eq_some_iff {step : Except ε α} {e : ε} :
    failure? step = some e ↔ step = .error e := by
  cases step <;> simp [failure?]

/-- The first failure among some steps. -/
def firstFailure (steps : List (Except ε α)) : Option ε := steps.findSome? failure?

/-- A scan fails as its first failing step does. -/
theorem failure?_mapM (f : α → Except ε β) (xs : List α) :
    failure? (xs.mapM f) = firstFailure (xs.map f) := by
  induction xs with
  | nil => rfl
  | cons x xs ih =>
      rw [firstFailure] at ih
      rw [List.mapM_cons, firstFailure, List.map_cons, List.findSome?_cons, ← ih]
      cases f x with
      | error e => rfl
      | ok b => cases xs.mapM f <;> rfl

/-- A scan of scans fails as the first failing step of all. -/
theorem failure?_mapM_mapM {γ : Type} (f : α → β → Except ε γ) (xs : List α) (ys : List β) :
    failure? (xs.mapM fun x => ys.mapM (f x)) =
      firstFailure (xs.flatMap fun x => ys.map (f x)) := by
  induction xs with
  | nil => rfl
  | cons x xs ih =>
      rw [firstFailure] at ih
      have hRow : failure? (ys.mapM (f x)) = (ys.map (f x)).findSome? failure? :=
        failure?_mapM (f x) ys
      rw [List.mapM_cons, firstFailure, List.flatMap_cons, List.findSome?_append, ← ih, ← hRow]
      cases ys.mapM (f x) with
      | error e => rfl
      | ok row => cases xs.mapM fun x => ys.mapM (f x) <;> rfl

/-- A scan for values that may be missing finds them all, or none. -/
theorem mapM_eq_some_iff {f : α → Option β} {xs : List α} {ys : List β} :
    xs.mapM f = some ys ↔ List.Forall₂ (fun x y => f x = some y) xs ys := by
  induction xs generalizing ys with
  | nil =>
      rw [List.mapM_nil, List.forall₂_nil_left_iff]
      exact Option.some_inj.trans eq_comm
  | cons x xs ih =>
      simp only [List.mapM_cons, Option.bind_eq_bind, Option.bind_eq_some_iff, Option.pure_def,
        Option.some_inj, List.forall₂_cons_left_iff, ih]
      constructor
      · rintro ⟨y, hHead, rest, hRest, rfl⟩
        exact ⟨y, rest, hHead, hRest, rfl⟩
      · rintro ⟨y, rest, hHead, hRest, rfl⟩
        exact ⟨y, hHead, rest, hRest, rfl⟩

/-- A list that is related to two lists in a row is cut where the first one ends. -/
theorem forall₂_append_left_iff {R : α → β → Prop} {xs ys : List α} {zs : List β} :
    List.Forall₂ R (xs ++ ys) zs ↔
      ∃ us vs, zs = us ++ vs ∧ List.Forall₂ R xs us ∧ List.Forall₂ R ys vs := by
  constructor
  · intro h
    refine ⟨zs.take xs.length, zs.drop xs.length, (List.take_append_drop _ _).symm, ?_, ?_⟩
    · simpa using List.forall₂_take xs.length h
    · simpa using List.forall₂_drop xs.length h
  · rintro ⟨us, vs, rfl, hFront, hBack⟩
    exact List.rel_append hFront hBack

/-- Lists are related alike by relations that agree on their members. -/
theorem forall₂_congr_of_mem {R S : α → β → Prop} {xs : List α} {ys : List β}
    (h : ∀ x ∈ xs, ∀ y, R x y ↔ S x y) : List.Forall₂ R xs ys ↔ List.Forall₂ S xs ys := by
  induction xs generalizing ys with
  | nil => rw [List.forall₂_nil_left_iff, List.forall₂_nil_left_iff]
  | cons x xs ih =>
      rw [List.forall_mem_cons] at h
      simp only [List.forall₂_cons_left_iff, h.1, ih h.2]

/-- Every member of the second list stands opposite to one of the first. -/
theorem exists_of_forall₂_right {R : α → β → Prop} {as : List α} {bs : List β} {b : β}
    (h : List.Forall₂ R as bs) (hb : b ∈ bs) : ∃ a ∈ as, R a b := by
  induction h with
  | nil => cases hb
  | cons hHead _ ih =>
      rcases List.mem_cons.mp hb with rfl | hb
      · exact ⟨_, List.mem_cons_self, hHead⟩
      · obtain ⟨a, ha, hR⟩ := ih hb
        exact ⟨a, List.mem_cons_of_mem _ ha, hR⟩

theorem exists_of_forall₂_left {R : α → β → Prop} {as : List α} {bs : List β} {a : α}
    (h : List.Forall₂ R as bs) (ha : a ∈ as) : ∃ b ∈ bs, R a b :=
  exists_of_forall₂_right h.flip ha

/-- Relations place by place are composed place by place. -/
theorem forall₂_trans {γ : Type} {R : α → β → Prop} {S : β → γ → Prop} {T : α → γ → Prop}
    (hTrans : ∀ a b c, R a b → S b c → T a c) {as : List α} {bs : List β} {cs : List γ}
    (h : List.Forall₂ R as bs) (hNext : List.Forall₂ S bs cs) : List.Forall₂ T as cs := by
  induction h generalizing cs with
  | nil =>
      cases hNext
      exact .nil
  | cons hHead _ ih =>
      obtain ⟨c, rest, hFirst, hRest, rfl⟩ := List.forall₂_cons_left_iff.mp hNext
      exact .cons (hTrans _ _ _ hHead hFirst) (ih hRest)

theorem forall_mem_iff_of_forall₂ {R : α → β → Prop} {P : α → Prop} {Q : β → Prop} {as : List α}
    {bs : List β} (h : List.Forall₂ R as bs) (hIff : ∀ a b, R a b → (P a ↔ Q b)) :
    (∀ a ∈ as, P a) ↔ ∀ b ∈ bs, Q b := by
  induction h with
  | nil => simp
  | cons hHead _ ih => rw [List.forall_mem_cons, List.forall_mem_cons, hIff _ _ hHead, ih]

/-- Both steps succeed with related values, or both fail in the same way. -/
inductive SameEnd {γ : Type} (R : α → γ → Prop) : Except ε α → Except ε γ → Prop where
  | ok {a : α} {c : γ} (h : R a c) : SameEnd R (.ok a) (.ok c)
  | error (e : ε) : SameEnd R (.error e) (.error e)

namespace SameEnd

variable {γ δ : Type} {R : α → γ → Prop} {S : β → δ → Prop} {step : Except ε α}
  {other : Except ε γ}

/-- Two sequences end alike if both of their steps do. -/
theorem bind {next : α → Except ε β} {later : γ → Except ε δ} (h : SameEnd R step other)
    (hNext : ∀ a c, R a c → SameEnd S (next a) (later c)) :
    SameEnd S (step >>= next) (other >>= later) := by
  cases h with
  | ok h => exact hNext _ _ h
  | error e => exact .error e

theorem map {f : α → β} {g : γ → δ} (h : SameEnd R step other)
    (hMap : ∀ a c, R a c → S (f a) (g c)) : SameEnd S (f <$> step) (g <$> other) := by
  cases h with
  | ok h => exact .ok (hMap _ _ h)
  | error e => exact .error e

theorem imp {R' : α → γ → Prop} (h : SameEnd R step other) (hImp : ∀ a c, R a c → R' a c) :
    SameEnd R' step other := by
  cases h with
  | ok h => exact .ok (hImp _ _ h)
  | error e => exact .error e

/-- Two maps over lists that are related place by place end alike. -/
theorem mapM {xs : List β} {ys : List δ} {f : β → Except ε α} {g : δ → Except ε γ}
    (h : List.Forall₂ S xs ys) (hStep : ∀ x y, S x y → SameEnd R (f x) (g y)) :
    SameEnd (List.Forall₂ R) (xs.mapM f) (ys.mapM g) := by
  induction h with
  | nil => exact .ok .nil
  | cons hHead _ ih =>
      rw [List.mapM_cons, List.mapM_cons]
      exact (hStep _ _ hHead).bind fun _ _ hFirst => ih.bind fun _ _ hRest =>
        .ok (.cons hFirst hRest)

end SameEnd

end TypedQuery
