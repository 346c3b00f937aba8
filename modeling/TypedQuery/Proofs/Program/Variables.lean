import TypedQuery.Proofs.Program.Occurrences

/-! The variables of statements: which variable a statement binds, which ones it reads, and which
statements stand inside it. Where variables are bound before they are read and have different names,
one `let` binds each name in the printed code. -/

namespace TypedQuery

theorem append_subset_append {α : Type} {as bs cs ds : List α} (hLeft : as ⊆ cs)
    (hRight : bs ⊆ ds) : as ++ bs ⊆ cs ++ ds :=
  List.append_subset.mpr ⟨List.subset_append_of_subset_left _ hLeft,
    List.subset_append_of_subset_right _ hRight⟩

namespace Stmt

/-- The variable that a statement binds for the statements after it. -/
def bound? : Stmt → Option Var
  | query out .. | copy out .. | columnIndex out .. | keyIndex out _ | firstColumn out
  | read out .. | build out .. | newKeys out | newGroups out _ | fetch out .. | rowKey out ..
  | newItems out | stream out _ | newMap out _ | newCount out | rowCount out _
  | firstRow out .. => some out
  | collectKey .. | reset _ | addToGroup .. | pushItem .. | insertFirst .. | pushEntry ..
  | skipNulls .. | increment _ | whileRows .. | block _ | unlessEmpty .. => none

/-- The variables that a statement reads by itself, in the order of the code. -/
def reads : Stmt → List Var
  | query .. | firstColumn _ | newKeys _ | newGroups .. | newItems _ | newMap .. | newCount _
  | block _ => []
  | copy _ cursor _ | columnIndex _ cursor _ | keyIndex _ cursor | reset cursor
  | whileRows cursor _ | unlessEmpty cursor _ | firstRow _ cursor _ _ _ => [cursor]
  | read _ cursor index _ | rowKey _ cursor index => [cursor, index]
  | build _ cursor _ fields relations =>
    (fields.flatMap fun f => [cursor, f.index]) ++
      relations.flatMap fun g => [cursor, g.keyIndex, g.groups]
  | collectKey keys cursor index => [cursor, index, keys]
  | fetch _ keys _ => [keys]
  | addToGroup groups key item => [key, groups, item]
  | pushItem items item => [items, item]
  | stream _ items => [items]
  | insertFirst map key value | pushEntry map key value => [map, key, value]
  | skipNulls map key cursor check =>
    (check.columns.flatMap fun index => [cursor, index]) ++ [map, key]
  | increment count | rowCount _ count => [count]

/-- The statements in the block of a statement. -/
def body : Stmt → List Stmt
  | whileRows _ body | block body | unlessEmpty _ body | firstRow _ _ _ body _ => body
  | _ => []

/-- The variable that stands behind the statements of the block, as its value. -/
def result? : Stmt → Option Var
  | firstRow _ _ item _ _ => some item
  | _ => none

mutual

/-- The statements inside a statement, at any depth. -/
def inner : Stmt → List Stmt
  | whileRows _ body | block body | unlessEmpty _ body | firstRow _ _ _ body _ => deep body
  | _ => []

/-- Statements and those inside them, in the order of the code. -/
def deep : List Stmt → List Stmt
  | [] => []
  | s :: rest => s :: (inner s ++ deep rest)

end

theorem inner_eq (s : Stmt) : inner s = deep s.body := by
  cases s <;> simp [inner, body, deep]

@[simp]
theorem deep_nil : deep [] = [] := by
  rw [deep]

@[simp]
theorem deep_cons (s : Stmt) (rest : List Stmt) :
    deep (s :: rest) = s :: (deep s.body ++ deep rest) := by
  rw [deep, inner_eq]

@[simp]
theorem deep_append (code rest : List Stmt) : deep (code ++ rest) = deep code ++ deep rest := by
  induction code with
  | nil => simp
  | cons s code ih => simp [ih]

/-- Induction over code: over the block of the first statement, and over the other statements. -/
theorem codeInduction {P : List Stmt → Prop} (nil : P [])
    (cons : ∀ s rest, P s.body → P rest → P (s :: rest)) : (code : List Stmt) → P code
  | [] => nil
  | s :: rest => cons s rest (codeInduction nil cons s.body) (codeInduction nil cons rest)
termination_by code => sizeOf code
decreasing_by
  · cases s <;> simp [body] <;> omega
  · rw [List.cons.sizeOf_spec]
    omega

/-- The variables that code binds, in all its blocks. -/
def lets (code : List Stmt) : List Var := (deep code).filterMap bound?

/-- The variables that code binds for what stands behind it. -/
def binds (code : List Stmt) : List Var := code.filterMap bound?

/-- Every variable is bound before it is read, in the same block or in one around it. -/
inductive Scoped : List Var → List Stmt → Prop where
  | nil {bound : List Var} : Scoped bound []
  | cons {bound : List Var} {s : Stmt} {rest : List Stmt} (hReads : s.reads ⊆ bound)
      (hBody : Scoped bound s.body) (hResult : s.result?.toList ⊆ bound ++ binds s.body)
      (hRest : Scoped (bound ++ s.bound?.toList) rest) : Scoped bound (s :: rest)

@[simp]
theorem lets_nil : lets [] = [] := rfl

@[simp]
theorem lets_cons (s : Stmt) (rest : List Stmt) :
    lets (s :: rest) = s.bound?.toList ++ (lets s.body ++ lets rest) := by
  cases h : s.bound? <;> simp [lets, h]

@[simp]
theorem lets_append (code rest : List Stmt) : lets (code ++ rest) = lets code ++ lets rest := by
  simp [lets]

@[simp]
theorem binds_nil : binds [] = [] := rfl

@[simp]
theorem binds_cons (s : Stmt) (rest : List Stmt) :
    binds (s :: rest) = s.bound?.toList ++ binds rest := by
  cases h : s.bound? <;> simp [binds, h]

@[simp]
theorem binds_append (code rest : List Stmt) : binds (code ++ rest) = binds code ++ binds rest := by
  simp [binds]

/-- What is bound for the code behind is bound somewhere. -/
theorem binds_subset_lets (code : List Stmt) : binds code ⊆ lets code := by
  induction code with
  | nil => simp
  | cons s rest ih =>
      rw [binds_cons, lets_cons]
      exact append_subset_append (List.Subset.refl _)
        (List.subset_append_of_subset_right _ ih)

/-- A statement is scoped in what is bound in front of it, and its block in the same. -/
theorem scoped_cons_iff {bound : List Var} {s : Stmt} {rest : List Stmt} :
    Scoped bound (s :: rest) ↔ s.reads ⊆ bound ∧ Scoped bound s.body ∧
      s.result?.toList ⊆ bound ++ binds s.body ∧ Scoped (bound ++ s.bound?.toList) rest := by
  constructor
  · rintro (_ | ⟨hReads, hBody, hResult, hRest⟩)
    exact ⟨hReads, hBody, hResult, hRest⟩
  · rintro ⟨hReads, hBody, hResult, hRest⟩
    exact .cons hReads hBody hResult hRest

/-- The second piece may read what the first one binds. -/
theorem Scoped.append {bound : List Var} {code rest : List Stmt} (h : Scoped bound code)
    (hRest : Scoped (bound ++ binds code) rest) : Scoped bound (code ++ rest) := by
  induction h with
  | nil => simpa using hRest
  | cons hReads hBody hResult _ _ ih =>
      rw [binds_cons, ← List.append_assoc] at hRest
      exact cons hReads hBody hResult (ih hRest)

/-- The variables of a statement by itself: what it binds and what it reads. -/
def vars (s : Stmt) : List Var := s.bound?.toList ++ s.reads ++ s.result?.toList

/-- In scoped code there are no variables but those that are bound. -/
theorem Scoped.vars_subset {bound : List Var} {code : List Stmt} (h : Scoped bound code)
    {s : Stmt} (hMem : s ∈ deep code) : s.vars ⊆ bound ++ lets code := by
  induction h with
  | nil => simp at hMem
  | @cons bound first rest hReads hBody hResult hRest ihBody ihRest =>
      rw [deep_cons, List.mem_cons, List.mem_append] at hMem
      intro v hv
      simp only [lets_cons, List.mem_append]
      rcases hMem with rfl | hMem | hMem
      · simp only [vars, List.mem_append] at hv
        rcases hv with (hv | hv) | hv
        · exact Or.inr (Or.inl hv)
        · exact Or.inl (hReads hv)
        · rcases List.mem_append.mp (hResult hv) with hBound | hOwn
          · exact Or.inl hBound
          · exact Or.inr (Or.inr (Or.inl (binds_subset_lets _ hOwn)))
      · rcases List.mem_append.mp (ihBody hMem hv) with hBound | hOwn
        · exact Or.inl hBound
        · exact Or.inr (Or.inr (Or.inl hOwn))
      · rcases List.mem_append.mp (ihRest hMem hv) with hBound | hOwn
        · exact (List.mem_append.mp hBound).imp_right Or.inl
        · exact Or.inr (Or.inr (Or.inr hOwn))

end Stmt

end TypedQuery
