import TypedQuery.Proofs.Program.Printing

/-! Scopes in printed code. Where variables are bound before they are read and have different names,
one `let` binds each name, and the name stands behind it in the same block or in blocks inside. -/

namespace TypedQuery

open Stmt Tokens Print

/-- Code that names some variables, and binds none. -/
def Tokens.Reads (vs : List Var) (ts : Tokens) : Prop :=
  ∀ o ∈ reserved false ts, ∃ v ∈ vs, o = v.used

theorem Tokens.Reads.nil {vs : List Var} : Tokens.Reads vs [] := by
  simp [Tokens.Reads]

/-- Code in which the reserved names are those of its variables. -/
structure Printable (n : Names) (code : List Stmt) : Prop where
  names : n.Unreserved
  unreserved : ∀ s ∈ deep code, s.Unreserved
  temporary : ∀ s ∈ deep code, ∀ v ∈ s.vars, Reserved v.name

namespace Printable

variable {n : Names} {s : Stmt} {code others : List Stmt} {bound : List Var}

theorem subset (h : Printable n code) (hSub : deep others ⊆ deep code) : Printable n others :=
  ⟨h.names, fun s hMem => h.unreserved s (hSub hMem), fun s hMem => h.temporary s (hSub hMem)⟩

theorem tail (h : Printable n (s :: others)) : Printable n others :=
  h.subset fun _ hMem => by simp [hMem]

theorem body (h : Printable n (s :: others)) : Printable n s.body :=
  h.subset fun _ hMem => by simp [hMem]

theorem single (h : Printable n (s :: others)) : Printable n [s] :=
  h.subset fun _ hMem => by
    simp only [deep_cons, deep_nil, List.append_nil, List.mem_cons, List.mem_append] at hMem ⊢
    exact hMem.imp_right Or.inl

theorem head (h : Printable n (s :: others)) : s.Unreserved ∧ ∀ v ∈ s.vars, Reserved v.name :=
  ⟨h.unreserved s (by simp), h.temporary s (by simp)⟩

/-- No `let` is open at the end of code. -/
theorem reserved_append (h : Printable n code) (after : Tokens) :
    reserved false (stmts n code ++ after) =
      reserved false (stmts n code) ++ reserved false after := by
  induction code using codeInduction generalizing after with
  | nil => simp [stmts]
  | cons s rest ihBody ihRest =>
      have hStmt := reserved_stmt h.names h.head.1 h.head.2 (ihBody h.body)
      rw [stmts, List.append_assoc, hStmt, hStmt, ihRest h.tail]
      simp only [List.append_assoc]

/-- A printed statement, with what its block names. -/
theorem reserved_cons (h : Printable n (s :: others)) (after : Tokens) :
    reserved false (stmt n s ++ after) =
      s.bound?.toList.map Var.atLet ++ s.reads.map Var.used ++ reserved false (stmts n s.body) ++
        s.result?.toList.map Var.used ++ reserved false after :=
  reserved_stmt h.names h.head.1 h.head.2 h.body.reserved_append after

/-- The names of temporaries in printed code are those of its variables. -/
theorem mem_reserved (h : Printable n code) {o : Occurrence}
    (ho : o ∈ reserved false (stmts n code)) :
    (∃ v ∈ lets code, o = v.atLet) ∨ ∃ s ∈ deep code, ∃ v ∈ s.vars, o = v.used := by
  induction code using codeInduction with
  | nil => simp [stmts] at ho
  | cons s rest ihBody ihRest =>
      rw [stmts, h.reserved_cons] at ho
      simp only [List.mem_append, List.mem_map] at ho
      rw [lets_cons, deep_cons]
      rcases ho with (((⟨v, hv, rfl⟩ | ⟨v, hv, rfl⟩) | ho) | ⟨v, hv, rfl⟩) | ho
      · exact Or.inl ⟨v, List.mem_append_left _ hv, rfl⟩
      · exact Or.inr ⟨s, List.mem_cons_self, v, by simp [Stmt.vars, hv], rfl⟩
      · rcases ihBody h.body ho with ⟨v, hv, rfl⟩ | ⟨inner, hInner, hUse⟩
        · exact Or.inl ⟨v, by simp [hv], rfl⟩
        · exact Or.inr ⟨inner, by simp [hInner], hUse⟩
      · exact Or.inr ⟨s, List.mem_cons_self, v, List.mem_append_right _ hv, rfl⟩
      · rcases ihRest h.tail ho with ⟨v, hv, rfl⟩ | ⟨other, hOther, hUse⟩
        · exact Or.inl ⟨v, by simp [hv], rfl⟩
        · exact Or.inr ⟨other, by simp [hOther], hUse⟩

/-- In scoped code with a value at its end these variables are bound. -/
theorem exists_var (h : Printable n code) (hScoped : Scoped bound code) {value : Tokens}
    (hValue : value.Reads (bound ++ binds code)) {o : Occurrence}
    (ho : o ∈ reserved false (stmts n code ++ value)) :
    ∃ v ∈ bound ++ lets code, v.name = o.name := by
  rw [h.reserved_append, List.mem_append] at ho
  rcases ho with ho | ho
  · rcases h.mem_reserved ho with ⟨v, hv, rfl⟩ | ⟨s, hs, v, hv, rfl⟩
    · exact ⟨v, List.mem_append_right _ hv, rfl⟩
    · exact ⟨v, hScoped.vars_subset hs hv, rfl⟩
  · obtain ⟨v, hv, rfl⟩ := hValue o ho
    exact ⟨v, append_subset_append (List.Subset.refl _) (binds_subset_lets _) hv, rfl⟩

/-- A name that no variable of the code has does not occur in it. -/
theorem not_mem_identifiers (h : Printable n code) (hScoped : Scoped bound code) {value : Tokens}
    (hValue : value.Reads (bound ++ binds code)) {name : String} (hName : Reserved name)
    (hApart : ∀ v ∈ bound ++ lets code, v.name ≠ name) :
    name ∉ (stmts n code ++ value).identifiers := by
  refine Tokens.not_mem_identifiers hName fun o ho => ?_
  obtain ⟨v, hv, hSame⟩ := h.exists_var hScoped hValue ho
  exact hSame ▸ hApart v hv

/-- A name that no `let` of the code is for stands behind none. -/
theorem not_mem_occurrences (h : Printable n code) {vs : List Var} {value : Tokens}
    (hValue : value.Reads vs) {name : String} (hName : Reserved name)
    (hApart : ∀ v ∈ lets code, v.name ≠ name) :
    ⟨name, true⟩ ∉ (stmts n code ++ value).occurrences := by
  intro hMem
  have ho : (⟨name, true⟩ : Occurrence) ∈ reserved false (stmts n code ++ value) :=
    List.mem_filter.mpr ⟨hMem, by simpa using hName⟩
  have hUsed (v : Var) : (⟨name, true⟩ : Occurrence) ≠ v.used := fun hSame =>
    Bool.noConfusion (congrArg Occurrence.isBound hSame)
  rw [h.reserved_append, List.mem_append] at ho
  rcases ho with ho | ho
  · rcases h.mem_reserved ho with ⟨v, hv, hSame⟩ | ⟨_, _, v, _, hSame⟩
    · exact hApart v hv (congrArg Occurrence.name hSame).symm
    · exact hUsed v hSame
  · obtain ⟨v, _, hSame⟩ := hValue _ ho
    exact hUsed v hSame

theorem reserved_name (h : Printable n code) {v : Var} (hv : v ∈ lets code) : Reserved v.name := by
  obtain ⟨s, hs, hBound⟩ := List.mem_filterMap.mp hv
  exact h.temporary s hs v (by simp [Stmt.vars, hBound])

variable {v : Var} {after : Tokens}

/-- A statement that binds a variable, and neither reads it nor binds it in its block. -/
theorem bindsOnce_let (h : Printable n (s :: others)) (hBound : s.bound? = some v)
    (hReads : ∀ w ∈ s.reads ++ s.result?.toList, w.name ≠ v.name)
    (hBody : v.name ∉ (stmts n s.body).identifiers) (hAfter : ⟨v.name, true⟩ ∉ after.occurrences) :
    (stmt n s ++ after).BindsOnce v.name := by
  have hName := h.head.2 v (by simp [Stmt.vars, hBound])
  obtain ⟨mutable, value, hLet⟩ : ∃ mutable value,
      stmt n s = letStatement mutable v.name value := stmt_eq_let hBound
  have hValue : reserved false value = s.reads.map Var.used ++ reserved false (stmts n s.body) ++
      s.result?.toList.map Var.used := by
    have hOwn := h.reserved_cons []
    rw [hLet, List.append_nil, reserved_letStatement hName, hBound] at hOwn
    simpa [Var.atLet] using hOwn
  rw [hLet, ← List.nil_append (letStatement mutable v.name value)]
  refine BindsOnce.here List.not_mem_nil (Tokens.not_mem_identifiers hName fun o ho => ?_) hAfter
  rw [hValue] at ho
  simp only [List.mem_append, List.mem_map] at ho hReads
  rcases ho with (⟨w, hw, rfl⟩ | ho) | ⟨w, hw, rfl⟩
  · exact hReads w (Or.inl hw)
  · rintro hSame
    rw [mem_identifiers_iff hName] at hBody
    exact hBody ⟨o.isBound, hSame ▸ ho⟩
  · exact hReads w (Or.inr hw)

/-- A statement with a block that binds a variable, and does not name it outside of the block. -/
theorem bindsOnce_nested (h : Printable n (s :: others)) (hNe : s.body ≠ [])
    (hName : Reserved v.name) (hFront : ∀ w ∈ s.bound?.toList ++ s.reads, w.name ≠ v.name)
    (hBlock : ∀ last, reserved false last = s.result?.toList.map Var.used →
      (stmts n s.body ++ last).BindsOnce v.name)
    (hAfter : v.name ∉ after.identifiers) : (stmt n s ++ after).BindsOnce v.name := by
  obtain ⟨front, last, foot, hForm, hHead, hLast, hFoot⟩ := stmt_eq_nested h.names h.head.2 hNe
  rw [hForm, List.append_assoc _ foot]
  refine BindsOnce.inside (Tokens.not_mem_identifiers hName fun o ho => ?_) (hBlock last hLast) ?_
  · rw [hHead] at ho
    simp only [List.mem_append, List.mem_map] at ho hFront
    rcases ho with ⟨w, hw, rfl⟩ | ⟨w, hw, rfl⟩
    · exact hFront w (Or.inl hw)
    · exact hFront w (Or.inr hw)
  · have hNone : v.name ∉ foot.identifiers := Tokens.not_mem_identifiers hName (by simp [hFoot])
    simp [hNone, hAfter]

end Printable

/-- Variables at different places of a list without repeated names have different names. -/
theorem name_ne_of_nodup {before own after : List Var}
    (h : ((before ++ own ++ after).map Var.name).Nodup) {v w : Var} (hv : v ∈ own)
    (hw : w ∈ before ++ after) : w.name ≠ v.name := by
  simp only [List.map_append, List.nodup_append, List.mem_append, List.mem_map] at h
  rcases List.mem_append.mp hw with hw | hw
  · exact h.1.2.2 _ ⟨w, hw, rfl⟩ _ ⟨v, hv, rfl⟩
  · exact (h.2.2 _ (Or.inr ⟨v, hv, rfl⟩) _ ⟨w, hw, rfl⟩).symm

/-- One `let` binds each variable of code with a value at its end. The induction is over code with
the variables bound in front of it; a block ends in the value that its statement takes from it. -/
theorem bindsOnce_stmts {n : Names} {code : List Stmt} {bound : List Var} {value : Tokens}
    (h : Printable n code) (hScoped : Scoped bound code)
    (hValue : value.Reads (bound ++ binds code))
    (hDistinct : ((bound ++ lets code).map Var.name).Nodup) {v : Var} (hv : v ∈ lets code) :
    (stmts n code ++ value).BindsOnce v.name := by
  induction code using codeInduction generalizing bound value with
  | nil => simp at hv
  | cons s rest ihBody ihRest =>
      have hName := h.reserved_name hv
      obtain ⟨hReads, hBody, hResult, hRest⟩ := scoped_cons_iff.mp hScoped
      have hLast : s.result?.toList ⊆ bound ++ lets s.body :=
        List.Subset.trans hResult
          (append_subset_append (List.Subset.refl _) (binds_subset_lets _))
      rw [stmts, List.append_assoc]
      rw [lets_cons] at hDistinct hv
      rw [binds_cons, ← List.append_assoc] at hValue
      simp only [List.mem_append] at hv
      rcases hv with hv | hv | hv
      case inl =>
        have hApart (w : Var) : w ∈ bound ++ (lets s.body ++ lets rest) → w.name ≠ v.name :=
          name_ne_of_nodup (by simpa using hDistinct) hv
        have hInner (w : Var) (hw : w ∈ bound ++ lets s.body) : w.name ≠ v.name :=
          hApart w (by simp at hw ⊢; tauto)
        refine h.bindsOnce_let (by simpa using hv) (fun w hw => ?_) ?_ ?_
        · rcases List.mem_append.mp hw with hw | hw
          · exact hApart w (List.mem_append_left _ (hReads hw))
          · exact hInner w (hLast hw)
        · rw [← List.append_nil (stmts n s.body)]
          exact h.body.not_mem_identifiers hBody .nil hName hInner
        · exact h.tail.not_mem_occurrences hValue hName fun w hw => hApart w (by simp [hw])
      case inr.inl =>
        have hApart (w : Var) : w ∈ bound ++ s.bound?.toList ++ lets rest → w.name ≠ v.name :=
          name_ne_of_nodup (by simpa using hDistinct) hv
        have hNe : s.body ≠ [] := by
          rintro hNil
          rw [hNil] at hv
          cases hv
        refine h.bindsOnce_nested hNe hName (fun w hw => ?_) (fun last hOwn => ?_) ?_
        · rcases List.mem_append.mp hw with hw | hw
          · exact hApart w (by simp at hw ⊢; tauto)
          · exact hApart w (by simp [hReads hw])
        · refine ihBody h.body hBody (fun o ho => ?_) ?_ hv
          · rw [hOwn] at ho
            obtain ⟨w, hw, rfl⟩ := List.mem_map.mp ho
            exact ⟨w, hResult hw, rfl⟩
          · refine hDistinct.sublist (List.Sublist.map _ ((List.Sublist.refl bound).append ?_))
            exact (List.sublist_append_left _ _).trans (List.sublist_append_right _ _)
        · exact h.tail.not_mem_identifiers hRest hValue hName hApart
      case inr.inr =>
        have hApart (w : Var) : w ∈ bound ++ (s.bound?.toList ++ lets s.body) ++ [] →
            w.name ≠ v.name := name_ne_of_nodup (by simpa using hDistinct) hv
        have hLater := ihRest h.tail hRest hValue ?_ hv
        · refine hLater.prepend ?_
          have hSingle := h.single.not_mem_identifiers
            (scoped_cons_iff.mpr ⟨hReads, hBody, hResult, .nil⟩) .nil hName
            fun w hw => hApart w (by simpa using hw)
          simpa [stmts] using hSingle
        · rw [List.append_assoc]
          refine hDistinct.sublist (List.Sublist.map _ ((List.Sublist.refl bound).append ?_))
          exact (List.Sublist.refl _).append (List.sublist_append_right _ _)

end TypedQuery
