import TypedQuery.Proofs.Run.Conversion

namespace TypedQuery

open Run

variable {β : Type} {reader : Reader} {db : Connection} {rest : List Stmt} {env : Env}
  {cursor : Var}

/-- The loop that collects keys finds those of all lines. -/
theorem Run.Runs.collectKeys {keysVar indexVar : Var} {c : Cursor} {index : Nat}
    {next : List Key → Session β} {post : β → Env → Prop}
    (hCursor : env.lookup cursor = some (.cursor c))
    (hKeys : env.lookup keysVar = some (.keys []))
    (hIndex : env.lookup indexVar = some (.index index))
    (hApart : cursor ≠ keysVar) (hIndexApart : indexVar ∉ [cursor, keysVar])
    (hRest : ∀ ks left position, left.lookup keysVar = some (.keys ks) →
      left.lookup cursor = some (.cursor (c.seek position)) → env.SameBut [cursor, keysVar] left →
      Runs reader db rest left (next ks) post) :
    Runs reader db (.whileRows cursor [.collectKey keysVar cursor indexVar] :: rest) env
      (liftM (Line.keys index c.lines) >>= next) post := by
  refine Runs.scanRows hCursor hKeys (by simp [hApart]) (fun ks left line hHeld hSame hShows => ?_)
    hRest
  have hFound := (hSame indexVar hIndexApart).trans hIndex
  rw [liftM_bind]
  refine Runs.simulates (Runs.collectKey hHeld hShows hFound fun v => ?_)
  cases v.toKey with
  | none => exact Runs.nil ⟨hHeld, Env.SameBut.refl _ left⟩
  | some k =>
      exact Runs.nil ⟨Env.lookup_put_self _ _ _,
        (Env.SameBut.refl _ left).put List.mem_cons_self _⟩

namespace EntityRow

variable {n m : Nat} {entity : EntityRow} {bindings : Bindings}

/-- The round of the loop over related rows puts a row into the group of its key. -/
theorem groupingCode_runs {gs : List (Key × List Datum)} {line : Line} {index : Nat} {p : Prepared}
    (hShows : env.Shows (.temporary "related" (n + 3)) line)
    (hGroups : env.lookup (.temporary "groups" (n + 2)) = some (.groups gs))
    (hIndex : env.lookup (.temporary "key_index" (n + 4)) = some (.index index))
    (hBound : bindings.Hold p env) (hWithin : bindings.Within (n + 7) m) :
    Runs reader db (entity.groupingCode bindings n) env
      (liftM (do
        let key := (← line index).toKey
        let item ← entity.record reader p line
        match key with
        | some k => return Sorted.alter k [] (· ++ [item]) gs
        | none => return gs : Except DataError (List (Key × List Datum))))
      fun gs left => left.lookup (.temporary "groups" (n + 2)) = some (.groups gs) ∧
        env.SameBut [.temporary "groups" (n + 2), .temporary "key" (n + 5),
          .temporary "item" (n + 6)] left := by
  rw [liftM_bind]
  apply Runs.rowKey hShows hIndex
  intro v
  generalize v.toKey = key
  have hKept : bindings.Hold p (env.put (.temporary "key" (n + 5)) (.key key)) :=
    hBound.keep hWithin fun w hw => Env.lookup_put_of_ne env _
      (Var.Between.ne_of_le (Var.between_temporary (Nat.le_refl _) (Nat.lt_succ_self _)) hw
        (by omega)).symm
  rw [liftM_bind]
  apply Runs.convert (hShows.put (by simp)) hKept
  intro item
  let bound : Env := (env.put (.temporary "key" (n + 5)) (.key key)).put
    (.temporary "item" (n + 6)) (.datum item)
  have hKey : bound.lookup (.temporary "key" (n + 5)) = some (.key key) := by
    simp [bound, Env.lookup_put]
  have hHeld : bound.lookup (.temporary "groups" (n + 2)) = some (.groups gs) := by
    simp [bound, Env.lookup_put, hGroups]
  have hSame : env.SameBut [.temporary "groups" (n + 2), .temporary "key" (n + 5),
      .temporary "item" (n + 6)] bound :=
    ((Env.SameBut.refl _ env).put (by simp) _).put (by simp) _
  refine Runs.addToGroup hHeld hKey (Env.lookup_put_self _ _ _) ?_
  cases key with
  | none => exact Runs.nil ⟨hHeld, hSame⟩
  | some k => exact Runs.nil ⟨Env.lookup_put_self _ _ _, hSame.put (by simp) _⟩

/-- What the loop over related rows changes. -/
def groupingVars (n : Nat) : List Var :=
  [.temporary "related" (n + 3), .temporary "groups" (n + 2), .temporary "key" (n + 5),
    .temporary "item" (n + 6)]

theorem between_of_mem_groupingVars {v : Var} (h : v ∈ groupingVars n) :
    v.Between (n + 2) (n + 7) := by
  simp only [groupingVars, List.mem_cons, List.not_mem_nil, or_false] at h
  rcases h with rfl | rfl | rfl | rfl
  all_goals exact Var.between_temporary (by omega) (by omega)

/-- The loop over related rows groups what they become. -/
theorem groupRows_runs {c : Cursor} {index : Nat} {p : Prepared}
    (hCursor : env.lookup (.temporary "related" (n + 3)) = some (.cursor c))
    (hGroups : env.lookup (.temporary "groups" (n + 2)) = some (.groups []))
    (hIndex : env.lookup (.temporary "key_index" (n + 4)) = some (.index index))
    (hBound : bindings.Hold p env) (hWithin : bindings.Within (n + 7) m) :
    Runs reader db [.whileRows (.temporary "related" (n + 3)) (entity.groupingCode bindings n)] env
      (liftM (Line.groups index (entity.record reader p) c.lines)) fun gs left =>
        left.lookup (.temporary "groups" (n + 2)) = some (.groups gs) ∧
          env.SameBut (groupingVars n) left := by
  have hFar : ∀ v ∈ groupingVars n, ¬v.Between (n + 7) m := fun v hv hLater =>
    (between_of_mem_groupingVars hv).ne_of_le hLater (Nat.le_refl _) rfl
  refine Runs.last (Runs.scanRows hCursor hGroups (by simp)
    (fun gs left line hHeld hSame hShows => ?_)
    fun gs left position hFound _ hSame => Runs.nil ⟨hFound, hSame⟩)
  have hFound := (hSame (.temporary "key_index" (n + 4)) (by simp)).trans hIndex
  exact (groupingCode_runs hShows hHeld hFound (hBound.sameBut hWithin hSame hFar)
    hWithin).simulates

section Relation

variable {r : RelationField} {ready : List Stmt}

/-- The code prepares for the rows that were fetched for a relation field. -/
def ReadiesRelated (reader : Reader) (db : Connection) (entity : EntityRow) (bindings : Bindings)
    (ready : List Stmt) (n m : Nat) : Prop :=
  ∀ env related,
    env.lookup (.temporary "related" (n + 3)) = some (.cursor (.snapshot related)) →
    related.position = none →
    Runs reader db ready env (entity.prepared reader db (.snapshot related)) fun p left =>
      bindings.Hold p left ∧ env.SameOutside (n + 7) m left

/-- Related rows are prepared for and grouped. -/
theorem relatedCode_runs {related : Snapshot}
    (hReady : ReadiesRelated reader db entity bindings ready n m)
    (hWithin : bindings.Within (n + 7) m) (hGrows : n + 7 ≤ m)
    (hCursor : env.lookup (.temporary "related" (n + 3)) = some (.cursor (.snapshot related)))
    (hGroups : env.lookup (.temporary "groups" (n + 2)) = some (.groups []))
    (hStart : related.position = none) :
    Runs reader db (entity.relatedCode bindings ready n) env (do
        let keyIndex ← liftM ((Cursor.snapshot related).columnIndex RelationQuery.keyColumn)
        let inner ← entity.prepared reader db (.snapshot related)
        liftM (Line.groups keyIndex (entity.record reader inner) (Cursor.snapshot related).lines))
      fun gs left => left.lookup (.temporary "groups" (n + 2)) = some (.groups gs) ∧
        env.SameOutside (n + 2) m left := by
  apply Runs.keyIndex hCursor
  intro i
  have hPut (v : Var) (hv : v ≠ .temporary "key_index" (n + 4)) :
      (env.put (.temporary "key_index" (n + 4)) (.index i)).lookup v = env.lookup v :=
    Env.lookup_put_of_ne env _ hv
  have hFetched := (hPut (.temporary "related" (n + 3)) (by simp)).trans hCursor
  apply Runs.append (hReady _ related hFetched hStart)
  intro p left hLeft
  obtain ⟨hBound, hSame⟩ := hLeft
  have hOlder (stem : String) (j : Nat) (hj : j < n + 7) :
      left.lookup (.temporary stem j) =
        (env.put (.temporary "key_index" (n + 4)) (.index i)).lookup (.temporary stem j) :=
    hSame.older (Var.older_temporary hj)
  refine (groupRows_runs ((hOlder _ _ (by omega)).trans hFetched)
    ((hOlder _ _ (by omega)).trans ((hPut _ (by simp)).trans hGroups))
    ((hOlder _ _ (by omega)).trans (Env.lookup_put_self _ _ _)) hBound hWithin).mono
    fun gs last hLast => ?_
  obtain ⟨hFound, hChanged⟩ := hLast
  have hIndexed : env.SameOutside (n + 2) m (env.put (.temporary "key_index" (n + 4)) (.index i)) :=
    (Env.SameOutside.refl _ _ env).put (Var.between_temporary (by omega) (by omega)) _
  have hGrouped : left.SameOutside (n + 2) m last :=
    (hChanged.sameOutside fun v => between_of_mem_groupingVars).widen (Nat.le_refl _) hGrows
  exact ⟨hFound, (hIndexed.trans (hSame.widen (by omega) (Nat.le_refl m))).trans hGrouped⟩

/-- Related rows are fetched and grouped; without any there are no groups. -/
theorem fetchingCode_runs {keys : List Key}
    (hReady : ReadiesRelated reader db entity bindings ready n m)
    (hWithin : bindings.Within (n + 7) m) (hGrows : n + 7 ≤ m)
    (hKeys : env.lookup (.temporary "keys" (n + 1)) = some (.keys keys))
    (hGroups : env.lookup (.temporary "groups" (n + 2)) = some (.groups [])) :
    Runs reader db [.fetch (.temporary "related" (n + 3)) (.temporary "keys" (n + 1)) r.query,
        .unlessEmpty (.temporary "related" (n + 3)) (entity.relatedCode bindings ready n)] env (do
        let related ← r.query.fetch db keys
        entity.relatedGroups reader related (entity.prepared reader db (.snapshot related)))
      fun gs left => left.lookup (.temporary "groups" (n + 2)) = some (.groups gs) ∧
        env.SameOutside (n + 2) m left := by
  apply Runs.fetch hKeys
  intro related hStart
  have hFresh : (env.put (.temporary "related" (n + 3)) (.cursor (.snapshot related))).lookup
      (.temporary "groups" (n + 2)) = some (.groups []) := by
    rw [Env.lookup_put_of_ne _ _ (by simp), hGroups]
  have hFetched : env.SameOutside (n + 2) m
      (env.put (.temporary "related" (n + 3)) (.cursor (.snapshot related))) :=
    (Env.SameOutside.refl _ _ env).put (Var.between_temporary (by omega) (by omega)) _
  have hCode := relatedCode_runs hReady hWithin hGrows (Env.lookup_put_self env _ _) hFresh hStart
  have hCode' := hCode.mono fun gs left hLeft => And.intro hLeft.1 (hFetched.trans hLeft.2)
  exact Runs.last (Runs.unlessEmpty (Env.lookup_put_self env _ _) ⟨hFresh, hFetched⟩ hCode'
    fun gs left hLeft => Runs.nil hLeft)

/-- The code of a relation field finds the groups of the field, if the code inside it prepares for
the related rows. -/
theorem relationCode_runs {c : Snapshot}
    (hReady : ReadiesRelated reader db entity bindings ready n m)
    (hWithin : bindings.Within (n + 7) m) (hGrows : n + 7 ≤ m)
    (hCursor : env.lookup cursor = some (.cursor (.snapshot c))) (hStart : c.position = none)
    (hOlder : cursor.Older n) :
    Runs reader db (relationCode cursor r entity bindings ready n) env
      (preparedRelation reader db (.snapshot c) (r, entity)) fun found left =>
        (left.lookup (.temporary "key_index" n) = some (.index found.1) ∧
          left.lookup (.temporary "groups" (n + 2)) = some (.groups found.2)) ∧
        env.SameOutside n m left := by
  have hNew (stem : String) (i : Nat) (hLow : n ≤ i) : cursor ≠ .temporary stem i :=
    hOlder.ne (Var.between_temporary hLow (Nat.lt_succ_self i))
  rw [preparedRelation, relationCode]
  refine Runs.columnIndex hCursor fun index => Runs.set_const rfl ?_
  let bound : Env :=
    (env.put (.temporary "key_index" n) (.index index)).put (.temporary "keys" (n + 1)) (.keys [])
  have hBound : env.SameOutside n m bound :=
    ((Env.SameOutside.refl _ _ env).put (Var.between_temporary (by omega) (by omega)) _).put
      (Var.between_temporary (by omega) (by omega)) _
  have hIndex : bound.lookup (.temporary "key_index" n) = some (.index index) := by
    simp [bound, Env.lookup_put]
  have hIndexApart : Var.temporary "key_index" n ∉ [cursor, .temporary "keys" (n + 1)] := by
    simp [(hNew "key_index" n (Nat.le_refl n)).symm]
  refine Runs.collectKeys ((hBound.older hOlder).trans hCursor) (Env.lookup_put_self _ _ _) hIndex
    (hNew _ _ (by omega)) hIndexApart fun keys left position hKeys hMoved hSame => ?_
  refine Runs.reset hMoved (Runs.set_const rfl ?_)
  -- The cursor is back where it was, so that all changes are among the new temporaries.
  have hBack : (c.seek position).reset = c := by
    rw [Rows.seek, Rows.reset, ← hStart]
  rw [hBack]
  let start : Env :=
    (left.put cursor (.cursor (.snapshot c))).put (.temporary "groups" (n + 2)) (.groups [])
  have hReadyKeys : start.lookup (.temporary "keys" (n + 1)) = some (.keys keys) := by
    rw [Env.lookup_put_of_ne _ _ (by simp),
      Env.lookup_put_of_ne _ _ (hNew _ _ (by omega)).symm, hKeys]
  have hReadyIndex : start.lookup (.temporary "key_index" n) = some (.index index) := by
    rw [Env.lookup_put_of_ne _ _ (by simp),
      Env.lookup_put_of_ne _ _ (hNew _ _ (Nat.le_refl n)).symm, hSame _ hIndexApart, hIndex]
  have hFrame : env.SameOutside n m start := by
    refine Env.SameOutside.put (fun v hv => ?_) (Var.between_temporary (by omega) (by omega)) _
    rw [Env.lookup_put]
    by_cases hBack : v = cursor
    · rw [if_pos hBack, hBack, hCursor]
    · have hKeysApart : v ≠ .temporary "keys" (n + 1) := by
        rintro rfl
        exact hv (Var.between_temporary (by omega) (by omega))
      rw [if_neg hBack, hSame v (by simp [hBack, hKeysApart]), hBound v hv]
  rw [← bind_assoc]
  refine Runs.block (fetchingCode_runs hReady hWithin hGrows hReadyKeys (Env.lookup_put_self _ _ _))
    fun gs last hLast => Runs.nil ?_
  obtain ⟨hFound, hLater⟩ := hLast
  have hKept : ¬(Var.temporary "key_index" n).Between (n + 2) m := fun hBetween =>
    absurd hBetween.1 (by omega)
  exact ⟨⟨(hLater _ hKept).trans hReadyIndex, hFound⟩,
    hFrame.trans (hLater.widen (by omega) (Nat.le_refl m))⟩

end Relation

/-- The columns of all fields are looked up. -/
theorem prepareColumns_runs {c : Cursor} (fields : List ColumnField)
    (hCursor : env.lookup cursor = some (.cursor c)) (hOlder : cursor.Older n) :
    Runs reader db ((prepareColumns cursor fields).run n).1.2 env
      (liftM (fields.mapM fun f => c.columnIndex f.column)) fun columns left =>
        List.Forall₂ (fun v index => left.lookup v = some (.index index))
          ((prepareColumns cursor fields).run n).1.1 columns ∧
        env.SameOutside n ((prepareColumns cursor fields).run n).2 left := by
  induction fields generalizing n env with
  | nil => exact Runs.nil ⟨List.Forall₂.nil, Env.SameOutside.refl _ _ env⟩
  | cons f rest ih =>
      rw [prepareColumns_cons, List.mapM_cons, liftM_bind]
      dsimp only
      apply Runs.columnIndex hCursor
      intro i
      have hNew : (Var.temporary "index" n).Between n (n + 1) :=
        Var.between_temporary (Nat.le_refl n) (Nat.lt_succ_self n)
      have hLeft : (env.put (.temporary "index" n) (.index i)).lookup cursor =
          some (.cursor c) := by
        rw [Env.lookup_put_of_ne _ _ (hOlder.ne hNew), hCursor]
      have hGrows := (prepareColumns_within cursor rest (n + 1)).1
      rw [liftM_bind]
      apply (ih hLeft (hOlder.mono (Nat.le_succ n))).finish
      intro columns left hOthers
      obtain ⟨hColumns, hSame⟩ := hOthers
      refine ⟨List.Forall₂.cons ?_ hColumns, ?_⟩
      · rw [hSame.older (Var.older_temporary (Nat.lt_succ_self n)), Env.lookup_put_self]
      · exact ((Env.SameOutside.refl _ _ env).put (hNew.widen (Nat.le_refl n) hGrows) _).trans
          (hSame.widen (Nat.le_succ n) (Nat.le_refl _))

mutual

/-- The code that prepares a cursor finds what preparation is said to find. A cursor that relation
fields pass over must be a snapshot before its first row. -/
theorem prepare_runs : (e : EntityRow) → (n : Nat) → {env : Env} → {cursor : Var} → {c : Cursor} →
    (hCursor : env.lookup cursor = some (.cursor c)) → (hOlder : cursor.Older n) →
    (hStart : e.relations = [] ∨ ∃ rows, c = .snapshot rows ∧ rows.position = none) →
    Runs reader db ((e.prepare cursor).run n).1.2 env (e.prepared reader db c) fun p left =>
      ((e.prepare cursor).run n).1.1.Hold p left ∧
        env.SameOutside n ((e.prepare cursor).run n).2 left
  | .mk path fields relations, n, env, cursor, c, hCursor, hOlder, hStart => by
      rw [prepare_run, prepared]
      dsimp only
      obtain ⟨hLookups, hWithin⟩ := prepareColumns_within cursor fields n
      have hFetches := (prepareRelations_within cursor relations
        ((prepareColumns cursor fields).run n).2).1
      apply (prepareColumns_runs fields hCursor hOlder).append
      intro columns left hLeft
      obtain ⟨hColumns, hSame⟩ := hLeft
      refine (prepareRelations_runs relations _ ((hSame.older hOlder).trans hCursor)
        (hOlder.mono hLookups) hStart).finish fun found last hLast => ?_
      obtain ⟨hFound, hLater⟩ := hLast
      have hKept := (List.forall₂_and_left _ _).mpr ⟨hWithin, hColumns⟩
      refine ⟨⟨hKept.imp fun v index hIndex => ?_, hFound⟩, ?_⟩
      · exact (hLater v fun hNew => hIndex.1.ne_of_le hNew (Nat.le_refl _) rfl).trans hIndex.2
      · exact (hSame.widen (Nat.le_refl n) hFetches).trans (hLater.widen hLookups (Nat.le_refl _))

theorem prepareRelations_runs : (relations : List (RelationField × EntityRow)) → (n : Nat) →
    {env : Env} → {cursor : Var} → {c : Cursor} →
    (hCursor : env.lookup cursor = some (.cursor c)) → (hOlder : cursor.Older n) →
    (hStart : relations = [] ∨ ∃ rows, c = .snapshot rows ∧ rows.position = none) →
    Runs reader db ((prepareRelations cursor relations).run n).1.2 env
      (preparedRelations reader db c relations) fun found left =>
        List.Forall₂ (fun (r : RelationBinding) found =>
          left.lookup r.keyIndex = some (.index found.1) ∧
            left.lookup r.groups = some (.groups found.2))
          ((prepareRelations cursor relations).run n).1.1 found ∧
        env.SameOutside n ((prepareRelations cursor relations).run n).2 left
  | [], n, env, cursor, c, hCursor, hOlder, hStart => by
      rw [prepareRelations_nil, preparedRelations]
      exact Runs.nil ⟨List.Forall₂.nil, Env.SameOutside.refl _ _ env⟩
  | (r, entity) :: rest, n, env, cursor, c, hCursor, hOlder, hStart => by
      obtain hNone | ⟨rows, rfl, hPosition⟩ := hStart
      · cases hNone
      rw [prepareRelations_cons, preparedRelations]
      dsimp only
      obtain ⟨hInner, hWithin⟩ := prepare_within (.temporary "related" (n + 3)) entity (n + 7)
      have hOuter := (prepareRelations_within cursor rest
        ((entity.prepare (.temporary "related" (n + 3))).run (n + 7)).2).1
      have hReady : ReadiesRelated reader db entity
          ((entity.prepare (.temporary "related" (n + 3))).run (n + 7)).1.1
          ((entity.prepare (.temporary "related" (n + 3))).run (n + 7)).1.2 n
          ((entity.prepare (.temporary "related" (n + 3))).run (n + 7)).2 :=
        fun env related hRelated hFresh => prepare_runs entity (n + 7) hRelated
          (Var.older_temporary (by omega)) (Or.inr ⟨related, rfl, hFresh⟩)
      refine (relationCode_runs hReady hWithin hInner hCursor hPosition hOlder).append
        fun found left hLeft => ?_
      obtain ⟨⟨hIndex, hGroups⟩, hSame⟩ := hLeft
      refine (prepareRelations_runs rest _ ((hSame.older hOlder).trans hCursor)
        (hOlder.mono (by omega)) (Or.inr ⟨rows, rfl, hPosition⟩)).finish fun others last hLast => ?_
      obtain ⟨hOthers, hLater⟩ := hLast
      have hOwn (stem : String) (i : Nat) (hi : i < n + 7) :
          last.lookup (.temporary stem i) = left.lookup (.temporary stem i) :=
        hLater.older (Var.older_temporary (Nat.lt_of_lt_of_le hi hInner))
      refine ⟨List.Forall₂.cons ⟨?_, ?_⟩ hOthers, ?_⟩
      · exact (hOwn _ _ (by omega)).trans hIndex
      · exact (hOwn _ _ (by omega)).trans hGroups
      · exact (hSame.widen (Nat.le_refl n) hOuter).trans (hLater.widen (by omega) (Nat.le_refl _))

end

end EntityRow

end TypedQuery
