import TypedQuery.Proofs.Run.Rows

namespace TypedQuery

open Run

variable {reader : Reader} {db : Connection} {env : Env} {cursor out : Var} {c : Cursor} {n : Nat}

namespace Shape

/-- Whether relation fields may pass over a cursor: it is a snapshot before its first row. -/
def Rewound (c : Cursor) : Prop := ∃ rows, c = .snapshot rows ∧ rows.position = none

/-- The first row is converted after preparation. -/
theorem emitFirst_runs {row : Row} {result : FirstRow}
    (hCursor : env.lookup cursor = some (.cursor c)) (hOlder : cursor.Older n)
    (hStart : row.relations = [] ∨ Rewound c) :
    Runs reader db ((emitFirst row result out cursor).run n).1 env
      (row.prepared reader db c >>= fun p =>
        liftM (Line.first result (row.converter reader p).convert c.lines))
      fun d left => left.lookup out = some (.datum d) := by
  rw [emitFirst_run]
  obtain ⟨-, hWithin⟩ := row.prepare_within cursor n
  apply (row.prepare_runs hCursor hOlder hStart).append
  intro p ready hReady
  obtain ⟨hBound, hSame⟩ := hReady
  refine Runs.last (Runs.firstRow ((hSame.older hOlder).trans hCursor)
    (fun left line hLeft hShows => ?_) fun d left hOut => Runs.nil hOut)
  have hKept := hBound.keep hWithin fun v hv => hLeft v (hOlder.ne hv).symm
  apply (Row.convert_runs hShows hKept (row.prepare_fits cursor n)).mono
  intro d after hAfter
  rw [hAfter, Env.lookup_put_self]

section Rounds

variable {row keyRow : Row} {b keyBindings : Bindings} {p keyPrepared : Prepared} {line : Line}
  {item keyVar valueVar : Var}

/-- The round of a list adds what the current row becomes. -/
theorem pushItem_round {ds : List Datum} (hShows : env.Shows cursor line) (hBound : b.Hold p env)
    (hFits : row.Fits b) (hHeld : env.lookup out = some (.items ds)) (hApart : out ≠ item) :
    Runs reader db ((row.convert? b item cursor).toList ++ [.pushItem out item]) env
      (liftM (do return ds ++ [← (row.converter reader p).convert line] :
        Except DataError (List Datum)))
      fun ds left => left.lookup out = some (.items ds) ∧ env.SameBut [out, item] left := by
  rw [liftM_bind]
  apply (Row.convert_runs hShows hBound hFits).append
  intro d left hLeft
  rw [hLeft]
  have hItems : (env.put item (.datum d)).lookup out = some (.items ds) := by
    rw [Env.lookup_put_of_ne _ _ hApart, hHeld]
  refine Runs.pushItem hItems (Env.lookup_put_self _ _ _) (Runs.nil ⟨Env.lookup_put_self _ _ _, ?_⟩)
  exact ((Env.SameBut.refl _ env).put (by simp) _).put (by simp) _

section Entries

variable {es : List (Datum × Datum)} {k : Datum}

/-- Once the key is bound, the current row is put into the entry of the key. -/
theorem addEntry_runs {s : Stmt} (missing : Datum → Datum) (change : Datum → Datum → Datum)
    (hStmt : stmt reader db s = datum valueVar >>= fun d =>
      alterEntry reader out keyVar (missing d) (change d) >>= fun _ => pure false)
    (hShows : env.Shows cursor line) (hBound : b.Hold p env) (hFits : row.Fits b)
    (hHeld : env.lookup out = some (.entries es)) (hKey : env.lookup keyVar = some (.datum k))
    (hOut : out ≠ valueVar) (hApart : keyVar ≠ valueVar) :
    Runs reader db ((row.convert? b valueVar cursor).toList ++ [s]) env
      (liftM (do
        let v ← (row.converter reader p).convert line
        return reader.alter k (missing v) (change v) es : Except DataError _))
      fun es left => left.lookup out = some (.entries es) ∧
        env.SameBut [out, keyVar, valueVar] left := by
  rw [liftM_bind]
  apply (Row.convert_runs hShows hBound hFits).append
  intro v left hLeft
  subst hLeft
  refine Runs.alter_entry missing change hStmt ?_ ?_ (Env.lookup_put_self _ _ _)
    (Runs.nil ⟨Env.lookup_put_self _ _ _, ?_⟩)
  · rw [Env.lookup_put_of_ne _ _ hOut, hHeld]
  · rw [Env.lookup_put_of_ne _ _ hApart, hKey]
  · exact ((Env.SameBut.refl _ env).put (by simp) _).put (by simp) _

/-- The round of a map inserts the entry of the current row. -/
theorem insertFirst_round (hShows : env.Shows cursor line)
    (hKeyBound : keyBindings.Hold keyPrepared env) (hKeyFits : keyRow.Fits keyBindings)
    (hBound : ∀ k, b.Hold p (env.put keyVar (.datum k))) (hFits : row.Fits b)
    (hHeld : env.lookup out = some (.entries es)) (hCursor : cursor ≠ keyVar)
    (hApart : [out, keyVar, valueVar].Nodup) :
    Simulates (stmts reader db ((keyRow.convert? keyBindings keyVar cursor).toList ++
        ((row.convert? b valueVar cursor).toList ++ [.insertFirst out keyVar valueVar]))) env
      (liftM ((keyRow.converter reader keyPrepared).insertEntry reader (row.converter reader p) es
        line))
      fun es _ left => left.lookup out = some (.entries es) ∧
        env.SameBut [out, keyVar, valueVar] left := by
  simp only [List.nodup_cons, List.mem_cons, List.not_mem_nil, or_false, not_or] at hApart
  obtain ⟨⟨hOutKey, hOutValue⟩, hKeyValue, -⟩ := hApart
  rw [Converter.insertEntry, liftM_bind]
  apply (Row.convert_runs hShows hKeyBound hKeyFits).before
  intro k keyed hKeyed
  subst hKeyed
  have hMap : (env.put keyVar (.datum k)).lookup out = some (.entries es) := by
    rw [Env.lookup_put_of_ne _ _ hOutKey, hHeld]
  refine Simulates.mono (addEntry_runs (fun d => d) (fun _ => id) (by rfl) (hShows.put hCursor)
    (hBound k) hFits hMap (Env.lookup_put_self _ _ _) hOutValue hKeyValue).simulates ?_
  intro es' _ left hLeft
  exact ⟨hLeft.1, ((Env.SameBut.refl _ env).put (by simp) _).trans hLeft.2⟩

/-- The round of a multimap adds the current row to the group of its key. -/
theorem pushEntry_round (hShows : env.Shows cursor line)
    (hKeyBound : keyBindings.Hold keyPrepared env) (hKeyFits : keyRow.Fits keyBindings)
    (hBound : ∀ k, b.Hold p (env.put keyVar (.datum k))) (hFits : row.Fits b)
    (hHeld : env.lookup out = some (.entries es)) (hCursor : cursor ≠ keyVar)
    (hApart : [out, keyVar, valueVar].Nodup) :
    Simulates (stmts reader db ((keyRow.convert? keyBindings keyVar cursor).toList ++
        ((row.nullCheck? b).toList.map (Stmt.skipNulls out keyVar cursor ·) ++
          ((row.convert? b valueVar cursor).toList ++ [.pushEntry out keyVar valueVar])))) env
      (liftM ((keyRow.converter reader keyPrepared).groupEntry reader (row.converter reader p) es
        line))
      fun es _ left => left.lookup out = some (.entries es) ∧
        env.SameBut [out, keyVar, valueVar] left := by
  simp only [List.nodup_cons, List.mem_cons, List.not_mem_nil, or_false, not_or] at hApart
  obtain ⟨⟨hOutKey, hOutValue⟩, hKeyValue, -⟩ := hApart
  rw [Converter.groupEntry, liftM_bind]
  apply (Row.convert_runs hShows hKeyBound hKeyFits).before
  intro k keyed hKeyed
  subst hKeyed
  have hMap : (env.put keyVar (.datum k)).lookup out = some (.entries es) := by
    rw [Env.lookup_put_of_ne _ _ hOutKey, hHeld]
  have hKeyChanged : env.SameBut [out, keyVar, valueVar] (env.put keyVar (.datum k)) :=
    (Env.SameBut.refl _ env).put (by simp) _
  refine Row.simulates_skipNulls (hShows.put hCursor) (hBound k) hFits (Env.lookup_put_self _ _ _)
    hMap ⟨Env.lookup_put_self _ _ _, hKeyChanged.put List.mem_cons_self _⟩ ?_
  refine Simulates.mono (addEntry_runs (fun _ => .list []) appendItem (by rfl) (hShows.put hCursor)
    (hBound k) hFits hMap (Env.lookup_put_self _ _ _) hOutValue hKeyValue).simulates ?_
  intro es' _ left hLeft
  exact ⟨hLeft.1, hKeyChanged.trans hLeft.2⟩

end Entries

/-- The loop of a map scans the lines for its entries. -/
theorem entryLoop_runs {m : Nat} {kind : MapKind} (isMulti : Bool)
    (hKeyBound : keyBindings.Hold keyPrepared env) (hKeyWithin : keyBindings.Within n m)
    (hKeyFits : keyRow.Fits keyBindings) (hBound : b.Hold p env) (hWithin : b.Within n m)
    (hFits : row.Fits b) (hCursor : env.lookup cursor = some (.cursor c)) (hOlder : cursor.Older n)
    (hOut : out.Older n) (hApart : cursor ≠ out) (hGrows : n ≤ m) :
    Runs reader db [.newMap out kind, .whileRows cursor
        ((keyRow.convert? keyBindings (.temporary "key" m) cursor).toList ++
          (if isMulti then
            (row.nullCheck? b).toList.map (Stmt.skipNulls out (.temporary "key" m) cursor ·)
          else []) ++
          (row.convert? b (.temporary "value" (m + 1)) cursor).toList ++
          [if isMulti then Stmt.pushEntry out (.temporary "key" m) (.temporary "value" (m + 1))
            else .insertFirst out (.temporary "key" m) (.temporary "value" (m + 1))])] env
      (liftM (c.lines.foldlM (if isMulti then
          (keyRow.converter reader keyPrepared).groupEntry reader (row.converter reader p)
        else (keyRow.converter reader keyPrepared).insertEntry reader (row.converter reader p)) []))
      fun es left => left.lookup out = some (.entries es) := by
  have hKey : (Var.temporary "key" m).Between m (m + 2) :=
    Var.between_temporary (Nat.le_refl m) (by omega)
  have hValue : (Var.temporary "value" (m + 1)).Between m (m + 2) :=
    Var.between_temporary (Nat.le_succ m) (by omega)
  have hCursorFar : cursor ∉ [out, .temporary "key" m, .temporary "value" (m + 1)] := by
    simp [hApart, (hOlder.mono hGrows).ne hKey, (hOlder.mono hGrows).ne hValue]
  have hNodup : [out, .temporary "key" m, .temporary "value" (m + 1)].Nodup := by
    simp [(hOut.mono hGrows).ne hKey, (hOut.mono hGrows).ne hValue]
  have hFar : ∀ v ∈ [cursor, out, .temporary "key" m, .temporary "value" (m + 1)],
      ¬v.Between n m := by
    simp only [List.forall_mem_cons]
    exact ⟨hOlder.not_between, hOut.not_between, fun h => h.ne_of_le hKey (Nat.le_refl m) rfl,
      fun h => h.ne_of_le hValue (Nat.le_refl m) rfl, fun v hv => nomatch hv⟩
  refine Runs.set_const rfl ?_
  have hOpen : (env.put out (.entries [])).lookup cursor = some (.cursor c) := by
    rw [Env.lookup_put_of_ne _ _ hApart, hCursor]
  refine Runs.last (Runs.scanRows hOpen (Env.lookup_put_self _ _ _) hCursorFar
    (fun es left line hHeld hKept hShows => ?_) fun es left position hFound _ _ => Runs.nil hFound)
  have hKept' : env.SameBut [cursor, out, .temporary "key" m, .temporary "value" (m + 1)] left :=
    ((Env.SameBut.refl _ env).put (by simp) _).trans hKept
  have hKeyBound' := hKeyBound.sameBut hKeyWithin hKept' hFar
  have hBound' (k : Datum) : b.Hold p (left.put (.temporary "key" m) (.datum k)) :=
    hBound.sameBut hWithin (hKept'.put (by simp) _) hFar
  rw [List.append_assoc, List.append_assoc]
  cases isMulti with
  | false =>
      exact insertFirst_round hShows hKeyBound' hKeyFits hBound' hFits hHeld
        ((hOlder.mono hGrows).ne hKey) hNodup
  | true =>
      exact pushEntry_round hShows hKeyBound' hKeyFits hBound' hFits hHeld
        ((hOlder.mono hGrows).ne hKey) hNodup

end Rounds

/-- All rows are converted after preparation. -/
theorem emitList_runs {row : Row} (hCursor : env.lookup cursor = some (.cursor c))
    (hOlder : cursor.Older n) (hOut : out.Older n) (hApart : cursor ≠ out)
    (hStart : row.relations = [] ∨ Rewound c) :
    Runs reader db ((emitList row out cursor).run n).1 env
      (row.prepared reader db c >>= fun p =>
        liftM (c.lines.mapM (row.converter reader p).convert))
      fun ds left => left.lookup out = some (.items ds) := by
  rw [emitList_run]
  dsimp only
  obtain ⟨hGrows, hWithin⟩ := row.prepare_within cursor n
  have hItem : (Var.temporary "item" ((row.prepare cursor).run n).2).Between
      ((row.prepare cursor).run n).2 (((row.prepare cursor).run n).2 + 1) :=
    Var.between_temporary (Nat.le_refl _) (Nat.lt_succ_self _)
  have hFar : ∀ v ∈ [cursor, out, .temporary "item" ((row.prepare cursor).run n).2],
      ¬v.Between n ((row.prepare cursor).run n).2 := by
    simp only [List.forall_mem_cons]
    exact ⟨hOlder.not_between, hOut.not_between,
      fun h => h.ne_of_le hItem (Nat.le_refl _) rfl, fun v hv => nomatch hv⟩
  refine (row.prepare_runs hCursor hOlder hStart).append fun p ready hReady => Runs.set_const rfl ?_
  obtain ⟨hBound, hSame⟩ := hReady
  have hOpen : (ready.put out (.items [])).lookup cursor = some (.cursor c) := by
    rw [Env.lookup_put_of_ne _ _ hApart, hSame.older hOlder, hCursor]
  have hScan := foldlM_collect (f := (row.converter reader p).convert) c.lines []
  simp only [List.nil_append, bind_pure] at hScan
  rw [← hScan]
  have hCursorFar : cursor ∉ [out, .temporary "item" ((row.prepare cursor).run n).2] := by
    simp [hApart, (hOlder.mono hGrows).ne hItem]
  refine Runs.last (Runs.scanRows hOpen (Env.lookup_put_self _ _ _) hCursorFar
    (fun ds left line hHeld hKept hShows => ?_) fun ds left position hFound _ _ => Runs.nil hFound)
  have hKept' :
      ready.SameBut [cursor, out, .temporary "item" ((row.prepare cursor).run n).2] left :=
    ((Env.SameBut.refl _ ready).put (by simp) _).trans hKept
  exact (pushItem_round hShows (hBound.sameBut hWithin hKept' hFar)
    (row.prepare_fits cursor n) hHeld
    ((hOut.mono hGrows).ne hItem)).simulates

/-- All rows become entries after preparation for keys and values. -/
theorem emitMap_runs {kind : MapKind} {keyRow row : Row} (isMulti : Bool)
    (hCursor : env.lookup cursor = some (.cursor c)) (hOlder : cursor.Older n)
    (hOut : out.Older n) (hApart : cursor ≠ out) (hKeyStart : keyRow.relations = [] ∨ Rewound c)
    (hStart : row.relations = [] ∨ Rewound c) :
    Runs reader db ((emitMap kind keyRow row isMulti out cursor).run n).1 env
      (keyRow.prepared reader db c >>= fun keyPrepared => row.prepared reader db c >>= fun p =>
        liftM (c.lines.foldlM (if isMulti then
            (keyRow.converter reader keyPrepared).groupEntry reader (row.converter reader p)
          else
            (keyRow.converter reader keyPrepared).insertEntry reader (row.converter reader p)) []))
      fun es left => left.lookup out = some (.entries es) := by
  rw [emitMap_run]
  dsimp only
  obtain ⟨hKeyGrows, hKeyWithin⟩ := keyRow.prepare_within cursor n
  obtain ⟨hGrows, hWithin⟩ :=
    row.prepare_within cursor ((keyRow.prepare cursor).run n).2
  rw [List.append_assoc]
  apply (keyRow.prepare_runs hCursor hOlder hKeyStart).append
  intro keyPrepared keyed hKeyed
  obtain ⟨hKeyBound, hKeySame⟩ := hKeyed
  have hKeyCursor := (hKeySame.older hOlder).trans hCursor
  refine (row.prepare_runs hKeyCursor (hOlder.mono hKeyGrows) hStart).append
    fun p ready hReady => ?_
  obtain ⟨hBound, hSame⟩ := hReady
  have hKeyBound' := hKeyBound.keep hKeyWithin fun v hv =>
    hSame v fun hLater => hv.ne_of_le hLater (Nat.le_refl _) rfl
  exact entryLoop_runs isMulti hKeyBound' (hKeyWithin.widen (Nat.le_refl n) hGrows)
    (keyRow.prepare_fits cursor n) hBound (hWithin.widen hKeyGrows (Nat.le_refl _))
    (row.prepare_fits cursor _)
    ((hSame.older (hOlder.mono hKeyGrows)).trans hKeyCursor) hOlder hOut hApart
    (Nat.le_trans hKeyGrows hGrows)

end Shape

end TypedQuery
