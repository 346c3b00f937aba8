import TypedQuery.Proofs.Calls.Planned
import TypedQuery.Proofs.Data.Order
import TypedQuery.Proofs.Meaning.Entries

namespace TypedQuery

/-- After preparation the rows without a value are known. -/
theorem Shape.preparation_tests {reader : Reader} {db : Connection} {answer : Source} {s : Shape}
    {value : Row} (hValue : s.row? = some value) :
    (s.preparation reader db answer).Ensures fun ready => ready.2.2.Tests value ready.1 := by
  rw [preparation, hValue]
  refine Session.ensures_liftM.bind fun c _ => ?_
  have hKeys : (Row.converter? reader db c s.key?).Ensures fun _ => True :=
    fun _ _ _ _ => trivial
  have hValues : (Row.converter? reader db c (some value)).Ensures fun v => v.Tests value c :=
    (Row.prepared_tests value).bind fun p hTests => Session.Ensures.pure hTests
  exact hKeys.bind fun k _ => hValues.bind fun v hTests => Session.Ensures.pure hTests

namespace QueryDeclaration

variable {q : QueryDeclaration} {reader : Reader} {db : Connection} {args : List (String × Value)}
  {values : List Value} {shape : Shape} {key value : Row}

theorem ready_tests (hValue : shape.row? = some value) :
    (q.ready shape reader db values).Ensures fun ready => ready.2.2.Tests value ready.1 :=
  (db.query_ensures _ _).bind fun _ _ => Shape.preparation_tests hValue

/-- A function has a result exactly if it gets ready and the result can be assembled. -/
theorem outcomeAfter_eq_ok_iff (hShape : Prepares shape) (hArgs : q.values? args = some values)
    (earlier : List Call) {d : Datum} :
    ((q.body shape).outcomeAfter reader db args earlier).1 = .ok d ↔
      ∃ c k v, ((q.ready shape reader db values).after earlier).1 = .ok (c, k, v) ∧
        shape.assemble reader k v c = .ok d := by
  rw [outcomeAfter_of_ready hShape hArgs]
  rcases (q.ready shape reader db values).after earlier with ⟨e | ⟨c, k, v⟩, sent⟩
  · simp
  · dsimp only
    rw [mapError_eq_ok_iff]
    constructor
    · exact fun hEnd => ⟨c, k, v, rfl, hEnd⟩
    · rintro ⟨c, k, v, ⟨⟩, hEnd⟩
      exact hEnd

/-- A result that is assembled of entries of all lines. -/
theorem result_of_entries {ρ : Type} {R : Cursor → Converter → Converter → Line → Datum × ρ → Prop}
    {entries : List (Datum × ρ) → List (Datum × Datum)}
    {Holds : List (Datum × ρ) → List (Datum × Datum) → Prop}
    (hShape : Prepares shape) (hArgs : q.values? args = some values) (earlier : List Call)
    (hReady : (q.ready shape reader db values).Ensures fun ready =>
      ready.2.2.Tests value ready.1)
    (hAssemble : ∀ {c k v d}, v.Tests value c → (shape.assemble reader k v c = .ok d ↔
      ∃ rows, List.Forall₂ (R c k v) c.lines rows ∧ d = .entries (entries rows)))
    (hHolds : ∀ {rows}, Holds rows (entries rows)) :
    let result := ((q.body shape).outcomeAfter reader db args earlier).1
    let ready := ((q.ready shape reader db values).after earlier).1
    ((∃ d, result = .ok d) ↔ ∃ c k v rows, ready = .ok (c, k, v) ∧
        List.Forall₂ (R c k v) c.lines rows) ∧
      ∀ c k v rows, ready = .ok (c, k, v) → List.Forall₂ (R c k v) c.lines rows →
        ∃ es, result = .ok (.entries es) ∧ Holds rows es := by
  intro result ready
  have hTests {c : Cursor} {k v : Converter} (h : ready = .ok (c, k, v)) : v.Tests value c :=
    hReady earlier (c, k, v) ((q.ready shape reader db values).after earlier).2 (Prod.ext h rfl)
  have hResult (c : Cursor) (k v : Converter) (rows : List (Datum × ρ))
      (h : ready = .ok (c, k, v)) (hRows : List.Forall₂ (R c k v) c.lines rows) :
      ∃ es, result = .ok (.entries es) ∧ Holds rows es := by
    refine ⟨entries rows, (outcomeAfter_eq_ok_iff hShape hArgs earlier).mpr ⟨c, k, v, h, ?_⟩,
      hHolds⟩
    exact (hAssemble (hTests h)).mpr ⟨rows, hRows, rfl⟩
  refine ⟨⟨?_, ?_⟩, hResult⟩
  · rintro ⟨d, hDone⟩
    obtain ⟨c, k, v, h, hEnd⟩ := (outcomeAfter_eq_ok_iff hShape hArgs earlier).mp hDone
    obtain ⟨rows, hRows, -⟩ := (hAssemble (hTests h)).mp hEnd
    exact ⟨c, k, v, rows, h, hRows⟩
  · rintro ⟨c, k, v, rows, h, hRows⟩
    obtain ⟨es, hDone, -⟩ := hResult c k v rows h hRows
    exact ⟨_, hDone⟩

/-- The function of a map has a result exactly if it gets ready and every row has a key and a value,
and then each key has the value of its first row. The function of a multimap has one exactly if it
gets ready and every row has a key, and a value or none, and then each key has the values of its
rows that have one, in the order of the rows. All of this holds for any order of the keys, also for
one under which keys are the same that do not hold the same. -/
theorem maps_group_rows (kind : MapKind) (hPlain : key.relations = [])
    (hOrder : Std.TransCmp reader.keyOrder.compare) (hArgs : q.values? args = some values)
    (earlier : List Call) :
    let result (shape : Shape) := ((q.body shape).outcomeAfter reader db args earlier).1
    let ready (shape : Shape) := ((q.ready shape reader db values).after earlier).1
    let map := Shape.map kind key value
    let multimap := Shape.multimap kind key value
    (((∃ d, result map = .ok d) ↔ ∃ c k v rows, ready map = .ok (c, k, v) ∧
        List.Forall₂ (MapRow k v) c.lines rows) ∧
      ∀ c k v rows, ready map = .ok (c, k, v) → List.Forall₂ (MapRow k v) c.lines rows →
        ∃ es, result map = .ok (.entries es) ∧ KeepsFirst reader.keyOrder rows es) ∧
    ((∃ d, result multimap = .ok d) ↔ ∃ c k v rows, ready multimap = .ok (c, k, v) ∧
        List.Forall₂ (GroupRow value c k v) c.lines rows) ∧
      ∀ c k v rows, ready multimap = .ok (c, k, v) →
        List.Forall₂ (GroupRow value c k v) c.lines rows →
          ∃ es, result multimap = .ok (.entries es) ∧ GroupsAll reader.keyOrder rows es := by
  intro result ready map multimap
  have hShape (s : Shape) (hKey : s.key? = some key) : Prepares s :=
    prepares_of_plain_key fun row hRow => by
      rw [hKey] at hRow
      rwa [← Option.some.inj hRow]
  constructor
  · exact result_of_entries (R := fun _ => MapRow) (hShape map rfl) hArgs earlier
      (ready_tests rfl) (fun _ => Shape.assemble_map_eq_ok_iff) (keepsFirst_entriesOf hOrder)
  · exact result_of_entries (R := GroupRow value) (hShape multimap rfl) hArgs earlier
      (ready_tests rfl) Shape.assemble_multimap_eq_ok_iff (groupsAll_entriesOf hOrder)

set_option maxRecDepth 20000 in
/-- The titles of three books by their authors, two of whom are the same. With an order under which
all numbers are the same there is one group, under the first number. -/
theorem titles_grouped_by_author :
    let key := Row.scalar (.named "i64") (some RelationQuery.keyColumn)
    let value := Row.scalar (.named "String") (some "title")
    let db : Connection := ⟨fun _ _ => .ok Example.bookRows, Example.placeholder⟩
    let coarse : Reader := ⟨Reader.standard.read, ⟨compareOn Datum.rank⟩⟩
    let result (reader : Reader) (shape : Shape) :=
      ((Example.authors.body shape).outcomeAfter reader db [] []).1
    let firsts := [(Datum.integer 1, Datum.text "Walden"), (.integer 2, .text "Emma")]
    let groups := [(Datum.integer 1, Datum.list [.text "Walden", .text "Cape Cod"]),
      (.integer 2, .list [.text "Emma"])]
    let all := [(Datum.integer 1, Datum.list [.text "Walden", .text "Emma", .text "Cape Cod"])]
    (result .standard (.map .ordered key value) = .ok (.entries firsts) ∧
      ∃ rows, KeepsFirst ⟨Datum.compare⟩ rows firsts) ∧
    (result .standard (.multimap .hash key value) = .ok (.entries groups) ∧
      ∃ rows, GroupsAll ⟨Datum.compare⟩ rows groups) ∧
    result coarse (.multimap .hash key value) = .ok (.entries all) ∧
      ∃ rows, GroupsAll ⟨compareOn Datum.rank⟩ rows all := by
  intro key value db coarse result firsts groups all
  have hPlain : key.relations = [] := rfl
  have hArgs : Example.authors.values? [] = some [] := rfl
  have hOrder : Std.TransCmp Reader.standard.keyOrder.compare :=
    inferInstanceAs (Std.TransCmp Datum.compare)
  have hCoarse : Std.TransCmp coarse.keyOrder.compare :=
    inferInstanceAs (Std.TransCmp (compareOn Datum.rank))
  have hMap : result .standard (.map .ordered key value) = .ok (.entries firsts) := by
    with_unfolding_all rfl
  have hGroups : result .standard (.multimap .hash key value) = .ok (.entries groups) := by
    with_unfolding_all rfl
  have hAll : result coarse (.multimap .hash key value) = .ok (.entries all) := by
    with_unfolding_all rfl
  obtain ⟨⟨hMapIff, hMapRows⟩, -, -⟩ := @maps_group_rows Example.authors Reader.standard db [] []
    key value .ordered hPlain hOrder hArgs []
  obtain ⟨-, hGroupIff, hGroupRows⟩ := @maps_group_rows Example.authors Reader.standard db [] [] key
    value .hash hPlain hOrder hArgs []
  obtain ⟨-, hAllIff, hAllRows⟩ := @maps_group_rows Example.authors coarse db [] [] key
    value .hash hPlain hCoarse hArgs []
  refine ⟨⟨hMap, ?_⟩, ⟨hGroups, ?_⟩, hAll, ?_⟩
  · obtain ⟨c, k, v, rows, hReady, hRows⟩ := hMapIff.mp ⟨_, hMap⟩
    obtain ⟨es, hEntries, hKeeps⟩ := hMapRows c k v rows hReady hRows
    obtain rfl : firsts = es := by injection hMap.symm.trans hEntries with hSame; injection hSame
    exact ⟨rows, hKeeps⟩
  · obtain ⟨c, k, v, rows, hReady, hRows⟩ := hGroupIff.mp ⟨_, hGroups⟩
    obtain ⟨es, hEntries, hHolds⟩ := hGroupRows c k v rows hReady hRows
    obtain rfl : groups = es := by
      injection hGroups.symm.trans hEntries with hSame
      injection hSame
    exact ⟨rows, hHolds⟩
  · obtain ⟨c, k, v, rows, hReady, hRows⟩ := hAllIff.mp ⟨_, hAll⟩
    obtain ⟨es, hEntries, hHolds⟩ := hAllRows c k v rows hReady hRows
    obtain rfl : all = es := by injection hAll.symm.trans hEntries with hSame; injection hSame
    exact ⟨rows, hHolds⟩

end QueryDeclaration

end TypedQuery
