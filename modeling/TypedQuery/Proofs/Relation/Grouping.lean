import TypedQuery.Proofs.Data.Sorted
import TypedQuery.Proofs.Meaning.Rows
import TypedQuery.Proofs.Relation.Answers

namespace TypedQuery

namespace Line

variable {line : Line} {lines : List Line} {index : Nat}

theorem key?_of_read {v : Value} (h : line index = .ok v) : line.key? index = v.toKey := by
  rw [key?, h]

/-- The keys of all lines are collected, each once. -/
theorem keys_ok {ks : List Key} (h : keys index lines = .ok ks) :
    Sorted.Ascending ks ∧ ∀ line ∈ lines, ∀ k, line.key? index = some k → k ∈ ks := by
  let Inv (done : List Line) (ks : List Key) : Prop :=
    Sorted.Ascending ks ∧ ∀ line ∈ done, ∀ k, line.key? index = some k → k ∈ ks
  have hInit : Inv [] [] := ⟨Sorted.ascending_nil, fun _ h => nomatch h⟩
  refine foldlM_invariant hInit (fun done line ks next _ hInv hStep => ?_) h
  obtain ⟨hOrder, hSeen⟩ := hInv
  obtain ⟨v, hRead, hNext⟩ := bind_eq_ok_iff.mp hStep
  have hKey := key?_of_read hRead
  cases hValue : v.toKey with
  | none =>
      rw [hValue] at hNext hKey
      obtain rfl := pure_eq_ok_iff.mp hNext
      refine ⟨hOrder, fun other hOther k hFound => ?_⟩
      rcases List.mem_append.mp hOther with hOld | hNew
      · exact hSeen other hOld k hFound
      · rw [List.mem_singleton.mp hNew, hKey] at hFound
        cases hFound
  | some new =>
      rw [hValue] at hNext hKey
      obtain rfl := pure_eq_ok_iff.mp hNext
      refine ⟨hOrder.insert, fun other hOther k hFound => Sorted.mem_insert.mpr ?_⟩
      rcases List.mem_append.mp hOther with hOld | hNew
      · exact Or.inr (hSeen other hOld k hFound)
      · rw [List.mem_singleton.mp hNew, hKey] at hFound
        exact Or.inl (Option.some.inj hFound).symm

/-- The group of a key is what the lines with the key become. -/
theorem groups_ok {convert : Line → Except DataError Datum} {gs : List (Key × List Datum)}
    (h : groups index convert lines = .ok gs) (k : Key) :
    (lines.filter fun line => line.key? index = some k).mapM convert =
      .ok ((Sorted.find? k gs).getD []) := by
  let Inv (done : List Line) (gs : List (Key × List Datum)) : Prop :=
    Sorted.Ascending (gs.map Prod.fst) ∧
      ∀ k, (done.filter fun line => line.key? index = some k).mapM convert =
        .ok ((Sorted.find? k gs).getD [])
  have hInit : Inv [] [] := ⟨Sorted.ascending_nil, fun _ => rfl⟩
  refine (foldlM_invariant hInit (fun done line gs next _ hInv hStep => ?_) h).2 k
  obtain ⟨hOrder, hGroups⟩ := hInv
  obtain ⟨v, hRead, hConverted⟩ := bind_eq_ok_iff.mp hStep
  obtain ⟨item, hItem, hNext⟩ := bind_eq_ok_iff.mp hConverted
  have hKey := key?_of_read hRead
  cases hValue : v.toKey with
  | none =>
      rw [hValue] at hNext hKey
      obtain rfl := pure_eq_ok_iff.mp hNext
      refine ⟨hOrder, fun k => ?_⟩
      rw [List.filter_append, List.filter_singleton, hKey]
      simpa using hGroups k
  | some new =>
      rw [hValue] at hNext hKey
      obtain rfl := pure_eq_ok_iff.mp hNext
      refine ⟨Sorted.ascending_keys_alter hOrder, fun k => ?_⟩
      rw [List.filter_append, List.filter_singleton, hKey]
      by_cases hSame : k = new
      · subst hSame
        rw [Sorted.find?_alter_self hOrder, List.mapM_append, hGroups k]
        simp [hItem, bind, Except.bind, pure, Except.pure]
      · rw [Sorted.find?_alter_of_ne hOrder hSame]
        simpa [Ne.symm hSame] using hGroups k

end Line

end TypedQuery
