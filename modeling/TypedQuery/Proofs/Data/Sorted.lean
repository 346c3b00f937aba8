import TypedQuery.Data.Sorted
import TypedQuery.Data.Value

namespace TypedQuery

namespace Sorted

open Std

variable {κ : Type} {α : Type} [Ord κ]

/-- The keys are strictly ascending, so that none stands twice. -/
def Ascending (ks : List κ) : Prop := ks.Pairwise (compare · · = .lt)

theorem ascending_nil : Ascending ([] : List κ) := List.Pairwise.nil

theorem ascending_cons {k : κ} {ks : List κ} :
    Ascending (k :: ks) ↔ (∀ x ∈ ks, compare k x = .lt) ∧ Ascending ks := List.pairwise_cons

section Insert

variable [LawfulEqOrd κ]

/-- An insertion adds its key and nothing else. -/
theorem mem_insert {k x : κ} {ks : List κ} :
    x ∈ insert k ks ↔ x = k ∨ x ∈ ks := by
  induction ks with
  | nil => simp [insert]
  | cons head rest ih =>
      unfold insert
      cases hOrder : compare k head with
      | lt => simp
      | eq =>
          have hSame := LawfulEqOrd.compare_eq_iff_eq.mp hOrder
          simp [hSame]
      | gt => simp [ih, or_left_comm]

/-- An insertion keeps the order, and adds no key a second time. -/
theorem Ascending.insert [TransOrd κ] {k : κ} {ks : List κ} (h : Ascending ks) :
    Ascending (Sorted.insert k ks) := by
  induction ks with
  | nil => simp [Sorted.insert, Ascending]
  | cons head rest ih =>
      obtain ⟨hHead, hRest⟩ := ascending_cons.mp h
      unfold Sorted.insert
      cases hOrder : compare k head with
      | lt =>
          refine ascending_cons.mpr ⟨fun x hx => ?_, h⟩
          rcases List.mem_cons.mp hx with rfl | hx
          · exact hOrder
          · exact TransCmp.lt_trans hOrder (hHead x hx)
      | eq => exact h
      | gt =>
          refine ascending_cons.mpr ⟨fun x hx => ?_, ih hRest⟩
          rcases mem_insert.mp hx with rfl | hx
          · exact OrientedCmp.gt_iff_lt.mp hOrder
          · exact hHead x hx

/-- Whatever order keys are inserted in, they are those of the set in the end. -/
theorem mem_foldl_insert {x : κ} {ks seen : List κ} :
    x ∈ ks.foldl (fun seen k => insert k seen) seen ↔ x ∈ seen ∨ x ∈ ks := by
  induction ks generalizing seen with
  | nil => simp
  | cons k rest ih =>
      rw [List.foldl_cons, ih, mem_insert, List.mem_cons, or_assoc]
      exact or_left_comm

theorem Ascending.foldl_insert [TransOrd κ] {ks seen : List κ} (h : Ascending seen) :
    Ascending (ks.foldl (fun seen k => Sorted.insert k seen) seen) := by
  induction ks generalizing seen with
  | nil => exact h
  | cons k rest ih => exact ih h.insert

/-- A set has the keys of the list that it is made of. -/
theorem mem_ofList {x : κ} {ks : List κ} : x ∈ ofList ks ↔ x ∈ ks := by
  simp [ofList, mem_foldl_insert]

/-- A set is ascending, however its list was ordered. -/
theorem ascending_ofList [TransOrd κ] (ks : List κ) : Ascending (ofList ks) :=
  ascending_nil.foldl_insert

/-- No key stands twice in an ascending list. -/
theorem Ascending.nodup {ks : List κ} (h : Ascending ks) : ks.Nodup := by
  refine h.imp fun {a b} hOrder hSame => ?_
  rw [hSame, LawfulEqOrd.compare_eq_iff_eq.mpr rfl] at hOrder
  cases hOrder

end Insert

section Alter

variable {k : κ} {fresh : α} {change : α → α} {entries : List (κ × α)}

/-- The entry with the same key. -/
def entryAt? (k : κ) (entries : List (κ × α)) : Option (κ × α) :=
  entries.find? fun e => compare k e.1 = .eq

/-- An entry that there is keeps its key when its value changes. Where there is none, one is made
with the key of the change. -/
def changed (k : κ) (fresh : α) (change : α → α) : Option (κ × α) → κ × α
  | some (x, a) => (x, change a)
  | none => (k, change fresh)

theorem find?_eq_entryAt? : find? k entries = (entryAt? k entries).map Prod.snd := by
  induction entries with
  | nil => rfl
  | cons entry rest ih =>
      rw [find?, ih, entryAt?, entryAt?, List.find?_cons]
      cases compare k entry.1 <;> rfl

/-- Later keys of an ascending list are other keys. -/
theorem entryAt?_eq_none_of_lt (h : ∀ x ∈ entries.map Prod.fst, compare k x = .lt) :
    entryAt? k entries = none := by
  refine List.find?_eq_none.mpr fun e hEntry => ?_
  rw [h e.1 (List.mem_map_of_mem hEntry)]
  decide

/-- A change adds at most the key that is changed. -/
theorem mem_keys_of_alter {x : κ} (h : x ∈ (alter k fresh change entries).map Prod.fst) :
    x = k ∨ x ∈ entries.map Prod.fst := by
  induction entries with
  | nil => exact Or.inl (List.mem_singleton.mp h)
  | cons entry rest ih =>
      obtain ⟨y, a⟩ := entry
      unfold alter at h
      cases hOrder : compare k y with
      | lt =>
          rw [hOrder] at h
          exact List.mem_cons.mp h
      | eq =>
          rw [hOrder] at h
          exact Or.inr h
      | gt =>
          rw [hOrder] at h
          rcases List.mem_cons.mp h with rfl | hRest
          · exact Or.inr List.mem_cons_self
          · exact (ih hRest).imp_right (List.mem_cons_of_mem y)

variable [TransOrd κ]

/-- Keys that compare as equal have the same entry. -/
theorem entryAt?_congr {j : κ} (h : compare j k = .eq) :
    entryAt? j entries = entryAt? k entries := by
  simp only [entryAt?, TransCmp.congr_left h]

/-- A change is seen under the keys that are the same as its key, and under no other. -/
theorem entryAt?_alter (h : Ascending (entries.map Prod.fst)) (j : κ) :
    entryAt? j (alter k fresh change entries) =
      if compare j k = .eq then some (changed k fresh change (entryAt? k entries))
      else entryAt? j entries := by
  induction entries with
  | nil =>
      simp only [alter, entryAt?, List.find?_cons, List.find?_nil]
      cases compare j k <;> rfl
  | cons entry rest ih =>
      obtain ⟨x, a⟩ := entry
      obtain ⟨hHead, hRest⟩ := ascending_cons.mp h
      unfold alter
      cases hOrder : compare k x with
      | lt =>
          have hLater : entryAt? k ((x, a) :: rest) = none := by
            refine entryAt?_eq_none_of_lt fun y hy => ?_
            rcases List.mem_cons.mp hy with rfl | hy
            · exact hOrder
            · exact TransCmp.lt_trans hOrder (hHead y hy)
          rw [hLater]
          simp only [entryAt?, List.find?_cons]
          cases compare j k <;> rfl
      | eq =>
          simp only [entryAt?, List.find?_cons, hOrder, TransCmp.congr_right hOrder]
          cases compare j x <;> rfl
      | gt =>
          by_cases hFound : compare j x = .eq
          · have hOther : compare j k ≠ .eq := by
              rw [TransCmp.congr_left hFound, OrientedCmp.gt_iff_lt.mp hOrder]
              decide
            simp [entryAt?, hFound, hOther]
          · have hSkip (es : List (κ × α)) : entryAt? j ((x, a) :: es) = entryAt? j es :=
              List.find?_cons_of_neg (by simpa using hFound)
            have hSkipKey : entryAt? k ((x, a) :: rest) = entryAt? k rest :=
              List.find?_cons_of_neg (by simp [hOrder])
            rw [hSkip, hSkip, hSkipKey, ih hRest]

/-- Under its own key a change is seen, on what was there or on a fresh entry. -/
theorem find?_alter_self (h : Ascending (entries.map Prod.fst)) :
    find? k (alter k fresh change entries) = some (change ((find? k entries).getD fresh)) := by
  rw [find?_eq_entryAt?, find?_eq_entryAt?, entryAt?_alter h, if_pos ReflCmp.compare_self]
  cases entryAt? k entries <;> rfl

/-- Under another key nothing changes. -/
theorem find?_alter_of_ne [LawfulEqOrd κ] {j : κ} (h : Ascending (entries.map Prod.fst))
    (hNe : j ≠ k) : find? j (alter k fresh change entries) = find? j entries := by
  rw [find?_eq_entryAt?, find?_eq_entryAt?, entryAt?_alter h,
    if_neg fun hSame => hNe (LawfulEqOrd.eq_of_compare hSame)]

/-- A change keeps the keys in order. -/
theorem ascending_keys_alter (h : Ascending (entries.map Prod.fst)) :
    Ascending ((alter k fresh change entries).map Prod.fst) := by
  induction entries with
  | nil => simp [alter, Ascending]
  | cons entry rest ih =>
      obtain ⟨x, a⟩ := entry
      obtain ⟨hHead, hRest⟩ := ascending_cons.mp h
      unfold alter
      cases hOrder : compare k x with
      | lt =>
          refine ascending_cons.mpr ⟨fun y hy => ?_, h⟩
          rcases List.mem_cons.mp hy with rfl | hy
          · exact hOrder
          · exact TransCmp.lt_trans hOrder (hHead y hy)
      | eq => exact h
      | gt =>
          refine ascending_cons.mpr ⟨fun y hy => ?_, ih hRest⟩
          rcases mem_keys_of_alter hy with rfl | hy
          · exact OrientedCmp.gt_iff_lt.mp hOrder
          · exact hHead y hy

/-- Every entry of an ascending list is found by its key. -/
theorem entryAt?_of_mem {a : α} (h : Ascending (entries.map Prod.fst)) (hMem : (k, a) ∈ entries) :
    entryAt? k entries = some (k, a) := by
  induction entries with
  | nil => cases hMem
  | cons entry rest ih =>
      obtain ⟨x, b⟩ := entry
      obtain ⟨hHead, hRest⟩ := ascending_cons.mp h
      rcases List.mem_cons.mp hMem with hFirst | hLater
      · cases hFirst
        exact List.find?_cons_of_pos (by simp)
      · have hGreater : compare x k = .lt := hHead k (List.mem_map_of_mem hLater)
        have hOther : compare k x = .gt := OrientedCmp.gt_iff_lt.mpr hGreater
        have hSkip : entryAt? k ((x, b) :: rest) = entryAt? k rest :=
          List.find?_cons_of_neg (by simp [hOther])
        rw [hSkip, ih hRest hLater]

/-- After some changes there stands under a key what the changes of this key make, one after the
other. -/
theorem entryAt?_foldl_alter {ρ : Type} {fresh : ρ → α} {change : ρ → α → α}
    {rows : List (κ × ρ)} (h : Ascending (entries.map Prod.fst)) (k : κ) :
    entryAt? k (rows.foldl (fun es row => alter row.1 (fresh row.2) (change row.2) es) entries) =
      (rows.filter fun row => compare k row.1 = .eq).foldl
        (fun found row => some (changed row.1 (fresh row.2) (change row.2) found))
        (entryAt? k entries) := by
  induction rows generalizing entries with
  | nil => rfl
  | cons row rest ih =>
      rw [List.foldl_cons, ih (ascending_keys_alter h), entryAt?_alter h]
      by_cases hSame : compare k row.1 = .eq
      · rw [if_pos hSame, List.filter_cons_of_pos (by simpa using hSame), List.foldl_cons,
          entryAt?_congr hSame]
      · rw [if_neg hSame, List.filter_cons_of_neg (by simpa using hSame)]

/-- The keys stay in order through a change for each of some rows. -/
theorem ascending_foldl_alter {ρ : Type} {fresh : ρ → α} {change : ρ → α → α}
    {rows : List (κ × ρ)} (h : Ascending (entries.map Prod.fst)) :
    Ascending ((rows.foldl (fun es row => alter row.1 (fresh row.2) (change row.2) es)
      entries).map Prod.fst) := by
  induction rows generalizing entries with
  | nil => exact h
  | cons row rest ih => exact ih (ascending_keys_alter h)

end Alter

end Sorted

namespace Key

open Std

/-- Keys of parents are compared as they are. -/
theorem compare_eq_iff_eq {a b : Key} : compare a b = .eq ↔ a = b := by
  cases a <;> cases b <;> simp [compare]

theorem compare_swap (a b : Key) : compare a b = (compare b a).swap := by
  cases a <;> cases b
  all_goals first | exact OrientedOrd.eq_swap | rfl

theorem compare_isLE_trans {a b c : Key} (hab : (compare a b).isLE) (hbc : (compare b c).isLE) :
    (compare a c).isLE := by
  cases a <;> cases b <;> cases c <;> simp only [compare] at *
  all_goals first | exact TransOrd.isLE_trans hab hbc | contradiction | rfl

instance : TransOrd Key where
  eq_swap := compare_swap _ _
  isLE_trans := compare_isLE_trans

instance : LawfulEqOrd Key where
  compare_self := compare_eq_iff_eq.mpr rfl
  eq_of_compare := compare_eq_iff_eq.mp

end Key

end TypedQuery
