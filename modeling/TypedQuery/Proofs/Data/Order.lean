import Mathlib.Order.Compare
import TypedQuery.Data.Datum

/-! The order of the data that can be keys of a map. It is a total preorder on all data: different
kinds come one after the other, and data of one kind are ordered by what they hold. -/

namespace TypedQuery

open Std

/-- A comparison behaves at its first argument as that of a total preorder. -/
structure OrderedAt {α : Type} (cmp : α → α → Ordering) (a : α) : Prop where
  swap : ∀ b, cmp a b = (cmp b a).swap
  congr : ∀ b c, cmp a b = .eq → cmp a c = cmp b c
  lt_trans : ∀ b c, cmp a b = .lt → (cmp b c).isLE → cmp a c = .lt

section OrderedAt

variable {α β : Type} {cmp : α → α → Ordering}

theorem OrderedAt.of_transCmp [TransCmp cmp] (a : α) : OrderedAt cmp a where
  swap _ := OrientedCmp.eq_swap
  congr _ _ := TransCmp.congr_left
  lt_trans _ _ := TransCmp.lt_of_lt_of_isLE

/-- An order is a preorder if it is one around each element. -/
theorem transCmp_of_orderedAt (h : ∀ a, OrderedAt cmp a) : TransCmp cmp where
  eq_swap := (h _).swap _
  isLE_trans {a b c} hab hbc := by
    cases hOrder : cmp a b with
    | lt => rw [(h a).lt_trans b c hOrder hbc, Ordering.isLE_lt]
    | eq => rwa [(h a).congr b c hOrder]
    | gt =>
        rw [hOrder] at hab
        cases hab

/-- Data that are compared by a part are ordered as the part is. -/
theorem OrderedAt.comap {f : β → α} {b : β} (h : OrderedAt cmp (f b)) :
    OrderedAt (fun x y => cmp (f x) (f y)) b :=
  ⟨fun _ => h.swap _, fun _ _ => h.congr _ _, fun _ _ => h.lt_trans _ _⟩

end OrderedAt

namespace Datum

variable {d e : Datum}

/-- Data of different kinds are ordered by their kinds. -/
theorem compare_of_rank_ne (h : d.rank ≠ e.rank) : compare d e = Ord.compare d.rank e.rank := by
  cases d <;> cases e <;> first | rfl | exact absurd rfl h

/-- Data of different kinds are never equal. -/
theorem rank_eq_of_compare (h : compare d e = .eq) : d.rank = e.rank := by
  by_cases hRank : d.rank = e.rank
  · exact hRank
  · rw [compare_of_rank_ne hRank] at h
    exact LawfulEqOrd.compare_eq_iff_eq.mp h

theorem rank_le_of_compare (h : (compare d e).isLE) : d.rank ≤ e.rank := by
  by_cases hRank : d.rank = e.rank
  · exact Nat.le_of_eq hRank
  · rw [compare_of_rank_ne hRank] at h
    exact Nat.isLE_compare.mp h

/-- Data of one kind are ordered if what they hold is. -/
theorem orderedAt_of_kind {α : Type} {cmp : α → α → Ordering} {make : α → Datum} {x : α}
    (hCompare : ∀ x y, compare (make x) (make y) = cmp x y)
    (hKind : ∀ d, d.rank = (make x).rank → ∃ y, d = make y) (h : OrderedAt cmp x) :
    OrderedAt compare (make x) where
  swap d := by
    by_cases hRank : d.rank = (make x).rank
    · obtain ⟨y, rfl⟩ := hKind d hRank
      rw [hCompare, hCompare, h.swap]
    · rw [compare_of_rank_ne hRank, compare_of_rank_ne (Ne.symm hRank)]
      exact OrientedOrd.eq_swap
  congr d e hSame := by
    obtain ⟨y, rfl⟩ := hKind d (rank_eq_of_compare hSame).symm
    by_cases hRank : e.rank = (make x).rank
    · obtain ⟨z, rfl⟩ := hKind e hRank
      rw [hCompare] at hSame
      rw [hCompare, hCompare, h.congr y z hSame]
    · have hOther := rank_eq_of_compare hSame
      rw [compare_of_rank_ne (Ne.symm hRank), compare_of_rank_ne (hOther ▸ Ne.symm hRank), hOther]
  lt_trans d e hLt hLe := by
    have hFirst : (make x).rank ≤ d.rank := rank_le_of_compare (by rw [hLt, Ordering.isLE_lt])
    have hSecond : d.rank ≤ e.rank := rank_le_of_compare hLe
    by_cases hRank : e.rank = (make x).rank
    · obtain ⟨y, rfl⟩ := hKind d (by omega)
      obtain ⟨z, rfl⟩ := hKind e hRank
      rw [hCompare] at hLt hLe ⊢
      exact h.lt_trans y z hLt hLe
    · rw [compare_of_rank_ne (Ne.symm hRank), Nat.compare_eq_lt]
      omega

/-- Data of a kind that holds one thing are ordered as this thing is. -/
theorem orderedAt_of_atom {α : Type} [Ord α] [TransOrd α] {make : α → Datum} (x : α)
    (hCompare : ∀ x y, compare (make x) (make y) = Ord.compare x y)
    (hKind : ∀ d, d.rank = (make x).rank → ∃ y, d = make y) : OrderedAt compare (make x) :=
  orderedAt_of_kind hCompare hKind (.of_transCmp x)

/-- Data of a kind that is not told apart. -/
theorem orderedAt_of_alike {α : Type} {make : α → Datum} (x : α)
    (hCompare : ∀ x y, compare (make x) (make y) = .eq)
    (hKind : ∀ d, d.rank = (make x).rank → ∃ y, d = make y) : OrderedAt compare (make x) :=
  orderedAt_of_kind hCompare hKind ⟨fun _ => rfl, fun _ _ _ => rfl, nofun⟩

/-- Only the values of fields are compared. -/
theorem compareFields_eq (fields others : List (String × Datum)) :
    compareFields fields others = compareList (fields.map (·.2)) (others.map (·.2)) := by
  induction fields generalizing others with
  | nil => cases others <;> rfl
  | cons field rest ih =>
      cases others with
      | nil => rfl
      | cons other others =>
          rw [compareFields, List.map_cons, List.map_cons, compareList, ih]

theorem orderedAt_nil : OrderedAt compareList [] where
  swap es := by cases es <;> rfl
  congr es fs hSame := by
    cases es with
    | nil => rfl
    | cons e es => cases hSame
  lt_trans es fs hLt hLe := by
    cases es with
    | nil => cases hLt
    | cons e es =>
        cases fs with
        | nil => cases hLe
        | cons f fs => rfl

/-- Lists are ordered by their first items that differ. -/
theorem orderedAt_cons {ds : List Datum} (hHead : OrderedAt compare d)
    (hRest : OrderedAt compareList ds) : OrderedAt compareList (d :: ds) where
  swap es := by
    cases es with
    | nil => rfl
    | cons e es => rw [compareList, compareList, Ordering.swap_then, hHead.swap, hRest.swap]
  congr es fs hSame := by
    cases es with
    | nil => cases hSame
    | cons e es =>
        obtain ⟨hFirst, hLater⟩ := Ordering.then_eq_eq.mp hSame
        cases fs with
        | nil => rfl
        | cons f fs =>
            rw [compareList, compareList, hHead.congr e f hFirst, hRest.congr es fs hLater]
  lt_trans es fs hLt hLe := by
    cases es with
    | nil => cases hLt
    | cons e es =>
        cases fs with
        | nil => cases hLe
        | cons f fs =>
            rw [compareList] at hLt hLe ⊢
            rcases Ordering.then_eq_lt.mp hLt with hFirst | ⟨hFirst, hLater⟩
            · have hHeads : (compare e f).isLE := by
                cases hOrder : compare e f with
                | lt | eq => rfl
                | gt =>
                    rw [hOrder] at hLe
                    cases hLe
              rw [hHead.lt_trans e f hFirst hHeads, Ordering.lt_then]
            · rw [hHead.congr e f hFirst]
              cases hOrder : compare e f with
              | lt => rfl
              | eq =>
                  rw [hOrder] at hLe
                  exact hRest.lt_trans es fs hLater hLe
              | gt =>
                  rw [hOrder] at hLe
                  cases hLe

mutual

theorem orderedAt : (d : Datum) → OrderedAt compare d
  | integer n => orderedAt_of_atom n (fun _ _ => rfl) (by rintro ⟨⟩ <;> simp [rank])
  | bool b => orderedAt_of_atom b (fun _ _ => rfl) (by rintro ⟨⟩ <;> simp [rank])
  | real bits => orderedAt_of_atom bits (fun _ _ => rfl) (by rintro ⟨⟩ <;> simp [rank])
  | single bits => orderedAt_of_atom bits (fun _ _ => rfl) (by rintro ⟨⟩ <;> simp [rank])
  | text s => orderedAt_of_atom s (fun _ _ => rfl) (by rintro ⟨⟩ <;> simp [rank])
  | blob bytes => orderedAt_of_atom bytes (fun _ _ => rfl) (by rintro ⟨⟩ <;> simp [rank])
  | count n => orderedAt_of_atom n (fun _ _ => rfl) (by rintro ⟨⟩ <;> simp [rank])
  | absent =>
    @orderedAt_of_alike Unit (fun _ => absent) () (fun _ _ => rfl)
      (by rintro ⟨⟩ <;> simp [rank])
  | entries es => orderedAt_of_alike es (fun _ _ => rfl) (by rintro ⟨⟩ <;> simp [rank])
  | raw rows => orderedAt_of_alike rows (fun _ _ => rfl) (by rintro ⟨⟩ <;> simp [rank])
  | present d =>
    orderedAt_of_kind (fun _ _ => rfl) (by rintro ⟨⟩ <;> simp [rank]) (orderedAt d)
  | list ds =>
    orderedAt_of_kind (fun _ _ => rfl) (by rintro ⟨⟩ <;> simp [rank]) (orderedAt_list ds)
  | record fields =>
    orderedAt_of_kind compareFields_eq (by rintro ⟨⟩ <;> simp [rank])
      (orderedAt_values fields).comap

/-- Lists are compared element by element. -/
theorem orderedAt_list : (ds : List Datum) → OrderedAt compareList ds
  | [] => orderedAt_nil
  | d :: ds => orderedAt_cons (orderedAt d) (orderedAt_list ds)

/-- Structs are compared field by field, without the names. -/
theorem orderedAt_values :
    (fields : List (String × Datum)) → OrderedAt compareList (fields.map (·.2))
  | [] => orderedAt_nil
  | (_, d) :: fields => orderedAt_cons (orderedAt d) (orderedAt_values fields)

end

instance : TransCmp compare := transCmp_of_orderedAt orderedAt

end Datum

end TypedQuery
