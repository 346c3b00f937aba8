import Mathlib.Data.List.TakeWhile
import TypedQuery.Text.Bounds

/-! Sets of characters by their bounds. The search by halving finds the same members as a scan of
the bounds from the first to the last. -/

namespace TypedQuery.Text

/-- Whether a number is at or above an odd number of ascending bounds. -/
def inside : List Nat → Nat → Bool
  | [], _ => false
  | b :: bounds, n => decide (b ≤ n) && !inside bounds n

/-- The number of bounds at or below a number. -/
def rank (bounds : List Nat) (n : Nat) : Nat := (bounds.takeWhile (· ≤ n)).length

theorem inside_eq (bounds : List Nat) (n : Nat) : inside bounds n = (rank bounds n % 2 == 1) := by
  induction bounds with
  | nil => rfl
  | cons b bounds ih =>
      by_cases hBound : b ≤ n
      · have hRank : rank (b :: bounds) n = rank bounds n + 1 := by simp [rank, hBound]
        rcases Nat.mod_two_eq_zero_or_one (rank bounds n) with hEven | hOdd
        · have hNext : (rank bounds n + 1) % 2 = 1 := by omega
          simp [inside, hBound, ih, hRank, hEven, hNext]
        · have hNext : (rank bounds n + 1) % 2 = 0 := by omega
          simp [inside, hBound, ih, hRank, hOdd, hNext]
      · simp [inside, rank, hBound]

/-- A bound is among those that are counted exactly if it is small enough. -/
theorem getElem_le_iff {bounds : List Nat} (hAscending : bounds.Pairwise (· < ·)) (n : Nat)
    {i : Nat} (h : i < bounds.length) : bounds[i] ≤ n ↔ i < rank bounds n := by
  induction bounds generalizing i with
  | nil => cases h
  | cons b bounds ih =>
      obtain ⟨hLeast, hRest⟩ := List.pairwise_cons.mp hAscending
      by_cases hBound : b ≤ n
      · have hRank : rank (b :: bounds) n = rank bounds n + 1 := by simp [rank, hBound]
        cases i with
        | zero => simp [hRank, hBound]
        | succ i => simpa [hRank] using ih hRest (Nat.lt_of_succ_lt_succ h)
      · have hRank : rank (b :: bounds) n = 0 := by simp [rank, hBound]
        have hAbove : n < (b :: bounds)[i] := by
          cases i with
          | zero => exact Nat.lt_of_not_le hBound
          | succ i =>
              have hMem := hLeast _ (List.getElem_mem (Nat.lt_of_succ_lt_succ h))
              simp only [List.getElem_cons_succ]
              omega
        omega

/-- The search keeps the count between the ends of what is left of the bounds. -/
theorem boundsBelow_eq {bounds : Array Nat} {c count low width : Nat}
    (hCount : ∀ i (h : i < bounds.size), bounds[i] ≤ c ↔ i < count) (hLow : low ≤ count)
    (hHigh : count ≤ low + width) (hSize : low + width ≤ bounds.size) :
    boundsBelow bounds c low width = count := by
  fun_induction boundsBelow bounds c low width with
  | case1 low => omega
  | case2 low width hWidth middle hBelow ih =>
      have hMiddle : middle < bounds.size := by omega
      rw [Array.getElem?_eq_getElem hMiddle, Option.any_some, decide_eq_true_eq,
        hCount middle hMiddle] at hBelow
      exact ih (by omega) (by omega) (by omega)
  | case3 low width hWidth middle hAbove ih =>
      have hMiddle : middle < bounds.size := by omega
      rw [Array.getElem?_eq_getElem hMiddle, Option.any_some, decide_eq_true_eq,
        hCount middle hMiddle] at hAbove
      exact ih (by omega) (by omega) (by omega)

theorem within_eq_inside {bounds : Array Nat} (hAscending : bounds.toList.Pairwise (· < ·))
    (c : Char) : within bounds c = inside bounds.toList c.toNat := by
  have hLength : rank bounds.toList c.toNat ≤ bounds.size := by
    rw [← Array.length_toList]
    exact (List.takeWhile_sublist _).length_le
  have hCount : boundsBelow bounds c.toNat 0 bounds.size = rank bounds.toList c.toNat := by
    refine boundsBelow_eq (fun i h => ?_) (Nat.zero_le _) (by omega) (by omega)
    exact getElem_le_iff hAscending c.toNat h
  rw [inside_eq, within, hCount]

/-- Whether ascending spans of numbers, given by their ends, lie inside the bounds. -/
def covers : List Nat → List (Nat × Nat) → Bool
  | a :: b :: bounds, spans => covers bounds (spans.dropWhile fun s => a ≤ s.1 && s.2 < b)
  | _, spans => spans.isEmpty

theorem le_of_inside {a n : Nat} {bounds : List Nat} (hAscending : (a :: bounds).Pairwise (· < ·))
    (h : inside bounds n = true) : a < n := by
  cases bounds with
  | nil => cases h
  | cons b bounds =>
      rw [inside, Bool.and_eq_true, decide_eq_true_eq] at h
      exact Nat.lt_of_lt_of_le ((List.pairwise_cons.mp hAscending).1 b List.mem_cons_self) h.1

theorem inside_of_covers {bounds : List Nat} (hAscending : bounds.Pairwise (· < ·))
    {spans : List (Nat × Nat)} (h : covers bounds spans = true) {span : Nat × Nat}
    (hSpan : span ∈ spans) {n : Nat} (hFirst : span.1 ≤ n) (hLast : n ≤ span.2) :
    inside bounds n = true := by
  fun_induction covers bounds spans with
  | case1 a b bounds spans ih =>
      obtain ⟨hLeast, hRest⟩ := List.pairwise_cons.mp hAscending
      have hUpper := (List.pairwise_cons.mp hRest).2
      rw [← List.takeWhile_append_dropWhile (p := fun s => a ≤ s.1 && s.2 < b) (l := spans),
        List.mem_append] at hSpan
      rcases hSpan with hHere | hLater
      · have hBetween := List.mem_takeWhile_imp hHere
        rw [Bool.and_eq_true, decide_eq_true_eq, decide_eq_true_eq] at hBetween
        have hAbove : a ≤ n := Nat.le_trans hBetween.1 hFirst
        have hBelow : ¬b ≤ n := Nat.not_le.mpr (Nat.lt_of_le_of_lt hLast hBetween.2)
        simp [inside, hAbove, hBelow]
      · have hInside := ih hUpper h hLater
        have hAbove : b < n := le_of_inside hRest hInside
        have hBelow : a < b := hLeast b List.mem_cons_self
        simp [inside, hInside, Nat.le_of_lt (Nat.lt_trans hBelow hAbove)]
  | case2 bounds spans => simp_all

end TypedQuery.Text
