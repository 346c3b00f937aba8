import Mathlib.Data.List.Sort
import TypedQuery.Proofs.Text.Bounds
import TypedQuery.Text.Identifier
import TypedQuery.Text.Uppercase

/-! Uppercase identifiers. The uppercase form of an identifier is an identifier again. Beyond ASCII
this is a fact about the tables: the uppercase letters stand in them as spans of numbers, and the
spans lie inside the bounds of identifiers. Different texts may have the same uppercase form, but
not if their characters are recoverable. -/

namespace TypedQuery.Text

/-- The bounds of first characters are in order. -/
theorem ascending_identifierStart : identifierStart.toList.Pairwise (· < ·) :=
  List.isChain_iff_pairwise.mp (by decide +kernel)

theorem ascending_identifierContinue : identifierContinue.toList.Pairwise (· < ·) :=
  List.isChain_iff_pairwise.mp (by decide +kernel)

/-- Bounds of the numbers that are characters. -/
def characters : List Nat := [0, 0xD800, 0xE000, 0x110000]

/-- Numbers of characters are not changed by a passage through characters. -/
theorem toNat_ofNat_of_inside {n : Nat} (h : inside characters n = true) :
    (Char.ofNat n).toNat = n := by
  have hValid : n.isValidChar := by
    simp only [inside, characters, Bool.and_eq_true, Bool.not_eq_true', Bool.and_eq_false_iff,
      Bool.not_eq_false', decide_eq_true_eq, decide_eq_false_iff_not, Bool.false_eq_true,
      or_false] at h
    unfold Nat.isValidChar
    omega
  unfold Char.ofNat
  rw [dif_pos hValid]
  rfl

/-- The search by halving finds what a scan of the bounds finds. -/
theorem isIdentifierStart_of_inside {c : Char} (h : inside identifierStart.toList c.toNat = true) :
    isIdentifierStart c = true := by
  unfold isIdentifierStart
  split
  · rename_i hAscii
    have hTable : ∀ n < 128, inside identifierStart.toList n = true →
        ((Char.ofNat n).isAlpha || Char.ofNat n = '_') = true := by
      decide +kernel
    simpa using hTable c.toNat hAscii h
  · rwa [within_eq_inside ascending_identifierStart]

theorem isIdentifierContinue_of_inside {c : Char}
    (h : inside identifierContinue.toList c.toNat = true) : isIdentifierContinue c = true := by
  unfold isIdentifierContinue
  split
  · rename_i hAscii
    have hTable : ∀ n < 128, inside identifierContinue.toList n = true →
        ((Char.ofNat n).isAlphanum || Char.ofNat n = '_') = true := by
      decide +kernel
    simpa using hTable c.toNat hAscii h
  · rwa [within_eq_inside ascending_identifierContinue]

/-- The first letters of the runs whose uppercase letters are members one by one, but not as a
span. -/
def sparse : List Nat := [8017, 66967]

/-- The first of the letters in circles, which are in no identifier, in lowercase or uppercase. -/
def circled : Nat := 9424

namespace CaseRun

def image (run : CaseRun) (n : Nat) : Nat := (n + run.offset).toNat

/-- Spans with the uppercase letters of a run. -/
def spans (run : CaseRun) : List (Nat × Nat) :=
  if run.first ∈ sparse then
    (List.range ((run.last - run.first) / run.step + 1)).map fun k =>
      (run.image (run.first + run.step * k), run.image (run.first + run.step * k))
  else [(run.image run.first, run.image run.last)]

/-- The uppercase letters of a run lie in the spans of the run. -/
theorem image_mem_spans {run : CaseRun} {n : Nat} (h : run.contains n = true) :
    ∃ span ∈ run.spans, span.1 ≤ run.image n ∧ run.image n ≤ span.2 := by
  simp only [contains, Bool.and_eq_true, decide_eq_true_eq, beq_iff_eq] at h
  obtain ⟨⟨hFirst, hLast⟩, hStep⟩ := h
  unfold spans
  split
  · refine ⟨_, List.mem_map.mpr ⟨(n - run.first) / run.step, ?_, rfl⟩, ?_⟩
    · exact List.mem_range.mpr (Nat.lt_succ_of_le (Nat.div_le_div_right (by omega)))
    · have hLetter : run.first + run.step * ((n - run.first) / run.step) = n := by
        rw [Nat.mul_div_cancel' (Nat.dvd_of_mod_eq_zero hStep)]
        omega
      simp [hLetter]
  · refine ⟨_, List.mem_singleton_self _, ?_, ?_⟩ <;> simp only [image] <;> omega

end CaseRun

def ascendingSpans (spans : List (Nat × Nat)) : List (Nat × Nat) :=
  spans.insertionSort fun a b => a.1 ≤ b.1

/-- Spans with all single uppercase letters that can be in identifiers. -/
def runSpans : List (Nat × Nat) :=
  ascendingSpans ((caseRuns.toList.filter (·.first ≠ circled)).flatMap CaseRun.spans)

/-- Spans with the letters of uppercase forms that are several letters, and with the first ones. -/
def expansionSpans : List (Nat × Nat) :=
  ascendingSpans (caseExpansions.toList.flatMap fun e => e.2.map fun n => (n, n))

def headSpans : List (Nat × Nat) :=
  ascendingSpans (caseExpansions.toList.flatMap fun e => e.2.head?.toList.map fun n => (n, n))

set_option maxRecDepth 4000 in
/-- Uppercase forms that are one letter may stand first in an identifier. -/
theorem runSpans_covered : covers identifierStart.toList runSpans = true ∧
    covers identifierContinue.toList runSpans = true ∧ covers characters runSpans = true := by
  decide +kernel

set_option maxRecDepth 4000 in
/-- Of uppercase forms with several letters the first one may stand first, and all may stand in an
identifier. -/
theorem expansionSpans_covered : covers identifierStart.toList headSpans = true ∧
    covers identifierContinue.toList expansionSpans = true ∧
    covers characters expansionSpans = true := by
  decide +kernel

theorem mem_ascendingSpans {span : Nat × Nat} {spans : List (Nat × Nat)} :
    span ∈ ascendingSpans spans ↔ span ∈ spans :=
  List.mem_insertionSort _

/-- The single uppercase letter of a run outside the circles is in all three tables. -/
theorem inside_image {bounds : List Nat} (hAscending : bounds.Pairwise (· < ·))
    (hCovers : covers bounds runSpans = true) {run : CaseRun} (hRun : run ∈ caseRuns.toList)
    (hCircled : run.first ≠ circled) {n : Nat} (h : run.contains n = true) :
    inside bounds (run.image n) = true := by
  obtain ⟨span, hSpan, hFirst, hLast⟩ := CaseRun.image_mem_spans h
  refine inside_of_covers hAscending hCovers (mem_ascendingSpans.mpr ?_) hFirst hLast
  refine List.mem_flatMap.mpr ⟨run, List.mem_filter.mpr ⟨hRun, ?_⟩, hSpan⟩
  exact decide_eq_true hCircled

/-- A letter of a longer uppercase form is inside of all bounds that cover these forms. -/
theorem inside_of_mem_expansion {bounds : List Nat} (hAscending : bounds.Pairwise (· < ·))
    (hCovers : covers bounds expansionSpans = true) {e : Nat × List Nat}
    (he : e ∈ caseExpansions.toList) {n : Nat} (hn : n ∈ e.2) : inside bounds n = true := by
  have hSpan : (n, n) ∈ expansionSpans :=
    mem_ascendingSpans.mpr (List.mem_flatMap.mpr ⟨e, he, List.mem_map.mpr ⟨n, hn, rfl⟩⟩)
  exact inside_of_covers hAscending hCovers hSpan (Nat.le_refl n) (Nat.le_refl n)

/-- The first letter of a longer uppercase form may stand first in an identifier. -/
theorem inside_head_expansion {e : Nat × List Nat} (he : e ∈ caseExpansions.toList) {n : Nat}
    (hn : e.2.head? = some n) : inside identifierStart.toList n = true := by
  have hSpan : (n, n) ∈ headSpans :=
    mem_ascendingSpans.mpr (List.mem_flatMap.mpr ⟨e, he, by simp [hn]⟩)
  exact inside_of_covers ascending_identifierStart expansionSpans_covered.1 hSpan (Nat.le_refl n)
    (Nat.le_refl n)

/-- The letters in circles start no identifier and are in none. -/
theorem inside_circled {n : Nat} (hFirst : circled ≤ n) (hLast : n ≤ circled + 25) :
    inside identifierStart.toList n = false ∧ inside identifierContinue.toList n = false := by
  -- A bound in front of all others turns the set into its complement.
  have hStart : covers (0 :: identifierStart.toList) [(circled, circled + 25)] = true ∧
      (0 :: identifierStart.toList).IsChain (· < ·) := by
    decide +kernel
  have hContinue : covers (0 :: identifierContinue.toList) [(circled, circled + 25)] = true ∧
      (0 :: identifierContinue.toList).IsChain (· < ·) := by
    decide +kernel
  have hOutside {bounds : List Nat} (h : covers (0 :: bounds) [(circled, circled + 25)] = true ∧
      (0 :: bounds).IsChain (· < ·)) : inside bounds n = false := by
    have hInside := inside_of_covers (List.isChain_iff_pairwise.mp h.2) h.1
      (List.mem_singleton_self _) hFirst hLast
    simpa [inside] using hInside
  exact ⟨hOutside hStart, hOutside hContinue⟩

/-- Beyond ASCII the uppercase form is given by one of the tables, or it is the character. -/
theorem uppercaseChar_cases {c : Char} (h : ¬c.toNat < 128) :
    (∃ e ∈ caseExpansions.toList, uppercaseChar c = e.2.map Char.ofNat) ∨
      (∃ run ∈ caseRuns.toList, run.contains c.toNat = true ∧
        uppercaseChar c = [Char.ofNat (run.image c.toNat)]) ∨
      uppercaseChar c = [c] := by
  unfold uppercaseChar
  rw [if_neg h]
  split
  · rename_i letters hFound
    exact Or.inl ⟨_, Array.mem_toList_iff.mpr (Array.mem_of_find?_eq_some hFound), rfl⟩
  · split
    · rename_i run hFound
      have hRun := Array.mem_of_find?_eq_some hFound
      have hContains := Array.find?_some hFound
      exact Or.inr (Or.inl ⟨run, Array.mem_toList_iff.mpr hRun, hContains, rfl⟩)
    · exact Or.inr (Or.inr rfl)

/-- What is true of all ASCII characters by their numbers. -/
theorem forall_ascii {P : Char → Prop} (h : ∀ n < 128, P (Char.ofNat n)) {c : Char}
    (hAscii : c.toNat < 128) : P c := by
  simpa using h c.toNat hAscii

/-- The uppercase letter of a run is in all three tables, if the run has letters of identifiers. -/
theorem insides_image {c : Char} (hAscii : ¬c.toNat < 128) {run : CaseRun}
    (hRun : run ∈ caseRuns.toList) (hContains : run.contains c.toNat = true)
    (h : isIdentifierStart c = true ∨ isIdentifierContinue c = true) :
    inside identifierStart.toList (run.image c.toNat) = true ∧
      inside identifierContinue.toList (run.image c.toNat) = true ∧
      inside characters (run.image c.toNat) = true := by
  have hCircled : run.first ≠ circled := by
    intro hFirst
    have hTable : ∀ run ∈ caseRuns.toList, run.first = circled → run.last ≤ circled + 25 := by
      decide +kernel
    have hLast := hTable run hRun hFirst
    simp only [CaseRun.contains, Bool.and_eq_true, decide_eq_true_eq] at hContains
    obtain ⟨hStart, hContinue⟩ := inside_circled (hFirst ▸ hContains.1.1)
      (Nat.le_trans hContains.1.2 hLast)
    rw [isIdentifierStart, isIdentifierContinue, if_neg hAscii, if_neg hAscii,
      within_eq_inside ascending_identifierStart, within_eq_inside ascending_identifierContinue,
      hStart, hContinue] at h
    simp at h
  have hCharacters : characters.Pairwise (· < ·) := by decide
  obtain ⟨hStart, hContinue, hValid⟩ := runSpans_covered
  exact ⟨inside_image ascending_identifierStart hStart hRun hCircled hContains,
    inside_image ascending_identifierContinue hContinue hRun hCircled hContains,
    inside_image hCharacters hValid hRun hCircled hContains⟩

theorem isIdentifierContinue_of_mem_expansion {e : Nat × List Nat}
    (he : e ∈ caseExpansions.toList) {n : Nat} (hn : n ∈ e.2) :
    (Char.ofNat n).toNat = n ∧ isIdentifierContinue (Char.ofNat n) = true := by
  obtain ⟨-, hContinue, hValid⟩ := expansionSpans_covered
  have hNumber := toNat_ofNat_of_inside (inside_of_mem_expansion (by decide) hValid he hn)
  refine ⟨hNumber, isIdentifierContinue_of_inside ?_⟩
  rw [hNumber]
  exact inside_of_mem_expansion ascending_identifierContinue hContinue he hn

/-- The uppercase form of a character of an identifier has such characters only. -/
theorem isIdentifierContinue_uppercaseChar {c : Char} (h : isIdentifierContinue c = true) :
    ∀ d ∈ uppercaseChar c, isIdentifierContinue d = true := by
  intro d hd
  by_cases hAscii : c.toNat < 128
  · rw [uppercaseChar, if_pos hAscii, List.mem_singleton] at hd
    subst hd
    exact forall_ascii (P := fun c => isIdentifierContinue c = true →
      isIdentifierContinue c.toUpper = true) (by decide) hAscii h
  · obtain ⟨e, he, hLetters⟩ | ⟨run, hRun, hContains, hLetter⟩ | hSame := uppercaseChar_cases hAscii
    · rw [hLetters] at hd
      obtain ⟨n, hn, rfl⟩ := List.mem_map.mp hd
      exact (isIdentifierContinue_of_mem_expansion he hn).2
    · obtain ⟨-, hContinue, hValid⟩ := insides_image hAscii hRun hContains (Or.inr h)
      rw [hLetter, List.mem_singleton] at hd
      subst hd
      exact isIdentifierContinue_of_inside (by rwa [toNat_ofNat_of_inside hValid])
    · rw [hSame, List.mem_singleton] at hd
      rwa [hd]

/-- The uppercase form of a first character starts with a first character. -/
theorem isIdentifierStart_uppercaseChar {c : Char} (h : isIdentifierStart c = true) :
    ∃ d ds, uppercaseChar c = d :: ds ∧ isIdentifierStart d = true ∧
      ∀ e ∈ ds, isIdentifierContinue e = true := by
  by_cases hAscii : c.toNat < 128
  · refine ⟨c.toUpper, [], by rw [uppercaseChar, if_pos hAscii], ?_, List.forall_mem_nil _⟩
    exact forall_ascii (P := fun c => isIdentifierStart c = true →
      isIdentifierStart c.toUpper = true) (by decide) hAscii h
  · obtain ⟨e, he, hLetters⟩ | ⟨run, hRun, hContains, hLetter⟩ | hSame := uppercaseChar_cases hAscii
    · have hTable : ∀ e ∈ caseExpansions.toList, e.2 ≠ [] := by decide +kernel
      obtain ⟨n, ns, hNumbers⟩ := List.exists_cons_of_ne_nil (hTable e he)
      have hLetter (k : Nat) (hk : k ∈ n :: ns) := isIdentifierContinue_of_mem_expansion he
        (hNumbers ▸ hk)
      refine ⟨Char.ofNat n, ns.map Char.ofNat, by rw [hLetters, hNumbers, List.map_cons], ?_, ?_⟩
      · refine isIdentifierStart_of_inside ?_
        rw [(hLetter n List.mem_cons_self).1]
        exact inside_head_expansion he (by rw [hNumbers, List.head?_cons])
      · refine List.forall_mem_map.mpr fun k hk => (hLetter k (List.mem_cons_of_mem _ hk)).2
    · obtain ⟨hStart, -, hValid⟩ := insides_image hAscii hRun hContains (Or.inl h)
      refine ⟨_, [], hLetter, ?_, List.forall_mem_nil _⟩
      exact isIdentifierStart_of_inside (by rwa [toNat_ofNat_of_inside hValid])
    · exact ⟨c, [], hSame, h, List.forall_mem_nil _⟩

/-- The uppercase form of an identifier is an identifier. -/
theorem isIdentifier_uppercase {s : String} (h : isIdentifier s = true) :
    isIdentifier (uppercase s) = true := by
  unfold isIdentifier at h
  split at h
  · cases h
  · rename_i c rest hChars
    rw [Bool.and_eq_true, List.all_eq_true] at h
    obtain ⟨d, ds, hFirst, hStart, hLetters⟩ := isIdentifierStart_uppercaseChar h.1
    rw [isIdentifier, uppercase, String.toList_ofList, hChars, List.flatMap_cons, hFirst,
      List.cons_append]
    rw [Bool.and_eq_true, List.all_eq_true, List.forall_mem_append]
    refine ⟨hStart, hLetters, fun e he => ?_⟩
    obtain ⟨b, hb, he⟩ := List.mem_flatMap.mp he
    exact isIdentifierContinue_uppercaseChar (h.2 b hb) e he

/-- The character can be read off its uppercase form: it is no capital letter of ASCII, and beyond
ASCII it is its own uppercase form. -/
def IsRecoverable (c : Char) : Prop :=
  if c.toNat < 128 then c.isUpper = false else uppercaseChar c = [c]

instance (c : Char) : Decidable (IsRecoverable c) :=
  inferInstanceAs (Decidable (if c.toNat < 128 then c.isUpper = false else uppercaseChar c = [c]))

/-- The uppercase form of a recoverable character gives it back in lower case. -/
theorem toLower_uppercaseChar {c : Char} (h : IsRecoverable c) :
    (uppercaseChar c).map Char.toLower = [c] := by
  unfold IsRecoverable at h
  split at h
  · rename_i hAscii
    rw [uppercaseChar, if_pos hAscii, List.map_singleton]
    exact congrArg ([·]) (forall_ascii (P := fun c => c.isUpper = false →
      c.toUpper.toLower = c) (by decide) hAscii h)
  · rename_i hAscii
    rw [h, List.map_singleton]
    refine congrArg ([·]) (dif_neg ?_)
    rintro ⟨-, hLast⟩
    have hBelow : c.toNat ≤ 90 := UInt32.le_iff_toNat_le.mp hLast
    omega

/-- Such a text can be read off its uppercase form. -/
theorem toLower_uppercase {s : String} (h : ∀ c ∈ s.toList, IsRecoverable c) :
    (uppercase s).toList.map Char.toLower = s.toList := by
  rw [uppercase, String.toList_ofList]
  generalize s.toList = letters at h
  induction letters with
  | nil => rfl
  | cons c rest ih =>
      rw [List.flatMap_cons, List.map_append, toLower_uppercaseChar (h c List.mem_cons_self),
        ih fun d hd => h d (List.mem_cons_of_mem c hd), List.singleton_append]

/-- Texts of recoverable characters are told apart by their uppercase forms. -/
theorem uppercase_injOn : Set.InjOn uppercase {s | ∀ c ∈ s.toList, IsRecoverable c} := by
  intro s hs t ht h
  rw [← String.toList_inj, ← toLower_uppercase hs, h, toLower_uppercase ht]

end TypedQuery.Text
