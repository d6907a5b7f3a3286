import Mathlib.Data.List.Chain
import Mathlib.Data.Nat.Bitwise
import Componentry.Text.Identifier
import Componentry.Text.Normal

/-!
# What the character tables agree on

Normal forms and identifiers are given by tables of code points. This module states what the tables
have to do with each other: identifier characters stand for identifier characters and are composed
to such.

The tables are long, so a set of code points is compared with another as a number with a bit for
each member. This is only a way to evaluate the tables; every fact is about the lookups themselves.
-/

namespace Componentry.Text

/-! ## Sets of code points as numbers -/

/-- The code points of an inclusive range. -/
def rangeBits (low high : Nat) : Nat := (1 <<< (high + 1 - low) - 1) <<< low

/-- The code points of some ranges. -/
def bits (ranges : List (Nat × Nat)) : Nat :=
  ranges.foldl (fun set range => set ||| rangeBits range.1 range.2) 0

theorem testBit_rangeBits (low high n : Nat) :
    (rangeBits low high).testBit n = true ↔ low ≤ n ∧ n ≤ high := by
  simp only [rangeBits, Nat.one_shiftLeft, Nat.testBit_shiftLeft, Nat.testBit_two_pow_sub_one,
    Bool.and_eq_true, decide_eq_true_eq]
  omega

theorem testBit_bits (ranges : List (Nat × Nat)) (n : Nat) :
    (bits ranges).testBit n = true ↔ ∃ range ∈ ranges, range.1 ≤ n ∧ n ≤ range.2 := by
  have hfrom (set : Nat) :
      (ranges.foldl (fun set range => set ||| rangeBits range.1 range.2) set).testBit n = true ↔
        set.testBit n = true ∨ ∃ range ∈ ranges, range.1 ≤ n ∧ n ≤ range.2 := by
    induction ranges generalizing set with
    | nil => simp
    | cons range ranges ih =>
      rw [List.foldl_cons, ih, Nat.testBit_or, Bool.or_eq_true, testBit_rangeBits, or_assoc]
      simp
  rw [bits, hfrom, Nat.zero_testBit]
  simp

/-- Whether a set meets that of one code point. To evaluate this takes smaller numbers than to shift
the set, as long as the code point is small. -/
def meets (set n : Nat) : Bool := set &&& 1 <<< n != 0

theorem testBit_eq_meets : Nat.testBit = meets := by
  funext set n
  rw [meets, Nat.one_shiftLeft, Nat.and_two_pow]
  cases set.testBit n <;> simp

/-- Whether all of a run have a property, which counts from the code point of the first. -/
def allFrom {α : Type} (p : Nat → α → Bool) (n : Nat) : List α → Bool
  | [] => true
  | a :: rest => p n a && allFrom p (n + 1) rest

/-- To look at the rows of a table means to look at its runs. -/
theorem all_rowsOf {α : Type} (runs : List (Nat × List α)) (p : Nat × α → Bool) :
    (rowsOf runs).all p = runs.all fun run => allFrom (fun n a => p (n, a)) run.1 run.2 := by
  have hrun (n : Nat) (as : List α) :
      ((as.zipIdx n).map Prod.swap).all p = allFrom (fun n a => p (n, a)) n as := by
    induction as generalizing n with
    | nil => rfl
    | cons a rest ih => rw [List.zipIdx_cons, List.map_cons, List.all_cons, ih]; rfl
  rw [rowsOf, List.all_flatMap]
  exact congrArg _ (funext fun run => hrun run.1 run.2)

/-- Sets without a common bit have no common member. -/
theorem not_testBit_of_and {s t n : Nat} (hand : s &&& t = 0) (hs : s.testBit n = true) :
    t.testBit n = false := by
  have hn := congrArg (·.testBit n) hand
  simpa [Nat.testBit_and, hs] using hn

/-- A range of which another follows. -/
def Precedes (r s : Nat × Nat) : Prop := r.1 ≤ r.2 ∧ r.2 < s.1

instance (r s : Nat × Nat) : Decidable (Precedes r s) := inferInstanceAs (Decidable (_ ∧ _))

instance : Trans Precedes Precedes Precedes where
  trans := by
    intro r s t hrs hst
    exact ⟨hrs.1, by unfold Precedes at hrs hst; omega⟩

theorem pairwise_of_all {α : Type} {R : α → α → Prop} [Trans R R R] [DecidableRel R] {l : List α}
    (h : ((l.zip l.tail).all fun p => R p.1 p.2) = true) : l.Pairwise R := by
  apply List.IsChain.pairwise
  induction l with
  | nil => exact .nil
  | cons a l ih =>
    cases l with
    | nil => exact .singleton a
    | cons b l =>
      simp only [List.tail_cons, List.zip_cons_cons, List.all_cons, Bool.and_eq_true,
        decide_eq_true_eq] at h
      exact .cons_cons h.1 (ih h.2)

theorem inRanges_iff {ranges : List (Nat × Nat)} (hsorted : ranges.Pairwise Precedes) (n : Nat) :
    inRanges n ranges = true ↔ ∃ range ∈ ranges, range.1 ≤ n ∧ n ≤ range.2 := by
  induction ranges with
  | nil => simp [inRanges]
  | cons range ranges ih =>
    obtain ⟨low, high⟩ := range
    rw [List.pairwise_cons] at hsorted
    rw [inRanges]
    by_cases hlow : n < low
    · -- every later range begins behind this one
      simp only [hlow, if_true, Bool.false_eq_true, false_iff, not_exists]
      rintro r ⟨hr, hin⟩
      rcases List.mem_cons.1 hr with rfl | hr
      · simp only at hin
        omega
      · have hbehind := hsorted.1 r hr
        simp only [Precedes] at hbehind
        omega
    · have hreached : low ≤ n := by omega
      simp [hlow, ih hsorted.2, hreached]

/-! ## What characters stand for -/

theorem index?_eq_some {n i : Nat} :
    Hangul.index? n = some i ↔ 0xAC00 ≤ n ∧ n ≤ 0xD7A3 ∧ i = n - 0xAC00 := by
  have hcond : (Hangul.firstSyllable ≤ n && n < Hangul.firstSyllable
      + Hangul.leadCount * Hangul.vowelCount * Hangul.tailCount) = true ↔
      0xAC00 ≤ n ∧ n ≤ 0xD7A3 := by
    rw [Bool.and_eq_true, decide_eq_true_eq, decide_eq_true_eq]
    simp only [Hangul.firstSyllable, Hangul.leadCount, Hangul.vowelCount, Hangul.tailCount]
    omega
  unfold Hangul.index?
  by_cases hin : 0xAC00 ≤ n ∧ n ≤ 0xD7A3
  · rw [if_pos (hcond.2 hin), Option.some.injEq, Hangul.firstSyllable]
    omega
  · rw [if_neg fun h => hin (hcond.1 h)]
    simp only [reduceCtorEq, false_iff]
    omega

theorem simpleImage?_eq_some {n m : Nat} (h : simpleImage? n = some m) :
    ∃ row ∈ simpleImages, row.1 ≤ n ∧ n < row.1 + row.2.2 ∧ m = row.2.1 + (n - row.1) := by
  obtain ⟨row, hrow, hm⟩ := List.exists_of_findSome?_eq_some h
  simp only [Bool.and_eq_true, decide_eq_true_eq, Option.ite_none_right_eq_some,
    Option.some.injEq] at hm
  exact ⟨row, hrow, hm.1.1, hm.1.2, hm.2.symm⟩

theorem mem_of_compoundParts? {n : Nat} {parts : List Nat} (h : compoundParts? n = some parts) :
    (n, parts) ∈ compoundParts := by
  obtain ⟨row, hrow, hparts⟩ := List.exists_of_findSome?_eq_some h
  simp only [Option.ite_none_right_eq_some, Option.some.injEq] at hparts
  obtain ⟨rfl, rfl⟩ := hparts
  exact hrow

/-- Where the parts of a character come from. -/
theorem decompose_cases (n : Nat) :
    (∃ i, Hangul.index? n = some i ∧ decompose n = Hangul.letters i) ∨
    (∃ row ∈ simpleImages, row.1 ≤ n ∧ n < row.1 + row.2.2 ∧
      decompose n = [row.2.1 + (n - row.1)]) ∨
    (∃ parts, (n, parts) ∈ compoundParts ∧ decompose n = parts) ∨
    decompose n = [n] := by
  unfold decompose
  cases hindex : Hangul.index? n with
  | some i => exact .inl ⟨i, rfl, rfl⟩
  | none =>
    cases himage : simpleImage? n with
    | some image =>
      obtain ⟨row, hrow, hfirst, hlast, rfl⟩ := simpleImage?_eq_some himage
      exact .inr (.inl ⟨row, hrow, hfirst, hlast, rfl⟩)
    | none =>
      cases hparts : compoundParts? n with
      | some parts => exact .inr (.inr (.inl ⟨parts, mem_of_compoundParts? hparts, rfl⟩))
      | none => exact .inr (.inr (.inr rfl))

theorem letters_eq (i : Nat) :
    Hangul.letters i =
      if i % 28 = 0 then [0x1100 + i / 588, 0x1161 + i / 28 % 21]
      else [0x1100 + i / 588, 0x1161 + i / 28 % 21, 0x11A7 + i % 28] := rfl

/-- The letters of a syllable: a leading consonant, a vowel and perhaps a trailing consonant. -/
theorem mem_letters {i m : Nat} (hi : i < 11172) (hm : m ∈ Hangul.letters i) :
    (0x1100 ≤ m ∧ m ≤ 0x1112) ∨ (0x1161 ≤ m ∧ m ≤ 0x1175) ∨ (0x11A7 ≤ m ∧ m ≤ 0x11C2) := by
  rw [letters_eq] at hm
  split at hm <;> simp only [List.mem_cons, List.not_mem_nil, or_false] at hm <;> omega

/-- A composed character is a syllable or has a row in the table. -/
theorem composePair?_cases {a b n : Nat} (h : composePair? a b = some n) :
    Hangul.compose? a b = some n ∨ (n, a, b) ∈ composedPairs := by
  unfold composePair? at h
  split at h
  · next composed hcompose =>
    cases h
    exact .inl hcompose
  · obtain ⟨row, hrow, hn⟩ := List.exists_of_findSome?_eq_some h
    simp only [Bool.and_eq_true, decide_eq_true_eq, Option.ite_none_right_eq_some,
      Option.some.injEq] at hn
    obtain ⟨⟨rfl, rfl⟩, rfl⟩ := hn
    exact .inr hrow

theorem syllable_of_compose? {a b n : Nat} (h : Hangul.compose? a b = some n) :
    0xAC00 ≤ n ∧ n ≤ 0xD7A3 := by
  unfold Hangul.compose? at h
  split at h
  · next hcond =>
    simp only [Bool.and_eq_true, decide_eq_true_eq] at hcond
    simp only [Hangul.syllable, Option.some.injEq] at h
    simp only [Hangul.firstLead, Hangul.leadCount, Hangul.firstVowel, Hangul.vowelCount,
      Hangul.tailCount, Hangul.firstSyllable] at hcond h
    omega
  · split at h
    · next i hi =>
      obtain ⟨hlow, hhigh, hplace⟩ := index?_eq_some.1 hi
      split at h
      · next hcond =>
        simp only [Bool.and_eq_true, decide_eq_true_eq] at hcond
        simp only [Option.some.injEq] at h
        simp only [Hangul.tailCount, Hangul.beforeTails] at hcond h
        omega
      · cases h
    · cases h

/-! ## Identifier characters -/

/-- The code points that may start an identifier. -/
def startBits : Nat := bits ((0x41, 0x5A) :: (0x5F, 0x5F) :: (0x61, 0x7A) :: identifierStarts)

/-- The code points that an identifier may contain. -/
def partBits : Nat := startBits ||| bits ((0x30, 0x39) :: identifierExtenders)

/-- The tables of identifier characters are sorted, and hold nothing but characters beyond ASCII. -/
theorem identifier_ranges_sorted :
    ((identifierStarts.zip identifierStarts.tail).all fun p => Precedes p.1 p.2) = true ∧
      ((identifierExtenders.zip identifierExtenders.tail).all fun p => Precedes p.1 p.2) = true ∧
      ((identifierStarts ++ identifierExtenders).all fun range => 128 ≤ range.1 &&
        (range.2 < 0xD800 || (0xDFFF < range.1 && range.2 < 0x110000))) = true := by
  decide +kernel

theorem inRanges_identifierStarts (n : Nat) :
    inRanges n identifierStarts = true ↔ ∃ range ∈ identifierStarts, range.1 ≤ n ∧ n ≤ range.2 :=
  inRanges_iff (pairwise_of_all identifier_ranges_sorted.1) n

theorem inRanges_identifierExtenders (n : Nat) :
    inRanges n identifierExtenders = true ↔
      ∃ range ∈ identifierExtenders, range.1 ≤ n ∧ n ≤ range.2 :=
  inRanges_iff (pairwise_of_all identifier_ranges_sorted.2.1) n

theorem range_of_identifier {range : Nat × Nat}
    (h : range ∈ identifierStarts ++ identifierExtenders) :
    128 ≤ range.1 ∧ (range.2 < 0xD800 ∨ (0xDFFF < range.1 ∧ range.2 < 0x110000)) := by
  simpa using List.all_eq_true.1 identifier_ranges_sorted.2.2 range h

theorem not_mem_ranges_of_ascii {ranges : List (Nat × Nat)} {n : Nat} (hn : n < 128)
    (hranges : ranges ⊆ identifierStarts ++ identifierExtenders) :
    ¬ ∃ range ∈ ranges, range.1 ≤ n ∧ n ≤ range.2 := by
  rintro ⟨range, hrange, hlow, -⟩
  have := (range_of_identifier (hranges hrange)).1
  omega

theorem isAlpha_iff {c : Char} : c.isAlpha = true ↔
    (0x41 ≤ c.toNat ∧ c.toNat ≤ 0x5A) ∨ (0x61 ≤ c.toNat ∧ c.toNat ≤ 0x7A) := by
  have hranges : c.isAlpha = (decide ('A'.val ≤ c.val ∧ c.val ≤ 'Z'.val) ||
      (decide ('a'.val ≤ c.val) && decide (c.val ≤ 'z'.val))) := rfl
  simp only [hranges, UInt32.le_iff_toNat_le, Bool.or_eq_true, Bool.and_eq_true, decide_eq_true_eq]
  rfl

theorem isDigit_iff {c : Char} : c.isDigit = true ↔ 0x30 ≤ c.toNat ∧ c.toNat ≤ 0x39 := by
  simp only [Char.isDigit, ge_iff_le, UInt32.le_iff_toNat_le, Bool.and_eq_true, decide_eq_true_eq]
  rfl

theorem isAlphanum_iff {c : Char} : c.isAlphanum = true ↔
    ((0x41 ≤ c.toNat ∧ c.toNat ≤ 0x5A) ∨ (0x61 ≤ c.toNat ∧ c.toNat ≤ 0x7A)) ∨
      (0x30 ≤ c.toNat ∧ c.toNat ≤ 0x39) := by
  rw [Char.isAlphanum, Bool.or_eq_true, isAlpha_iff, isDigit_iff]

theorem eq_underscore_iff {c : Char} : (c == '_') = true ↔ 0x5F ≤ c.toNat ∧ c.toNat ≤ 0x5F := by
  rw [beq_iff_eq, ← Char.toNat_inj]
  have hmark : '_'.toNat = 0x5F := rfl
  omega

theorem testBit_startBits (c : Char) :
    startBits.testBit c.toNat = true ↔ isIdentifierStart c = true := by
  rw [startBits, testBit_bits, isIdentifierStart]
  simp only [List.mem_cons, exists_eq_or_imp]
  by_cases hc : c.toNat < 128
  · rw [if_pos hc]
    have hnot := not_mem_ranges_of_ascii hc (List.subset_append_left _ identifierExtenders)
    simp only [hnot, or_false, Bool.or_eq_true, isAlpha_iff, eq_underscore_iff]
    omega
  · rw [if_neg hc, inRanges_identifierStarts]
    have hnot : ¬ (0x41 ≤ c.toNat ∧ c.toNat ≤ 0x5A) ∧ ¬ (0x5F ≤ c.toNat ∧ c.toNat ≤ 0x5F) ∧
        ¬ (0x61 ≤ c.toNat ∧ c.toNat ≤ 0x7A) := by omega
    simp only [hnot, false_or]

theorem testBit_partBits (c : Char) :
    partBits.testBit c.toNat = true ↔ isIdentifierPart c = true := by
  rw [partBits, Nat.testBit_or, Bool.or_eq_true, testBit_startBits, testBit_bits, isIdentifierStart,
    isIdentifierPart]
  simp only [List.mem_cons, exists_eq_or_imp]
  by_cases hc : c.toNat < 128
  · rw [if_pos hc, if_pos hc]
    have hnot := not_mem_ranges_of_ascii hc (List.subset_append_right identifierStarts _)
    simp only [hnot, or_false, Char.isAlphanum, Bool.or_eq_true, isDigit_iff]
    tauto
  · rw [if_neg hc, if_neg hc, Bool.or_eq_true, inRanges_identifierExtenders]
    have hnot : ¬ (0x30 ≤ c.toNat ∧ c.toNat ≤ 0x39) := by omega
    simp only [hnot, false_or]

/-- Identifier characters stand for identifier characters, and are composed to such. -/
theorem identifier_tables_closed :
    (simpleImages.all fun row => (List.range row.2.2).all fun i =>
      (!partBits.testBit (row.1 + i) || partBits.testBit (row.2.1 + i)) &&
        (!startBits.testBit (row.1 + i) || startBits.testBit (row.2.1 + i))) = true ∧
    (compoundParts.all fun row =>
      (!partBits.testBit row.1 || row.2.all partBits.testBit) &&
        (!startBits.testBit row.1 || row.2.head?.any startBits.testBit)) = true ∧
    (composedPairs.all fun row =>
      (!(partBits.testBit row.2.1 && partBits.testBit row.2.2) || partBits.testBit row.1) &&
        (!(startBits.testBit row.2.1 && partBits.testBit row.2.2) ||
          startBits.testBit row.1)) = true ∧
    bits [(0x1100, 0x1112), (0x1161, 0x1175), (0x11A7, 0x11C2), (0xAC00, 0xD7A3)] &&& startBits =
      bits [(0x1100, 0x1112), (0x1161, 0x1175), (0x11A7, 0x11C2), (0xAC00, 0xD7A3)] ∧
    bits (combiningClasses.map fun row => (row.1, row.2.1)) &&& startBits = 0 := by
  rw [testBit_eq_meets]
  simp only [simpleImages, compoundParts, composedPairs, List.all_append, List.all_map,
    Function.comp_def, all_rowsOf, List.range_one, List.all_cons, List.all_nil, Nat.add_zero,
    Bool.and_true]
  decide +kernel

/-- A subset of the starts is given by a set that their meet leaves as it is. -/
theorem testBit_of_and_eq {s t n : Nat} (hand : s &&& t = s) (hs : s.testBit n = true) :
    t.testBit n = true := by
  rw [← hand, Nat.testBit_and, Bool.and_eq_true] at hs
  exact hs.2

theorem startBits_subset {n : Nat} (h : startBits.testBit n = true) :
    partBits.testBit n = true := by
  rw [partBits, Nat.testBit_or, h, Bool.true_or]

/-- Identifier characters are no halves of surrogate pairs. -/
theorem isValidChar_of_partBits {n : Nat} (h : partBits.testBit n = true) : n.isValidChar := by
  have hrange : n < 128 ∨ ∃ range ∈ identifierStarts ++ identifierExtenders,
      range.1 ≤ n ∧ n ≤ range.2 := by
    rw [partBits, startBits, Nat.testBit_or, Bool.or_eq_true, testBit_bits, testBit_bits] at h
    simp only [List.mem_cons, exists_eq_or_imp] at h
    simp only [List.mem_append]
    rcases h with (_ | _ | _ | ⟨range, hrange, hin⟩) | (_ | ⟨range, hrange, hin⟩)
    · omega
    · omega
    · omega
    · exact .inr ⟨range, .inl hrange, hin⟩
    · omega
    · exact .inr ⟨range, .inr hrange, hin⟩
  unfold Nat.isValidChar
  rcases hrange with hascii | ⟨range, hrange, hlow, hhigh⟩
  · omega
  · have := (range_of_identifier hrange).2
    omega

/-- Letters of Hangul syllables, and the syllables, may start an identifier. -/
theorem testBit_startBits_hangul {n : Nat}
    (h : (0x1100 ≤ n ∧ n ≤ 0x1112) ∨ (0x1161 ≤ n ∧ n ≤ 0x1175) ∨ (0x11A7 ≤ n ∧ n ≤ 0x11C2) ∨
      (0xAC00 ≤ n ∧ n ≤ 0xD7A3)) : startBits.testBit n = true := by
  apply testBit_of_and_eq identifier_tables_closed.2.2.2.1
  rw [testBit_bits]
  simpa using h

theorem partBits_of_mem_decompose {m n : Nat} (hn : partBits.testBit n = true)
    (hm : m ∈ decompose n) : partBits.testBit m = true := by
  rcases decompose_cases n with ⟨i, hi, heq⟩ | ⟨row, hrow, hfirst, hlast, heq⟩ |
    ⟨parts, hparts, heq⟩ | heq
  · rw [heq] at hm
    obtain ⟨hlow, hhigh, hplace⟩ := index?_eq_some.1 hi
    have hi' : i < 11172 := by omega
    apply startBits_subset
    apply testBit_startBits_hangul
    rcases mem_letters hi' hm with hin | hin | hin
    · exact .inl hin
    · exact .inr (.inl hin)
    · exact .inr (.inr (.inl hin))
  · rw [heq, List.mem_singleton] at hm
    obtain ⟨k, rfl⟩ := Nat.exists_eq_add_of_le hfirst
    have hclosed := List.all_eq_true.1 identifier_tables_closed.1 row hrow
    have hat := List.all_eq_true.1 hclosed k (List.mem_range.2 (by omega))
    simp only [hn, Bool.not_true, Bool.false_or, Bool.and_eq_true] at hat
    rw [hm, Nat.add_sub_cancel_left]
    exact hat.1
  · rw [heq] at hm
    have hclosed := List.all_eq_true.1 identifier_tables_closed.2.1 _ hparts
    simp only [hn, Bool.not_true, Bool.false_or, Bool.and_eq_true, List.all_eq_true] at hclosed
    exact hclosed.1 m hm
  · rw [heq, List.mem_singleton] at hm
    rwa [hm]

theorem startBits_head_decompose {n : Nat} (hn : startBits.testBit n = true) :
    ∃ first rest, decompose n = first :: rest ∧ startBits.testBit first = true := by
  rcases decompose_cases n with ⟨i, hi, heq⟩ | ⟨row, hrow, hfirst, hlast, heq⟩ |
    ⟨parts, hparts, heq⟩ | heq
  · obtain ⟨hlow, hhigh, hplace⟩ := index?_eq_some.1 hi
    have hi' : i < 11172 := by omega
    have hlead : startBits.testBit (0x1100 + i / 588) = true :=
      testBit_startBits_hangul (.inl (by omega))
    rw [heq, letters_eq]
    split
    · exact ⟨_, _, rfl, hlead⟩
    · exact ⟨_, _, rfl, hlead⟩
  · obtain ⟨k, rfl⟩ := Nat.exists_eq_add_of_le hfirst
    have hclosed := List.all_eq_true.1 identifier_tables_closed.1 row hrow
    have hat := List.all_eq_true.1 hclosed k (List.mem_range.2 (by omega))
    simp only [hn, Bool.not_true, Bool.false_or, Bool.and_eq_true] at hat
    refine ⟨_, [], heq, ?_⟩
    rw [Nat.add_sub_cancel_left]
    exact hat.2
  · have hclosed := List.all_eq_true.1 identifier_tables_closed.2.1 _ hparts
    simp only [hn, Bool.not_true, Bool.false_or, Bool.and_eq_true] at hclosed
    cases parts with
    | nil => simp at hclosed
    | cons first rest => exact ⟨first, rest, heq, by simpa using hclosed.2⟩
  · exact ⟨n, [], heq, hn⟩

theorem partBits_of_composePair? {a b n : Nat} (h : composePair? a b = some n)
    (ha : partBits.testBit a = true) (hb : partBits.testBit b = true) :
    partBits.testBit n = true := by
  rcases composePair?_cases h with hsyllable | hrow
  · exact startBits_subset
      (testBit_startBits_hangul (.inr (.inr (.inr (syllable_of_compose? hsyllable)))))
  · have hclosed := List.all_eq_true.1 identifier_tables_closed.2.2.1 _ hrow
    simp only [ha, hb, Bool.and_self, Bool.not_true, Bool.false_or, Bool.and_eq_true] at hclosed
    exact hclosed.1

theorem startBits_of_composePair? {a b n : Nat} (h : composePair? a b = some n)
    (ha : startBits.testBit a = true) (hb : partBits.testBit b = true) :
    startBits.testBit n = true := by
  rcases composePair?_cases h with hsyllable | hrow
  · exact testBit_startBits_hangul (.inr (.inr (.inr (syllable_of_compose? hsyllable))))
  · have hclosed := List.all_eq_true.1 identifier_tables_closed.2.2.1 _ hrow
    simp only [ha, hb, Bool.and_self, Bool.not_true, Bool.false_or, Bool.and_eq_true] at hclosed
    exact hclosed.2

theorem combiningClass_of_startBits {n : Nat} (h : startBits.testBit n = true) :
    combiningClass n = 0 := by
  have hnone : (combiningClasses.findSome? fun row =>
      if row.1 ≤ n && n ≤ row.2.1 then some row.2.2 else none) = none := by
    rw [List.findSome?_eq_none_iff]
    intro row hrow
    rw [if_neg]
    intro hin
    simp only [Bool.and_eq_true, decide_eq_true_eq] at hin
    have hmark : (bits (combiningClasses.map fun row => (row.1, row.2.1))).testBit n = true :=
      (testBit_bits _ n).2 ⟨_, List.mem_map_of_mem hrow, hin⟩
    rw [not_testBit_of_and identifier_tables_closed.2.2.2.2 hmark] at h
    cases h
  unfold combiningClass
  rw [hnone]
  rfl

end Componentry.Text
