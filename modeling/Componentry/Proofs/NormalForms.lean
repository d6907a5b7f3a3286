import Componentry.Proofs.CharacterTables

/-!
# Normal forms

The normal form of an identifier is an identifier (`isIdentifier_normalForm`): its characters stand
for identifier characters and are composed to such, and no mark comes in front of its first letter.
-/

namespace Componentry.Text

/-! ## Ordered marks -/

theorem mem_placeMark {m n : Nat} {l : List Nat} : m ∈ placeMark n l ↔ m = n ∨ m ∈ l := by
  induction l with
  | nil => simp [placeMark]
  | cons k l ih =>
    rw [placeMark]
    split
    · simp only [List.mem_cons, ih]
      tauto
    · simp

theorem mem_orderMarks {m : Nat} {l : List Nat} : m ∈ orderMarks l ↔ m ∈ l := by
  induction l with
  | nil => simp [orderMarks]
  | cons n l ih =>
    have hcons : orderMarks (n :: l) = placeMark n (orderMarks l) := rfl
    rw [hcons, mem_placeMark, ih, List.mem_cons]

/-! ## Composing -/

/-- What the characters of a text stand for. -/
def decomposeAll (ns : List Nat) : List Nat := ns.flatMap decompose

theorem decomposeAll_cons (n : Nat) (l : List Nat) :
    decomposeAll (n :: l) = decompose n ++ decomposeAll l := rfl

/-- Whether a letter reaches a character behind the marks it passed over. -/
def inReach (passed : List Nat) (n : Nat) : Bool :=
  match passed with
  | [] => true
  | m :: _ => combiningClass m < combiningClass n

theorem composeFrom_cons (letter : Nat) (passed : List Nat) (n : Nat) (rest : List Nat) :
    composeFrom letter passed (n :: rest) =
      match if inReach passed n then composePair? letter n else none with
      | some composed => composeFrom composed passed rest
      | none =>
        if combiningClass n = 0 then letter :: passed.reverse ++ composeFrom n [] rest
        else composeFrom letter (n :: passed) rest := by
  cases passed <;> rfl

/-- What can happen to the character behind a letter: the letter takes it in, a new letter begins,
or the letter passes it over. -/
theorem composeFrom_cases (letter : Nat) (passed : List Nat) (n : Nat) (rest : List Nat) :
    (∃ composed, composePair? letter n = some composed ∧
      composeFrom letter passed (n :: rest) = composeFrom composed passed rest) ∨
    composeFrom letter passed (n :: rest) = letter :: passed.reverse ++ composeFrom n [] rest ∨
    composeFrom letter passed (n :: rest) = composeFrom letter (n :: passed) rest := by
  rw [composeFrom_cons]
  split
  · next composed hcomposed =>
    rw [Option.ite_none_right_eq_some] at hcomposed
    exact .inl ⟨composed, hcomposed.2, rfl⟩
  · by_cases hn : combiningClass n = 0
    · exact .inr (.inl (if_pos hn))
    · exact .inr (.inr (if_neg hn))

/-- What holds of the characters of a text and of what they are composed to holds of the composed
text. -/
theorem forall_composeFrom {Q : Nat → Prop}
    (hQ : ∀ a b n, composePair? a b = some n → Q a → Q b → Q n) {letter : Nat}
    {passed rest : List Nat} (hletter : Q letter) (hpassed : ∀ n ∈ passed, Q n)
    (hrest : ∀ n ∈ rest, Q n) : ∀ n ∈ composeFrom letter passed rest, Q n := by
  induction rest generalizing letter passed with
  | nil =>
    intro n hn
    rw [composeFrom, List.mem_cons, List.mem_reverse] at hn
    rcases hn with rfl | hn
    · exact hletter
    · exact hpassed n hn
  | cons n rest ih =>
    have hn : Q n := hrest n (List.mem_cons_self ..)
    have hrest' : ∀ m ∈ rest, Q m := fun m hm => hrest m (List.mem_cons_of_mem _ hm)
    rcases composeFrom_cases letter passed n rest with ⟨composed, hcomposed, heq⟩ | heq | heq
    · rw [heq]
      exact ih (hQ _ _ _ hcomposed hletter hn) hpassed hrest'
    · intro m hm
      rw [heq, List.mem_append, List.mem_cons, List.mem_reverse] at hm
      rcases hm with (rfl | hm) | hm
      · exact hletter
      · exact hpassed m hm
      · exact ih hn (by simp) hrest' m hm
    · rw [heq]
      refine ih hletter ?_ hrest'
      intro m hm
      rcases List.mem_cons.1 hm with rfl | hm
      · exact hn
      · exact hpassed m hm

theorem forall_composeAll {Q : Nat → Prop}
    (hQ : ∀ a b n, composePair? a b = some n → Q a → Q b → Q n) {l : List Nat}
    (hl : ∀ n ∈ l, Q n) : ∀ n ∈ composeAll l, Q n := by
  induction l with
  | nil => exact hl
  | cons n l ih =>
    have hn : Q n := hl n (List.mem_cons_self ..)
    have hl' : ∀ m ∈ l, Q m := fun m hm => hl m (List.mem_cons_of_mem _ hm)
    rw [composeAll]
    split
    · exact forall_composeFrom hQ hn (by simp) hl'
    · intro m hm
      rcases List.mem_cons.1 hm with rfl | hm
      · exact hn
      · exact ih hl' m hm

/-- The code points of a text that is not ASCII in its normal form. -/
def normalCodes (s : String) : List Nat :=
  composeAll (orderMarks (decomposeAll (s.toList.map Char.toNat)))

theorem normalForm_eq (s : String) :
    normalForm s = if isAscii s then s else String.ofList ((normalCodes s).map Char.ofNat) := by
  rw [normalForm, normalCodes, decomposeAll, List.flatMap_map]

/-! ## Identifiers -/

theorem toNat_ofNat {n : Nat} (h : partBits.testBit n = true) : (Char.ofNat n).toNat = n := by
  rw [Char.ofNat, dif_pos (isValidChar_of_partBits h)]
  rfl

theorem head_composeFrom {letter : Nat} {passed rest : List Nat}
    (hletter : startBits.testBit letter = true) (hrest : ∀ n ∈ rest, partBits.testBit n = true) :
    ∃ first codes, composeFrom letter passed rest = first :: codes ∧
      startBits.testBit first = true := by
  induction rest generalizing letter passed with
  | nil => exact ⟨letter, passed.reverse, rfl, hletter⟩
  | cons n rest ih =>
    have hn : partBits.testBit n = true := hrest n (List.mem_cons_self ..)
    have hrest' : ∀ m ∈ rest, partBits.testBit m = true :=
      fun m hm => hrest m (List.mem_cons_of_mem _ hm)
    rcases composeFrom_cases letter passed n rest with ⟨composed, hcomposed, heq⟩ | heq | heq
    · rw [heq]
      exact ih (startBits_of_composePair? hcomposed hletter hn) hrest'
    · exact ⟨letter, _, heq, hletter⟩
    · rw [heq]
      exact ih hletter hrest'

/-- The first of the codes of an identifier stays a first one, and all stay identifier characters.
-/
theorem normalCodes_of_isIdentifier {s : String} (h : isIdentifier s = true) :
    (∃ first codes, normalCodes s = first :: codes ∧ startBits.testBit first = true) ∧
      ∀ n ∈ normalCodes s, partBits.testBit n = true := by
  unfold isIdentifier at h
  split at h
  · cases h
  next c cs hs =>
  rw [Bool.and_eq_true, List.all_eq_true, ← testBit_startBits] at h
  obtain ⟨hc, hcs⟩ := h
  obtain ⟨first, rest, hdecompose, hfirst⟩ := startBits_head_decompose hc
  have hparts : ∀ n ∈ decomposeAll (s.toList.map Char.toNat), partBits.testBit n = true := by
    intro n hn
    rw [decomposeAll, List.mem_flatMap, hs] at hn
    obtain ⟨k, hk, hn⟩ := hn
    refine partBits_of_mem_decompose ?_ hn
    rw [List.map_cons, List.mem_cons, List.mem_map] at hk
    rcases hk with rfl | ⟨d, hd, rfl⟩
    · exact startBits_subset hc
    · exact (testBit_partBits d).2 (hcs d hd)
  have hordered : ∀ n ∈ orderMarks (decomposeAll (s.toList.map Char.toNat)),
      partBits.testBit n = true := fun n hn => hparts n (mem_orderMarks.1 hn)
  refine ⟨?_, forall_composeAll (fun a b n => partBits_of_composePair?) hordered⟩
  obtain ⟨later, hlater⟩ : ∃ later, orderMarks (decomposeAll (s.toList.map Char.toNat)) =
      first :: orderMarks later := by
    refine ⟨rest ++ decomposeAll (cs.map Char.toNat), ?_⟩
    rw [hs, List.map_cons, decomposeAll_cons, hdecompose, List.cons_append]
    have hcons : ∀ l, orderMarks (first :: l) = placeMark first (orderMarks l) := fun _ => rfl
    rw [hcons]
    -- a letter stays in front of the marks behind it
    cases orderMarks (rest ++ decomposeAll (cs.map Char.toNat)) with
    | nil => rfl
    | cons m l => simp [placeMark, combiningClass_of_startBits hfirst]
  rw [hlater] at hordered
  rw [normalCodes, hlater, composeAll, if_pos (combiningClass_of_startBits hfirst)]
  exact head_composeFrom hfirst fun n hn => hordered n (List.mem_cons_of_mem _ hn)

/-- **The normal form of an identifier is an identifier.** -/
theorem isIdentifier_normalForm {s : String} (h : isIdentifier s = true) :
    isIdentifier (normalForm s) = true := by
  rw [normalForm_eq]
  split
  · exact h
  · obtain ⟨⟨first, codes, hcodes, hfirst⟩, hparts⟩ := normalCodes_of_isIdentifier h
    rw [hcodes] at hparts ⊢
    have hstart : isIdentifierStart (Char.ofNat first) = true := by
      rw [← testBit_startBits, toNat_ofNat (hparts first (List.mem_cons_self ..))]
      exact hfirst
    have hpart : ∀ n ∈ codes, isIdentifierPart (Char.ofNat n) = true := by
      intro n hn
      rw [← testBit_partBits, toNat_ofNat (hparts n (List.mem_cons_of_mem _ hn))]
      exact hparts n (List.mem_cons_of_mem _ hn)
    simp only [isIdentifier, String.toList_ofList, List.map_cons, hstart, Bool.true_and,
      List.all_map, List.all_eq_true]
    exact hpart

end Componentry.Text
