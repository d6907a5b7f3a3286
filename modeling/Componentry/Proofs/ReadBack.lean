import Componentry.Json.Writer
import Componentry.Proofs.Trees
import Mathlib.Data.Nat.Digits.Defs

/-!
# Written documents read back

**Theorem (`spells_line`).** A document on one line spells the tree it was written from. The tree
must be writable: its whole numbers are short enough to be read, its doubles read back, and no
object has two members of one name.

What is read is not the tree itself but `sorted`, which has the members of every object in the order
in which they are written. The proof says for every construct of a document what reading its text
gives and what it leaves. Only a number does not end where its text ends: what follows it must not
go on with it (`Stops`).
-/

namespace Componentry

namespace Text

variable {α β : Type}

theorem perm_insertBy (key : α → String) (a : α) (xs : List α) :
    (insertBy key a xs).Perm (a :: xs) := by
  induction xs with
  | nil => exact .refl _
  | cons b rest ih =>
    rw [insertBy]
    split
    · exact (ih.cons b).trans (.swap a b rest)
    · exact .refl _

theorem perm_sortBy (key : α → String) (xs : List α) : (sortBy key xs).Perm xs := by
  induction xs with
  | nil => exact .refl _
  | cons a rest ih => exact (perm_insertBy key a _).trans (ih.cons a)

theorem insertBy_map {key : α → String} {key' : β → String} {f : α → β}
    (h : ∀ a, key' (f a) = key a) (a : α) (xs : List α) :
    insertBy key' (f a) (xs.map f) = (insertBy key a xs).map f := by
  induction xs with
  | nil => rfl
  | cons b rest ih =>
    rw [List.map_cons, insertBy, insertBy, h, h, ih]
    split <;> rfl

theorem sortBy_map {key : α → String} {key' : β → String} {f : α → β}
    (h : ∀ a, key' (f a) = key a) (xs : List α) :
    sortBy key' (xs.map f) = (sortBy key xs).map f := by
  induction xs with
  | nil => rfl
  | cons a rest ih => rw [List.map_cons, sortBy, sortBy, ih, insertBy_map h]

end Text

namespace Json

/-! ## Strings -/

theorem hexValue?_digitChar : ∀ d < 16, hexValue? (Nat.digitChar d) = some d := by decide

theorem hex_four {n : Nat} (h : n < 0x10000) :
    Text.hex 4 n = [Nat.digitChar (n / 4096), Nat.digitChar (n / 256 % 16),
      Nat.digitChar (n / 16 % 16), Nat.digitChar (n % 16)] := by
  have hstep : ∀ m, 16 ≤ m →
      Nat.toDigits 16 m = Nat.toDigits 16 (m / 16) ++ [Nat.digitChar (m % 16)] := fun m hm =>
    Nat.toDigits_of_base_le (by decide) hm
  have hzero : Nat.digitChar 0 = '0' := rfl
  unfold Text.hex
  by_cases h₁ : n < 16
  · rw [Nat.toDigits_of_lt_base h₁]
    simp [show n / 4096 = 0 by omega, show n / 256 = 0 by omega, show n / 16 = 0 by omega,
      Nat.mod_eq_of_lt h₁, hzero]
  rw [hstep n (by omega)]
  by_cases h₂ : n / 16 < 16
  · rw [Nat.toDigits_of_lt_base h₂]
    simp [show n / 4096 = 0 by omega, show n / 256 = 0 by omega, Nat.mod_eq_of_lt h₂, hzero]
  rw [hstep (n / 16) (by omega)]
  by_cases h₃ : n / 16 / 16 < 16
  · rw [Nat.toDigits_of_lt_base h₃]
    simp [show n / 4096 = 0 by omega, show n / 256 % 16 = n / 16 / 16 by omega, hzero]
  rw [hstep (n / 16 / 16) (by omega), Nat.toDigits_of_lt_base (show n / 16 / 16 / 16 < 16 by omega)]
  simp [show n / 4096 = n / 16 / 16 / 16 by omega, show n / 256 = n / 16 / 16 by omega]

theorem unit?_hex {n : Nat} (h : n < 0x10000) :
    unit? (Nat.digitChar (n / 4096)) (Nat.digitChar (n / 256 % 16)) (Nat.digitChar (n / 16 % 16))
      (Nat.digitChar (n % 16)) = some n := by
  unfold unit?
  rw [hexValue?_digitChar _ (by omega), hexValue?_digitChar _ (by omega),
    hexValue?_digitChar _ (by omega), hexValue?_digitChar _ (by omega)]
  simp only [Option.bind_eq_bind, Option.bind_some, Option.pure_def, Option.some.injEq]
  omega

/-- A character is no half of a surrogate pair. -/
theorem not_surrogate (c : Char) : isHigh c.toNat = false ∧ isLow c.toNat = false := by
  have hvalid : c.toNat < 0xD800 ∨ 0xDFFF < c.toNat ∧ c.toNat < 0x110000 := c.valid
  unfold isHigh isLow
  simp only [Bool.and_eq_false_iff, decide_eq_false_iff_not]
  omega

section

variable (n : Nat) {c : Char} {cs rest : List Char}

theorem string_backslash (h : escaped cs = some (c, rest)) :
    string (n + 1) ('\\' :: cs) = (string n rest).map fun (text, rest) => (c :: text, rest) := by
  simp only [string, h]

theorem string_plain (hquote : c ≠ '"') (hslash : c ≠ '\\') (hcontrol : 32 ≤ c.toNat) :
    string (n + 1) (c :: rest) = (string n rest).map fun (text, rest) => (c :: text, rest) := by
  simp only [string, if_neg (Nat.not_lt.mpr hcontrol)]

end

theorem unitEscape_append (m : Nat) (rest : List Char) :
    unitEscape m ++ rest = '\\' :: 'u' :: (Text.hex 4 m ++ rest) := rfl

theorem escaped_unit {m : Nat} (h : m < 0x10000) (rest : List Char) :
    escaped ('u' :: (Text.hex 4 m ++ rest)) = unitAndRest m rest := by
  rw [hex_four h]
  show (unit? _ _ _ _).bind (unitAndRest · rest) = _
  rw [unit?_hex h, Option.bind_some]

theorem unitAndRest_basic (c : Char) (rest : List Char) :
    unitAndRest c.toNat rest = some (c, rest) := by
  obtain ⟨hhigh, hlow⟩ := not_surrogate c
  simp [unitAndRest, unitChar, hhigh, hlow]

/-- The halves of a pair make up the offset of a character beyond the basic plane. -/
theorem unitAndRest_pair {m : Nat} (h : m < 0x100000) (rest : List Char) :
    unitAndRest (0xD800 + m / 0x400) (unitEscape (0xDC00 + m % 0x400) ++ rest) =
      some (Char.ofNat (0x10000 + m), rest) := by
  have hhigh : isHigh (0xD800 + m / 0x400) = true := by
    simp only [isHigh, Bool.and_eq_true, decide_eq_true_eq]
    omega
  have hlow : isLow (0xDC00 + m % 0x400) = true := by
    simp only [isLow, Bool.and_eq_true, decide_eq_true_eq]
    omega
  have hsum : 0x10000 + (0xD800 + m / 0x400 - 0xD800) * 0x400 + (0xDC00 + m % 0x400 - 0xDC00) =
      0x10000 + m := by omega
  rw [unitEscape, hex_four (show 0xDC00 + m % 0x400 < 0x10000 by omega)]
  simp only [List.cons_append, List.nil_append, unitAndRest, hhigh, if_true,
    unit?_hex (show 0xDC00 + m % 0x400 < 0x10000 by omega), hlow, hsum]

theorem string_escapeChar (n : Nat) (c : Char) (rest : List Char) :
    string (n + 1) (escapeChar c ++ rest) =
      (string n rest).map fun (text, rest) => (c :: text, rest) := by
  have hvalid : c.toNat < 0x110000 := by
    have h : c.toNat < 0xD800 ∨ 0xDFFF < c.toNat ∧ c.toNat < 0x110000 := c.valid
    omega
  unfold escapeChar
  split
  · next h =>
    obtain rfl | rfl : c = '"' ∨ c = '\\' := by simpa using h
    · rfl
    · rfl
  next hspecial =>
  obtain ⟨hquote, hslash⟩ : c ≠ '"' ∧ c ≠ '\\' := by simpa using hspecial
  split
  · next h => rw [beq_iff_eq] at h; subst h; rfl
  split
  · next h => rw [beq_iff_eq] at h; subst h; rfl
  split
  · next h => rw [beq_iff_eq] at h; subst h; rfl
  split
  · next h => rw [beq_iff_eq] at h; subst h; rfl
  split
  · next h => rw [beq_iff_eq] at h; subst h; rfl
  dsimp only
  split
  · next h =>
    simp only [Bool.and_eq_true, decide_eq_true_eq] at h
    exact string_plain n hquote hslash h.1
  split
  · next h =>
    rw [unitEscape_append]
    exact string_backslash n ((escaped_unit h rest).trans (unitAndRest_basic c rest))
  · next h =>
    rw [List.append_assoc, unitEscape_append]
    refine string_backslash n ?_
    rw [escaped_unit (by omega), unitAndRest_pair (by omega),
      Nat.add_sub_cancel' (Nat.not_lt.mp h), Char.ofNat_toNat]

theorem length_le_flatMap_escapeChar (cs : List Char) :
    cs.length ≤ (cs.flatMap escapeChar).length := by
  induction cs with
  | nil => exact Nat.le_refl 0
  | cons c cs ih =>
    -- An empty escape would leave the closing quote in the place of the character.
    have hne : escapeChar c ≠ [] := by
      intro hnil
      have h := string_escapeChar 1 c ['"']
      rw [hnil] at h
      cases h
    have hpos := List.length_pos_of_ne_nil hne
    rw [List.flatMap_cons, List.length_append, List.length_cons]
    omega

theorem string_flatMap (fuel : Nat) (cs rest : List Char) (h : cs.length < fuel) :
    string fuel (cs.flatMap escapeChar ++ '"' :: rest) = some (cs, rest) := by
  induction cs generalizing fuel with
  | nil =>
    obtain ⟨n, rfl⟩ := Nat.exists_eq_add_one_of_ne_zero (Nat.ne_of_gt h)
    rfl
  | cons c cs ih =>
    obtain ⟨n, rfl⟩ := Nat.exists_eq_add_one_of_ne_zero (Nat.ne_of_gt (Nat.zero_lt_of_lt h))
    rw [List.flatMap_cons, List.append_assoc, string_escapeChar,
      ih n (by simpa using h)]
    rfl

/-! ## Numbers -/

/-- What follows does not go on with a number. -/
def Stops (rest : List Char) : Prop :=
  ∀ c ∈ rest.head?, c.isDigit = false ∧ c ≠ '.' ∧ c ≠ 'e' ∧ c ≠ 'E'

theorem natOfDigits_toDigits (n : Nat) : Binary64.natOfDigits (Nat.toDigits 10 n) = n := by
  have h : Binary64.natOfDigits (Nat.toDigits 10 n) =
      Nat.ofDigitChars 10 (Nat.toDigits 10 n) 0 := by
    unfold Binary64.natOfDigits Nat.ofDigitChars
    congr 1
    funext m c
    rw [Nat.mul_comm]
  rw [h, Nat.ofDigitChars_ten_toDigits]

theorem takeWhile_digits {ds rest : List Char} (hds : ∀ c ∈ ds, c.isDigit = true)
    (hrest : Stops rest) : (ds ++ rest).takeWhile Char.isDigit = ds := by
  rw [List.takeWhile_append_of_pos hds]
  cases rest with
  | nil => simp
  | cons c cs =>
    rw [List.takeWhile_cons_of_neg (by simpa using (hrest c rfl).1), List.append_nil]

theorem head_toDigits_ne {n : Nat} (h : n ≠ 0) : (Nat.toDigits 10 n).head? ≠ some '0' := by
  induction n using Nat.strongRecOn with
  | _ n ih =>
    rw [Nat.toDigits_eq_if (by decide)]
    split
    · next hlt =>
      rw [List.head?_cons, ne_eq, Option.some.injEq, Nat.digitChar_eq_zero]
      exact h
    · next hge =>
      rw [List.head?_append_of_ne_nil _ Nat.toDigits_ne_nil]
      exact ih (n / 10) (by omega) (by omega)

/-- The digits before the point. -/
def wholePart (cs : List Char) : List Char :=
  match cs with
  | '0' :: _ => ['0']
  | _ => cs.takeWhile Char.isDigit

/-- The digits after the point, and what follows them. -/
def fractionPart (cs : List Char) : List Char × List Char :=
  match cs with
  | '.' :: r =>
    let digits := r.takeWhile Char.isDigit
    if digits.isEmpty then ([], cs) else (digits, r.dropWhile Char.isDigit)
  | _ => ([], cs)

theorem wholePart_toDigits (n : Nat) {rest : List Char} (hrest : Stops rest) :
    wholePart (Nat.toDigits 10 n ++ rest) = Nat.toDigits 10 n := by
  by_cases hn : n = 0
  · subst hn
    rfl
  · unfold wholePart
    split
    · next cs h =>
      have hhead : (Nat.toDigits 10 n ++ rest).head? = (Nat.toDigits 10 n).head? :=
        List.head?_append_of_ne_nil _ Nat.toDigits_ne_nil
      rw [h] at hhead
      exact absurd hhead.symm (head_toDigits_ne hn)
    · exact takeWhile_digits
        (fun c hc => Nat.isDigit_of_mem_toDigits (by decide) (by decide) hc) hrest

theorem fractionPart_of_stops {rest : List Char} (h : Stops rest) :
    fractionPart rest = ([], rest) := by
  unfold fractionPart
  split
  · next r => exact absurd rfl (h '.' rfl).2.1
  · rfl

theorem exponent_of_stops {rest : List Char} (h : Stops rest) : exponent rest = none := by
  cases rest with
  | nil => rfl
  | cons c cs =>
    obtain ⟨-, -, he, hE⟩ := h c rfl
    simp [exponent, he, hE]

section

variable {ε α : Type} (b : Builder ε α)

theorem number_eq (negative : Bool) (cs : List Char) :
    number b negative cs =
      if (wholePart cs).isEmpty then .error .malformed
      else
        match exponent (fractionPart (cs.drop (wholePart cs).length)).2 with
        | some (e, rest) =>
          .ok (b.float (Binary64.ofDecimal negative (wholePart cs)
            (fractionPart (cs.drop (wholePart cs).length)).1 e), rest)
        | none =>
          if (fractionPart (cs.drop (wholePart cs).length)).1.isEmpty then
            if digitLimit < (wholePart cs).length then .error (.tooManyDigits (wholePart cs).length)
            else
              .ok (b.int (if negative then -(Binary64.natOfDigits (wholePart cs) : Int)
                else (Binary64.natOfDigits (wholePart cs) : Int)),
                (fractionPart (cs.drop (wholePart cs).length)).2)
          else
            .ok (b.float (Binary64.ofDecimal negative (wholePart cs)
              (fractionPart (cs.drop (wholePart cs).length)).1 0),
              (fractionPart (cs.drop (wholePart cs).length)).2) := rfl

theorem number_toDigits (negative : Bool) (n : Nat) {rest : List Char} (hrest : Stops rest)
    (hlimit : (Nat.toDigits 10 n).length ≤ digitLimit) :
    number b negative (Nat.toDigits 10 n ++ rest) =
      .ok (b.int (if negative then -(n : Int) else n), rest) := by
  have hne : ¬ (Nat.toDigits 10 n).isEmpty = true := by simp [Nat.toDigits_ne_nil]
  rw [number_eq, wholePart_toDigits n hrest, List.drop_left, fractionPart_of_stops hrest,
    exponent_of_stops hrest, if_neg hne]
  simp only [List.isEmpty_nil, if_true]
  rw [if_neg (Nat.not_lt.mpr hlimit), natOfDigits_toDigits]

theorem value_digit (fuel : Nat) {c : Char} (h : c.isDigit = true) (cs : List Char) :
    value b (fuel + 1) (c :: cs) = number b false (c :: cs) := by
  rw [value]
  all_goals
    intro rest heq
    cases heq
    exact absurd h (by decide)

theorem value_minus_digit (fuel : Nat) {c : Char} (h : c.isDigit = true) (cs : List Char) :
    value b (fuel + 1) ('-' :: c :: cs) = number b true (c :: cs) := by
  rw [value]
  intro rest heq
  cases heq
  exact absurd h (by decide)

theorem length_toDigits_le {n k : Nat} (hk : 0 < k) (h : n < Nat.pow 10 k) :
    (Nat.toDigits 10 n).length ≤ k :=
  (Nat.length_toDigits_le_iff (by decide) hk).mpr h

theorem value_intText (fuel : Nat) (n : Int) {rest : List Char} (hrest : Stops rest)
    (hlimit : isWritable n = true) :
    value b (fuel + 1) ((intText n).toList ++ rest) = .ok (b.int n, rest) := by
  have hlength : (Nat.toDigits 10 n.natAbs).length ≤ digitLimit := by
    have hlt : n.natAbs < firstUnwritable := of_decide_eq_true hlimit
    unfold firstUnwritable at hlt
    exact length_toDigits_le (by decide) hlt
  obtain ⟨c, cs, hcs⟩ := List.exists_cons_of_ne_nil (Nat.toDigits_ne_nil (n := n.natAbs) (b := 10))
  have hdigit : c.isDigit = true :=
    Nat.isDigit_of_mem_toDigits (by decide) (by decide) (hcs ▸ List.mem_cons_self)
  have hnumber := fun negative => number_toDigits b negative n.natAbs hrest hlength
  rw [hcs] at hnumber
  unfold intText
  split
  · next hneg =>
    have htext : ("-" ++ Nat.repr n.natAbs).toList = '-' :: c :: cs := by
      simp [String.toList_append, Nat.repr_eq_ofList_toDigits, hcs]
    rw [htext, List.cons_append, List.cons_append, value_minus_digit b fuel hdigit,
      ← List.cons_append, hnumber true, if_pos rfl, show -(n.natAbs : Int) = n by omega]
  · next hpos =>
    rw [Nat.repr_eq_ofList_toDigits, hcs, String.toList_ofList, List.cons_append,
      value_digit b fuel hdigit, ← List.cons_append, hnumber false, if_neg (by decide),
      show (n.natAbs : Int) = n by omega]

end

/-! ## Trees as they are written -/

mutual

/-- The tree with the members of objects in the order in which they are written. -/
def sorted : Json → Json
  | .arr items => .arr (sortedItems items)
  | .obj members => .obj (Text.sortBy Prod.fst (sortedMembers members))
  | j => j

def sortedItems : List Json → List Json
  | [] => []
  | j :: rest => sorted j :: sortedItems rest

def sortedMembers : List (String × Json) → List (String × Json)
  | [] => []
  | (name, j) :: rest => (name, sorted j) :: sortedMembers rest

end

mutual

theorem same_sorted (j : Json) : j.Same j.sorted := by
  match j with
  | .null | .bool _ | .int _ | .float _ | .str _ => rfl
  | .arr items => exact ⟨_, rfl, sameItems_sortedItems items⟩
  | .obj members =>
    exact ⟨_, sortedMembers members, rfl, (Text.perm_sortBy _ _).symm,
      sameMembers_sortedMembers members⟩

theorem sameItems_sortedItems (js : List Json) : SameItems js (sortedItems js) := by
  match js with
  | [] => rfl
  | j :: rest => exact ⟨_, _, rfl, same_sorted j, sameItems_sortedItems rest⟩

theorem sameMembers_sortedMembers (ms : List (String × Json)) :
    SameMembers ms (sortedMembers ms) := by
  match ms with
  | [] => rfl
  | (name, j) :: rest => exact ⟨_, _, rfl, same_sorted j, sameMembers_sortedMembers rest⟩

end

theorem sortedMembers_eq (ms : List (String × Json)) :
    sortedMembers ms = ms.map fun m => (m.1, sorted m.2) := by
  induction ms with
  | nil => rfl
  | cons m rest ih => rw [sortedMembers, ih, List.map_cons]

def chars (j : Json) : List Char := j.line.toList

def memberChars (m : String × Json) : List Char :=
  '"' :: (m.1.toList.flatMap escapeChar ++ '"' :: ':' :: ' ' :: chars m.2)

/-- Texts in a row with separators between them. -/
def joined : List (List Char) → List Char
  | [] => []
  | [t] => t
  | t :: rest => t ++ ',' :: ' ' :: joined rest

theorem toList_joinWith (texts : List String) :
    (Text.joinWith ", " texts).toList = joined (texts.map String.toList) := by
  fun_induction Text.joinWith ", " texts with
  | case1 => rfl
  | case2 s => rfl
  | case3 s rest hne ih =>
    obtain ⟨t, ts, rfl⟩ := List.exists_cons_of_ne_nil hne
    rw [String.toList_append, String.toList_append, ih]
    simp [joined]

theorem chars_arr (items : List Json) :
    chars (.arr items) = '[' :: (joined (items.map chars) ++ [']']) := by
  have hitems : lineItems items = items.map line := by
    induction items with
    | nil => rfl
    | cons j rest ih => rw [lineItems, ih, List.map_cons]
  rw [chars, line, String.toList_append, String.toList_append, toList_joinWith, hitems,
    List.map_map]
  rfl

theorem chars_obj (members : List (String × Json)) :
    chars (.obj members) =
      '\x7b' :: (joined ((Text.sortBy Prod.fst members).map memberChars) ++ ['\x7d']) := by
  have hmembers : lineMembers members = members.map fun m => (m.1, line m.2) := by
    induction members with
    | nil => rfl
    | cons m rest ih => rw [lineMembers, ih, List.map_cons]
  have hmember : ∀ m : String × Json, (quoteText m.1 ++ ": " ++ line m.2).toList =
      memberChars m := by
    intro m
    simp [quoteText, memberChars, chars]
  rw [chars, line, hmembers, Text.sortBy_map fun _ => rfl]
  simp only [String.toList_append, toList_joinWith, List.map_map, Function.comp_def, hmember]
  rfl

/-! ## Reading what was written -/

/-- What reading comes to if it hands a tree to a builder and leaves `rest`. -/
def handed {ε α : Type} (x : Except ε α) (rest : List Char) : Read ε α :=
  match x with
  | .ok v => .ok (v, rest)
  | .error reason => .error (.refused reason)

/-- A text reads as a tree, up to where the text ends. -/
def ReadsAs (text : List Char) (j : Json) : Prop :=
  ∀ ⦃ε α : Type⦄ (b : Builder ε α) (fuel : Nat) (rest : List Char), text.length < fuel →
    Stops rest → value b fuel (text ++ rest) = handed (build b j) rest

theorem handed_ne_malformed {ε α : Type} (x : Except ε α) (rest : List Char) :
    handed x rest ≠ .error .malformed := by
  cases x <;> simp [handed]

/-- A text that reads as a tree starts with none of the characters that separate values. -/
theorem ReadsAs.head {text : List Char} {j : Json} (h : ReadsAs text j) :
    ∃ c cs, text = c :: cs ∧ isSpace c = false ∧ c ≠ ']' := by
  have hread : value keep (text.length + 1) text ≠ .error .malformed := by
    have hvalue := h keep (text.length + 1) [] (Nat.lt_succ_self _) (by simp [Stops])
    rw [List.append_nil] at hvalue
    rw [hvalue]
    exact handed_ne_malformed _ _
  cases text with
  | nil => exact absurd rfl hread
  | cons c cs =>
    refine ⟨c, cs, rfl, ?_, ?_⟩
    · rw [Bool.eq_false_iff]
      intro hspace
      obtain ((rfl | rfl) | rfl) | rfl : ((c = ' ' ∨ c = '\t') ∨ c = '\n') ∨ c = '\r' := by
        simpa [isSpace] using hspace
      all_goals exact hread rfl
    · rintro rfl
      exact hread rfl

theorem skip_of_not_space {c : Char} (h : isSpace c = false) (cs : List Char) :
    skip (c :: cs) = c :: cs := by
  rw [skip, List.dropWhile_cons_of_neg (by simp [h])]

theorem skip_blank (cs : List Char) : skip (' ' :: cs) = skip cs := rfl

theorem stops_of_mem {c : Char} (h : c ∈ [',', ']', '\x7d']) (rest : List Char) :
    Stops (c :: rest) := by
  intro d hd
  obtain rfl : c = d := by simpa using hd
  obtain rfl | rfl | rfl : c = ',' ∨ c = ']' ∨ c = '\x7d' := by simpa using h
  all_goals decide

theorem skip_joined {t : List Char} {ts : List (List Char)} {c : Char} {cs : List Char}
    (ht : t = c :: cs) (hc : isSpace c = false) (rest : List Char) :
    skip (joined (t :: ts) ++ rest) = joined (t :: ts) ++ rest := by
  subst ht
  cases ts with
  | nil => exact skip_of_not_space hc _
  | cons u us => exact skip_of_not_space hc _

section

variable {ε α : Type} (b : Builder ε α)

theorem items_joined {js : List Json} (hne : js ≠ []) (h : ∀ j ∈ js, ReadsAs (chars j) j.sorted)
    {fuel : Nat} (hfuel : (joined (js.map chars)).length + 1 < fuel) (rest : List Char) :
    items b fuel (joined (js.map chars) ++ ']' :: rest) =
      handed (buildItems b (sortedItems js)) rest := by
  induction js generalizing fuel with
  | nil => exact absurd rfl hne
  | cons j js ih =>
    obtain ⟨n, rfl⟩ := Nat.exists_eq_add_one_of_ne_zero (Nat.ne_of_gt (Nat.zero_lt_of_lt hfuel))
    obtain ⟨hj, hjs⟩ := List.forall_mem_cons.mp h
    cases js with
    | nil =>
      have hlength : (chars j).length < n := by
        simp only [List.map_cons, List.map_nil, joined] at hfuel
        omega
      have hvalue := hj b n (']' :: rest) hlength (stops_of_mem (by simp) rest)
      simp only [List.map_cons, List.map_nil, joined, items, hvalue, sortedItems, buildItems]
      cases build b j.sorted <;> rfl
    | cons k ks =>
      obtain ⟨hj', hrest⟩ : (chars j).length < n ∧
          (joined ((k :: ks).map chars)).length + 1 < n := by
        simp only [List.map_cons, joined, List.length_append, List.length_cons] at hfuel ⊢
        omega
      have hvalue := hj b n (',' :: ' ' :: (joined ((k :: ks).map chars) ++ ']' :: rest)) hj'
        (stops_of_mem (by simp) _)
      obtain ⟨c, cs, hk, hc, -⟩ := (hjs k List.mem_cons_self).head
      have hskip : skip (' ' :: (joined ((k :: ks).map chars) ++ ']' :: rest)) =
          joined ((k :: ks).map chars) ++ ']' :: rest := by
        rw [skip_blank]
        exact skip_joined hk hc _
      have hmore := ih (List.cons_ne_nil k ks) hjs hrest
      have htext : joined ((j :: k :: ks).map chars) ++ ']' :: rest =
          chars j ++ ',' :: ' ' :: (joined ((k :: ks).map chars) ++ ']' :: rest) := by
        simp [joined]
      rw [htext, items, hvalue, sortedItems, buildItems]
      cases build b j.sorted with
      | error e => rfl
      | ok v =>
        simp only [handed, skip_of_not_space (show isSpace ',' = false by decide), hskip, hmore]
        cases buildItems b (sortedItems (k :: ks)) <;> rfl

theorem addMember_of_not_mem {name : String} {v : α} {seen : List (String × α)}
    (h : name ∉ seen.map Prod.fst) : addMember name v seen = seen ++ [(name, v)] := by
  induction seen with
  | nil => rfl
  | cons m seen ih =>
    obtain ⟨k, w⟩ := m
    obtain ⟨hk, hseen⟩ : name ≠ k ∧ name ∉ seen.map Prod.fst := by simpa using h
    rw [addMember, if_neg (Ne.symm hk), ih hseen, List.cons_append]

/-- Reading up to the value of a member. -/
theorem members_memberChars {n : Nat} (seen : List (String × α)) (m : String × Json)
    (hm : ReadsAs (chars m.2) m.2.sorted) (hfuel : (memberChars m).length < n) {rest : List Char}
    (hrest : Stops rest) :
    members b (n + 1) seen (memberChars m ++ rest) =
      match build b m.2.sorted with
      | .error e => .error (.refused e)
      | .ok v =>
        match skip rest with
        | '\x7d' :: rest => .ok (addMember m.1 v seen, rest)
        | ',' :: rest => members b n (addMember m.1 v seen) (skip rest)
        | _ => .error .malformed := by
  have hchars : (chars m.2).length < n ∧ m.1.toList.length < n := by
    have hescape : m.1.toList.length ≤ (m.1.toList.flatMap escapeChar).length :=
      length_le_flatMap_escapeChar _
    simp only [memberChars, List.length_cons, List.length_append] at hfuel
    omega
  obtain ⟨c, cs, hcs, hc, -⟩ := hm.head
  have hskip : skip (' ' :: (chars m.2 ++ rest)) = chars m.2 ++ rest := by
    rw [skip_blank, hcs]
    exact skip_of_not_space hc _
  have hstring : string n (m.1.toList.flatMap escapeChar ++
      '"' :: ':' :: ' ' :: (chars m.2 ++ rest)) =
      some (m.1.toList, ':' :: ' ' :: (chars m.2 ++ rest)) :=
    string_flatMap n _ _ hchars.2
  have htext : memberChars m ++ rest = '"' :: (m.1.toList.flatMap escapeChar ++
      '"' :: ':' :: ' ' :: (chars m.2 ++ rest)) := by
    simp [memberChars]
  have hcolon : skip (':' :: ' ' :: (chars m.2 ++ rest)) = ':' :: ' ' :: (chars m.2 ++ rest) := rfl
  rw [htext, members]
  simp only [hstring, hcolon, hskip, hm b n rest hchars.1 hrest, String.ofList_toList]
  cases build b m.2.sorted <;> rfl

/-- The members of an object are read in the order in which they are written. -/
theorem members_joined {ms : List (String × Json)} (hne : ms ≠ [])
    (h : ∀ m ∈ ms, ReadsAs (chars m.2) m.2.sorted) {seen : List (String × α)}
    (hnodup : (seen.map Prod.fst ++ ms.map Prod.fst).Nodup) {fuel : Nat}
    (hfuel : (joined (ms.map memberChars)).length + 1 < fuel) (rest : List Char) :
    members b fuel seen (joined (ms.map memberChars) ++ '\x7d' :: rest) =
      handed ((buildMembers b (ms.map fun m => (m.1, m.2.sorted))).map (seen ++ ·)) rest := by
  induction ms generalizing fuel seen with
  | nil => exact absurd rfl hne
  | cons m ms ih =>
    obtain ⟨n, rfl⟩ := Nat.exists_eq_add_one_of_ne_zero (Nat.ne_of_gt (Nat.zero_lt_of_lt hfuel))
    obtain ⟨hm, hms⟩ := List.forall_mem_cons.mp h
    have hnew : m.1 ∉ seen.map Prod.fst := by
      intro hmem
      exact (List.nodup_append.mp hnodup).2.2 _ hmem _ List.mem_cons_self rfl
    cases ms with
    | nil =>
      have hlength : (memberChars m).length < n := by
        simp only [List.map_cons, List.map_nil, joined] at hfuel
        omega
      show members b (n + 1) seen (memberChars m ++ '\x7d' :: rest) = _
      rw [members_memberChars b seen m hm hlength (stops_of_mem (by simp) rest),
        List.map_cons, buildMembers]
      cases build b m.2.sorted with
      | error e => rfl
      | ok v =>
        show Except.ok (addMember m.1 v seen, rest) = _
        rw [addMember_of_not_mem hnew]
        rfl
    | cons k ks =>
      obtain ⟨hm', hrest⟩ : (memberChars m).length < n ∧
          (joined ((k :: ks).map memberChars)).length + 1 < n := by
        simp only [List.map_cons, joined, List.length_append, List.length_cons] at hfuel ⊢
        omega
      have htext : joined ((m :: k :: ks).map memberChars) ++ '\x7d' :: rest = memberChars m ++
          ',' :: ' ' :: (joined ((k :: ks).map memberChars) ++ '\x7d' :: rest) := by
        simp [joined]
      have hskip : skip (' ' :: (joined ((k :: ks).map memberChars) ++ '\x7d' :: rest)) =
          joined ((k :: ks).map memberChars) ++ '\x7d' :: rest := by
        rw [skip_blank]
        exact skip_joined rfl (by decide) _
      have hbuild : buildMembers b ((m :: k :: ks).map fun m => (m.1, m.2.sorted)) =
          (build b m.2.sorted).bind fun v =>
            (buildMembers b ((k :: ks).map fun m => (m.1, m.2.sorted))).bind fun vs =>
              .ok ((m.1, v) :: vs) := rfl
      rw [htext, members_memberChars b seen m hm hm' (stops_of_mem (by simp) _), hbuild]
      cases build b m.2.sorted with
      | error e => rfl
      | ok v =>
        have hnodup' : ((seen ++ [(m.1, v)]).map Prod.fst ++ (k :: ks).map Prod.fst).Nodup := by
          simpa using hnodup
        show members b n (addMember m.1 v seen)
          (skip (' ' :: (joined ((k :: ks).map memberChars) ++ '\x7d' :: rest))) = _
        rw [hskip, addMember_of_not_mem hnew, ih (List.cons_ne_nil k ks) hms hnodup' hrest]
        cases buildMembers b ((k :: ks).map fun m => (m.1, m.2.sorted)) with
        | error e => rfl
        | ok vs =>
          show Except.ok (seen ++ [(m.1, v)] ++ vs, rest) = Except.ok (seen ++ (m.1, v) :: vs, rest)
          rw [List.append_assoc, List.singleton_append]

end

/-! ## Documents that read back -/

/-- A double that reads back from its text. -/
def DoubleReadsBack (x : Binary64) : Prop := ReadsAs (floatText x).toList (.float x)

mutual

/-- A tree that reads back: its whole numbers have few enough digits, its doubles read back, and the
members of an object have distinct names. -/
def Writable : Json → Prop
  | .int n => isWritable n = true
  | .float x => DoubleReadsBack x
  | .arr items => WritableItems items
  | .obj members => (members.map Prod.fst).Nodup ∧ WritableMembers members
  | _ => True

/-- Items that read back. -/
def WritableItems : List Json → Prop
  | [] => True
  | j :: rest => Writable j ∧ WritableItems rest

/-- Members that read back. -/
def WritableMembers : List (String × Json) → Prop
  | [] => True
  | (_, j) :: rest => Writable j ∧ WritableMembers rest

end

theorem readsAs_of_succ {text : List Char} {j : Json}
    (h : ∀ {ε α : Type} (b : Builder ε α) (fuel : Nat) (rest : List Char), Stops rest →
      value b (fuel + 1) (text ++ rest) = handed (build b j) rest) : ReadsAs text j := by
  intro ε α b fuel rest hfuel hrest
  obtain ⟨n, rfl⟩ := Nat.exists_eq_add_one_of_ne_zero (Nat.ne_of_gt (Nat.zero_lt_of_lt hfuel))
  exact h b n rest hrest

theorem readsAs_quoteText (s : String) : ReadsAs (chars (.str s)) (.str s) := by
  have htext : chars (.str s) = '"' :: (s.toList.flatMap escapeChar ++ ['"']) := by
    simp [chars, line, quoteText]
  intro ε α b fuel rest hfuel _
  obtain ⟨n, rfl⟩ := Nat.exists_eq_add_one_of_ne_zero (Nat.ne_of_gt (Nat.zero_lt_of_lt hfuel))
  have hlength : s.toList.length < n := by
    have hescape := length_le_flatMap_escapeChar s.toList
    simp only [htext, List.length_cons, List.length_append] at hfuel
    omega
  have hstring := string_flatMap n s.toList rest hlength
  rw [htext, List.cons_append, List.append_assoc, List.singleton_append, value]
  simp only [hstring, String.ofList_toList]
  rfl

theorem finish_eq {ε α : Type} (b : Builder ε α) (ms : List (String × α)) (rest : List Char) :
    finish b ms rest = handed (b.obj ms) rest := rfl

theorem value_open_list {ε α : Type} (b : Builder ε α) (n : Nat) {cs cs' : List Char} {c : Char}
    (hcs : skip cs = c :: cs') (hc : c ≠ ']') :
    value b (n + 1) ('[' :: cs) =
      match items b n (skip cs) with
      | .ok (xs, rest) => .ok (b.arr xs, rest)
      | .error fault => .error fault := by
  rw [value]
  split
  · next rest heq =>
    rw [hcs] at heq
    cases heq
    exact absurd rfl hc
  · rfl

theorem value_open_object {ε α : Type} (b : Builder ε α) (n : Nat) {cs cs' : List Char} {c : Char}
    (hcs : skip cs = c :: cs') (hc : c ≠ '\x7d') :
    value b (n + 1) ('\x7b' :: cs) =
      match members b n [] (skip cs) with
      | .ok (ms, rest) => finish b ms rest
      | .error fault => .error fault := by
  rw [value]
  split
  · next rest heq =>
    rw [hcs] at heq
    cases heq
    exact absurd rfl hc
  · rfl

theorem joined_cons {t : List Char} {c : Char} {cs : List Char} (ht : t = c :: cs)
    (ts : List (List Char)) (rest : List Char) : ∃ cs', joined (t :: ts) ++ rest = c :: cs' := by
  subst ht
  cases ts with
  | nil => exact ⟨_, rfl⟩
  | cons u us => exact ⟨_, rfl⟩

theorem readsAs_arr {items : List Json} (h : ∀ j ∈ items, ReadsAs (chars j) j.sorted) :
    ReadsAs (chars (.arr items)) (Json.arr items).sorted := by
  intro ε α b fuel rest hfuel _
  obtain ⟨n, rfl⟩ := Nat.exists_eq_add_one_of_ne_zero (Nat.ne_of_gt (Nat.zero_lt_of_lt hfuel))
  rw [chars_arr] at hfuel ⊢
  cases items with
  | nil => rfl
  | cons j js =>
    obtain ⟨c, cs, hcs, hc, hclose⟩ := (h j List.mem_cons_self).head
    have hskip : skip (joined ((j :: js).map chars) ++ ']' :: rest) =
        joined ((j :: js).map chars) ++ ']' :: rest := skip_joined hcs hc _
    obtain ⟨cs', hcs'⟩ := joined_cons hcs (js.map chars) (']' :: rest)
    have hlength : (joined ((j :: js).map chars)).length + 1 < n := by
      simp only [List.length_cons, List.length_append, List.length_nil] at hfuel
      omega
    rw [List.cons_append, List.append_assoc, List.singleton_append,
      value_open_list b n (hskip.trans hcs') hclose, hskip,
      items_joined b (List.cons_ne_nil j js) h hlength rest, sorted, build]
    cases buildItems b (sortedItems (j :: js)) <;> rfl

theorem readsAs_obj {members : List (String × Json)} (hnodup : (members.map Prod.fst).Nodup)
    (h : ∀ m ∈ members, ReadsAs (chars m.2) m.2.sorted) :
    ReadsAs (chars (.obj members)) (Json.obj members).sorted := by
  intro ε α b fuel rest hfuel _
  obtain ⟨n, rfl⟩ := Nat.exists_eq_add_one_of_ne_zero (Nat.ne_of_gt (Nat.zero_lt_of_lt hfuel))
  -- From here on only the sorted members matter.
  have hperm := Text.perm_sortBy Prod.fst members
  have hsorted : (Json.obj members).sorted =
      .obj ((Text.sortBy Prod.fst members).map fun m => (m.1, m.2.sorted)) := by
    rw [sorted, sortedMembers_eq, Text.sortBy_map fun _ => rfl]
  replace h : ∀ m ∈ Text.sortBy Prod.fst members, ReadsAs (chars m.2) m.2.sorted :=
    fun m hm => h m (Text.mem_sortBy.mp hm)
  replace hnodup : ((Text.sortBy Prod.fst members).map Prod.fst).Nodup :=
    (hperm.map Prod.fst).nodup_iff.mpr hnodup
  rw [chars_obj] at hfuel ⊢
  rw [hsorted, build]
  generalize Text.sortBy Prod.fst members = ms at *
  cases ms with
  | nil => exact finish_eq b [] rest
  | cons m ms =>
    have hskip : skip (joined ((m :: ms).map memberChars) ++ '\x7d' :: rest) =
        joined ((m :: ms).map memberChars) ++ '\x7d' :: rest := skip_joined rfl (by decide) _
    obtain ⟨cs', hcs'⟩ := joined_cons (t := memberChars m) rfl (ms.map memberChars)
      ('\x7d' :: rest)
    have hlength : (joined ((m :: ms).map memberChars)).length + 1 < n := by
      simp only [List.length_cons, List.length_append, List.length_nil] at hfuel
      omega
    rw [List.cons_append, List.append_assoc, List.singleton_append,
      value_open_object b n (hskip.trans hcs') (by decide), hskip,
      members_joined b (List.cons_ne_nil m ms) h (by simpa using hnodup) hlength rest]
    cases buildMembers b ((m :: ms).map fun m => (m.1, m.2.sorted)) with
    | error e => rfl
    | ok vs => exact finish_eq b vs rest

mutual

/-- The text of a tree reads as the tree with its members sorted. -/
theorem readsAs_chars (j : Json) (h : j.Writable) : ReadsAs (chars j) j.sorted := by
  match j with
  | .null => exact readsAs_of_succ fun b fuel rest _ => rfl
  | .bool true => exact readsAs_of_succ fun b fuel rest _ => rfl
  | .bool false => exact readsAs_of_succ fun b fuel rest _ => rfl
  | .int n => exact readsAs_of_succ fun b fuel rest hrest => value_intText b fuel n hrest h
  | .float x => exact h
  | .str s => exact readsAs_quoteText s
  | .arr items => exact readsAs_arr (readsAs_items items h)
  | .obj members => exact readsAs_obj h.1 (readsAs_members members h.2)

theorem readsAs_items (js : List Json) (h : WritableItems js) :
    ∀ j ∈ js, ReadsAs (chars j) j.sorted := by
  match js with
  | [] => simp
  | j :: rest =>
    exact List.forall_mem_cons.mpr ⟨readsAs_chars j h.1, readsAs_items rest h.2⟩

theorem readsAs_members (ms : List (String × Json)) (h : WritableMembers ms) :
    ∀ m ∈ ms, ReadsAs (chars m.2) m.2.sorted := by
  match ms with
  | [] => simp
  | (name, j) :: rest =>
    exact List.forall_mem_cons.mpr ⟨readsAs_chars j h.1, readsAs_members rest h.2⟩

end

/-- Reading a document on one line comes to building from its tree with the members sorted. -/
theorem read_line {ε α : Type} {j : Json} (h : j.Writable) (b : Builder ε α) :
    read b j.line = (build b j.sorted).mapError Fault.refused := by
  have hreads := readsAs_chars j h
  obtain ⟨c, cs, hcs, hc, -⟩ := hreads.head
  have hskip : skip (chars j) = chars j := by
    rw [hcs]
    exact skip_of_not_space hc cs
  have hvalue := hreads b ((chars j).length + 1) [] (Nat.lt_succ_self _) (by simp [Stops])
  rw [List.append_nil] at hvalue
  have htext : j.line.toList = chars j := rfl
  simp only [read, htext, hskip, hvalue]
  cases build b j.sorted <;> rfl

theorem spells_line {j : Json} (h : j.Writable) : Spells j.line j :=
  ⟨j.sorted, same_sorted j, read_line h⟩

end Json

end Componentry
