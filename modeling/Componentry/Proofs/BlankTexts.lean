import Mathlib.Tactic.SplitIfs
import Componentry.Proofs.CharacterTables
import Componentry.Source.Grammar.Statement
import Componentry.Text.Blank

/-!
# Texts of blanks

More characters count as blank than separate tokens: a text may be blank and still have no tokens.

**Theorem (`parse_of_isBlank`).** A blank text that parses has no statements. A blank that is no gap
starts no token, so only marks are left, and the end of the text is the only one without a line.
-/

namespace Componentry.Source

theorem not_printed_of_isBlank {c : Char} (h : Text.isBlank c = true) :
    c.toNat < 33 ∨ 127 < c.toNat := by
  simp only [Text.isBlank, Bool.or_eq_true, Bool.and_eq_true, decide_eq_true_eq, beq_iff_eq] at h
  omega

theorem isAlphanum_of_isBlank {c : Char} (h : Text.isBlank c = true) : c.isAlphanum = false := by
  have hprinted := not_printed_of_isBlank h
  rw [Bool.eq_false_iff, ne_eq, Text.isAlphanum_iff]
  omega

theorem ne_of_isBlank {c d : Char} (h : Text.isBlank c = true) (hd : 33 ≤ d.toNat)
    (hd' : d.toNat ≤ 127) : c ≠ d := by
  rintro rfl
  have := not_printed_of_isBlank h
  omega

theorem isIdentifierStart_of_isBlank {c : Char} (h : Text.isBlank c = true) :
    Text.isIdentifierStart c = false := by
  have hwide : ∀ n ∈ ([0x85, 0xA0, 0x1680, 0x2028, 0x2029, 0x202F, 0x205F, 0x3000] : List Nat),
      Text.inRanges n Text.identifierStarts = false := by decide +kernel
  have hspaces : ∀ k < 11, Text.inRanges (0x2000 + k) Text.identifierStarts = false := by
    decide +kernel
  unfold Text.isIdentifierStart
  split_ifs with hascii
  · have halphanum := isAlphanum_of_isBlank h
    have hunderscore := ne_of_isBlank h (by decide : 33 ≤ '_'.toNat) (by decide)
    simp_all [Char.isAlphanum]
  · simp only [Text.isBlank, Bool.or_eq_true, Bool.and_eq_true, decide_eq_true_eq, beq_iff_eq] at h
    by_cases hspace : 0x2000 ≤ c.toNat ∧ c.toNat ≤ 0x200A
    · obtain ⟨k, hk⟩ := Nat.exists_eq_add_of_le hspace.1
      rw [hk]
      exact hspaces k (by omega)
    · refine hwide c.toNat ?_
      simp only [List.mem_cons, List.not_mem_nil, or_false]
      omega

theorem sign?_of_isBlank {c : Char} (h : Text.isBlank c = true) (rest : List Char) :
    Lexer.sign? (c :: rest) = none := by
  have htable : ∀ e ∈ Sign.table,
      (e.1.toList.head?.all fun d => 33 ≤ d.toNat && d.toNat ≤ 127) = true := by decide +kernel
  have hne : ∀ e ∈ Sign.table, e.1.toList ≠ [] := by decide +kernel
  simp only [Lexer.sign?, Option.map_eq_none_iff, List.find?_eq_none]
  intro e he hpre
  cases hl : e.1.toList with
  | nil => exact hne e he hl
  | cons d ds =>
    obtain ⟨hd, hd'⟩ : 33 ≤ d.toNat ∧ d.toNat ≤ 127 := by simpa [hl] using htable e he
    rw [hl] at hpre
    obtain ⟨hdc, -⟩ := by simpa [List.isPrefixOf] using hpre
    exact ne_of_isBlank h hd hd' hdc.symm

theorem ofText?_of_isBlank {c : Char} (h : Text.isBlank c = true) (rest : List Char) :
    Word.ofText? (String.ofList (c :: rest)) = none := by
  have htable : ∀ e ∈ Word.table,
      (e.1.toList.head?.all fun d => 33 ≤ d.toNat && d.toNat ≤ 127) = true := by decide +kernel
  have hne : ∀ e ∈ Word.table, e.1.toList ≠ [] := by decide +kernel
  simp only [Word.ofText?, Option.map_eq_none_iff, List.find?_eq_none]
  intro e he heq
  obtain heq : e.1 = _ := by simpa using heq
  obtain ⟨hd, hd'⟩ : 33 ≤ c.toNat ∧ c.toNat ≤ 127 := by simpa [heq] using htable e he
  exact ne_of_isBlank h hd hd' rfl

theorem lexeme?_of_isBlank {c : Char} {rest : List Char}
    (h : ∀ d ∈ c :: rest, Text.isBlank d = true) : Lexer.lexeme? (c :: rest) = none := by
  have hc := h c List.mem_cons_self
  have hnum : Lexer.startsNumber (c :: rest) = false := by
    have hdot := ne_of_isBlank hc (by decide : 33 ≤ '.'.toNat) (by decide)
    have hdigit : c.isDigit = false := by
      have := isAlphanum_of_isBlank hc
      simp_all [Char.isAlphanum]
    unfold Lexer.startsNumber
    split <;> simp_all
  have hquote (d : Char) (hd : 33 ≤ d.toNat) (hd' : d.toNat ≤ 127) (n : Nat) (tl : List Char) :
      (c :: rest).drop n ≠ d :: tl := by
    intro heq
    exact ne_of_isBlank (h d (List.mem_of_mem_drop (heq ▸ List.mem_cons_self))) hd hd' rfl
  unfold Lexer.lexeme?
  rw [hnum]
  simp only [Bool.false_eq_true, if_false]
  generalize hletters : (c :: rest).takeWhile Number.isNamePart = letters
  split
  · next tl heq => exact absurd heq (hquote '"' (by decide) (by decide) _ _)
  · next tl heq => exact absurd heq (hquote '\'' (by decide) (by decide) _ _)
  · cases letters with
    | nil => simp [sign?_of_isBlank hc]
    | cons d more =>
      obtain rfl : d = c := by
        by_cases hpart : Number.isNamePart c = true
        · obtain ⟨heq, -⟩ := by simpa [hpart] using hletters
          exact heq.symm
        · simp [hpart] at hletters
      have hname : Lexer.nameLexeme (d :: more) = none := by
        rw [Lexer.nameLexeme]
        simp only [ofText?_of_isBlank hc]
        simp [Text.isIdentifier, isIdentifierStart_of_isBlank hc]
      simp [hname]

theorem of_further {count length : Nat} {found : Option (Lexer.Depth × Nat)} {depth : Lexer.Depth}
    (h : Lexer.indentation.further count found = some (depth, length)) :
    ∃ k, found = some (depth, k) ∧ length = k + count := by
  obtain ⟨⟨d, k⟩, hfound, heq⟩ := Option.map_eq_some_iff.mp h
  obtain ⟨rfl, rfl⟩ := Prod.mk.inj heq
  exact ⟨k, hfound, rfl⟩

/-- Indentation takes the gap in front of a line. -/
theorem isGap_after_indentation {d depth : Lexer.Depth} {fixed length : Nat} {cs : List Char}
    (hcs : ∀ c ∈ cs, Text.isBlank c = true)
    (h : Lexer.indentation d fixed cs = some (depth, length)) {c : Char} {tl : List Char}
    (hdrop : cs.drop length = c :: tl) : Lexer.isGap c = false := by
  fun_induction Lexer.indentation d fixed cs generalizing length with
  | case1 depth fixed rest ih =>
    obtain ⟨k, hk, rfl⟩ := of_further h
    exact ih (fun c hc => hcs c (List.mem_cons_of_mem _ hc)) hk hdrop
  | case2 depth fixed rest ih =>
    obtain ⟨k, hk, rfl⟩ := of_further h
    exact ih (fun c hc => hcs c (List.mem_cons_of_mem _ hc)) hk hdrop
  | case3 depth fixed rest ih =>
    obtain ⟨k, hk, rfl⟩ := of_further h
    exact ih (fun c hc => hcs c (List.mem_cons_of_mem _ hc)) hk hdrop
  | case4 =>
    exact absurd rfl (ne_of_isBlank (hcs '\\' List.mem_cons_self) (by decide : 33 ≤ '\\'.toNat)
      (by decide))
  | case5 => simp at h
  | case6 cs _ _ hspace htab hfeed =>
    obtain ⟨-, rfl⟩ := by simpa using h
    have hne (d : Char) (hd : ∀ rest, cs = d :: rest → False) : c ≠ d := by
      rintro rfl
      exact hd tl hdrop
    simp [Lexer.isGap, hne ' ' hspace, hne '\t' htab, hne '\x0c' hfeed]

theorem loop_of_not_isGap {n : Nat} {o : Lexer.Open} {p : Pos} {c : Char} {tl : List Char}
    (h : ∀ d ∈ c :: tl, Text.isBlank d = true) (hgap : Lexer.isGap c = false) (hline : c ≠ '\n') :
    Lexer.loop n o false p (c :: tl) = none := by
  have hc := h c List.mem_cons_self
  have hhash := ne_of_isBlank hc (by decide : 33 ≤ '#'.toNat) (by decide)
  have hslash := ne_of_isBlank hc (by decide : 33 ≤ '\\'.toNat) (by decide)
  cases n with
  | zero => rfl
  | succ n =>
    unfold Lexer.loop
    simp only [List.takeWhile_cons, hgap, Bool.false_eq_true, if_false, List.length_nil,
      List.drop_zero]
    split <;> simp_all [lexeme?_of_isBlank h]

/-- A text of blanks has no token but the last mark, if it has tokens. -/
theorem loop_of_isBlank {n : Nat} {p : Pos} {cs : List Char}
    (hcs : ∀ c ∈ cs, Text.isBlank c = true) {ts : List Token}
    (h : Lexer.loop n {} true p cs = some ts) : ∃ q, ts = [Lexer.markAt q .finish] := by
  induction n generalizing p cs with
  | zero => simp [Lexer.loop] at h
  | succ n ih =>
    unfold Lexer.loop at h
    obtain ⟨⟨depth, length⟩, hindent, h⟩ := Option.bind_eq_some_iff.mp h
    have hrest : ∀ c ∈ cs.drop length, Text.isBlank c = true :=
      fun c hc => hcs c (List.mem_of_mem_drop hc)
    simp only at h
    split at h
    · exact ⟨_, (by simpa [Lexer.closeTo] using h : _ = ts).symm⟩
    · next after heq =>
      exact ih (fun c hc => hrest c (heq ▸ List.mem_cons_of_mem _ hc)) h
    · next heq =>
      have hhash := hrest '#' (heq ▸ List.mem_cons_self)
      exact absurd rfl (ne_of_isBlank hhash (by decide : 33 ≤ '#'.toNat) (by decide))
    · next hne hline _ =>
      cases hdrop : cs.drop length with
      | nil => exact absurd hdrop hne
      | cons c tl =>
        have hgap := isGap_after_indentation hcs hindent hdrop
        rw [hdrop] at h hrest
        have hnone (n : Nat) (o : Lexer.Open) (p : Pos) : Lexer.loop n o false p (c :: tl) = none :=
          loop_of_not_isGap hrest hgap fun heq => hline tl (by rw [hdrop, heq])
        simp [hnone] at h

theorem isBlank_uniformEnds {cs : List Char} (h : ∀ c ∈ cs, Text.isBlank c = true) :
    ∀ c ∈ Text.uniformEnds cs, Text.isBlank c = true := by
  have hline : Text.isBlank '\n' = true := rfl
  fun_induction Text.uniformEnds cs <;> simp_all

/-- **A blank text has no statements.** -/
theorem parse_of_isBlank {text : String} (h : Text.isBlankText text.toList = true)
    {stmts : List Stmt} (hparse : parse text = some stmts) : stmts = [] := by
  obtain ⟨ts, hts, hparse⟩ := Option.bind_eq_some_iff.mp hparse
  have hall : ∀ c ∈ text.toList, Text.isBlank c = true := by simpa [Text.isBlankText] using h
  have hends := isBlank_uniformEnds hall
  have hblank : ∀ c ∈ Lexer.close (Text.uniformEnds text.toList), Text.isBlank c = true := by
    unfold Lexer.close
    split_ifs
    · exact hends
    · simp only [List.mem_append, List.mem_singleton]
      rintro c (hc | rfl)
      · exact hends c hc
      · rfl
  obtain ⟨q, rfl⟩ := loop_of_isBlank hblank hts
  have hprogram : Grammar.program (4 * text.length + 16) ⟨[Lexer.markAt q .finish], .start⟩ =
      some ([], ⟨[], .start⟩) := rfl
  rw [hprogram] at hparse
  exact (Option.some.inj hparse).symm

end Componentry.Source
