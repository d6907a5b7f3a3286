import Componentry.Emit.Expr
import Componentry.Proofs.SpelledCode

/-!
# Texts of emitted expressions

The text of an expression has no line break and starts with something else than a blank, since
words, operators, numbers and quoted texts do.

**Theorem (`oneLine_expr`, `isDark_expr`).** The text of a spelled expression stands on one line and
does not start with a blank.
-/

namespace Componentry.Emit

open Ir

open Source.Number (isNamePart)

open Text (isSourceBreak IsWord)

/-- The text has no line break. -/
def OneLine (s : String) : Prop := ∀ c ∈ s.toList, isSourceBreak c = false

instance (s : String) : Decidable (OneLine s) :=
  List.decidableBAll (fun c => isSourceBreak c = false) s.toList

/-- Whether a text starts with something else than a blank. -/
def isDark (s : String) : Bool := s.toList.head?.any (· != ' ')

theorem OneLine.append {s t : String} (hs : OneLine s) (ht : OneLine t) : OneLine (s ++ t) := by
  intro c hc
  rw [String.toList_append] at hc
  exact (List.mem_append.mp hc).elim (hs c) (ht c)

theorem isDark_append {s : String} (h : isDark s = true) (t : String) : isDark (s ++ t) = true := by
  unfold isDark at h ⊢
  rw [String.toList_append]
  cases hs : s.toList with
  | nil => simp [hs] at h
  | cons c cs => simpa [hs] using h

/-! ## Words -/

theorem isNamePart_of_isIdentifierPart {c : Char} (h : Text.isIdentifierPart c = true) :
    isNamePart c = true := by
  unfold Text.isIdentifierPart at h
  unfold isNamePart
  split_ifs at h with hascii
  · rw [h, Bool.true_or]
  · simp [Nat.not_lt.mp hascii]

theorem isNamePart_of_isIdentifierStart {c : Char} (h : Text.isIdentifierStart c = true) :
    isNamePart c = true := by
  unfold Text.isIdentifierStart at h
  unfold isNamePart Char.isAlphanum
  split_ifs at h with hascii
  · rcases (Bool.or_eq_true _ _).mp h with h | h <;> simp [h]
  · simp [Nat.not_lt.mp hascii]

theorem letters_of_isWord {s : String} (h : IsWord s) :
    s.toList ≠ [] ∧ ∀ c ∈ s.toList, isNamePart c = true := by
  unfold IsWord Text.isIdentifier at h
  split at h
  · cases h
  · next c cs hs =>
    rw [Bool.and_eq_true, List.all_eq_true] at h
    rw [hs]
    exact ⟨List.cons_ne_nil c cs, List.forall_mem_cons.mpr
      ⟨isNamePart_of_isIdentifierStart h.1, fun d hd => isNamePart_of_isIdentifierPart (h.2 d hd)⟩⟩

/-- A text of characters that neither break a line nor are blanks. -/
theorem oneLine_and_isDark {s : String} {isPart : Char → Bool} (hne : s.toList ≠ [])
    (hs : ∀ c ∈ s.toList, isPart c = true)
    (hapart : ∀ c ∈ [' ', '\n', '\r'], isPart c = false) : OneLine s ∧ isDark s = true := by
  have hnot {c d : Char} (hc : c ∈ s.toList) (hd : d ∈ [' ', '\n', '\r']) : c ≠ d := by
    rintro rfl
    exact Bool.false_ne_true ((hapart c hd).symm.trans (hs c hc))
  constructor
  · intro c hc
    simp [isSourceBreak, hnot hc (d := '\n') (by decide), hnot hc (d := '\r') (by decide)]
  · obtain ⟨c, cs, heq⟩ := List.exists_cons_of_ne_nil hne
    have hc : c ≠ ' ' := hnot (heq ▸ List.mem_cons_self) (by decide)
    simp [isDark, heq, hc]

theorem oneLine_word {s : String} (h : IsWord s) : OneLine s :=
  (oneLine_and_isDark (letters_of_isWord h).1 (letters_of_isWord h).2 (by decide)).1

theorem isDark_word {s : String} (h : IsWord s) : isDark s = true :=
  (oneLine_and_isDark (letters_of_isWord h).1 (letters_of_isWord h).2 (by decide)).2

/-! ## Numbers -/

/-- The characters of written numbers. -/
def isNumberPart (c : Char) : Bool := c.isDigit || ['.', 'e', '+', '-'].contains c

/-- The text of a number. -/
def IsNumberText (cs : List Char) : Prop := cs ≠ [] ∧ ∀ c ∈ cs, isNumberPart c = true

theorem parts_digits {cs : List Char} (h : ∀ c ∈ cs, c.isDigit = true) :
    ∀ c ∈ cs, isNumberPart c = true := by
  intro c hc
  rw [isNumberPart, h c hc, Bool.true_or]

theorem parts_toDigits (n : Nat) : ∀ c ∈ Nat.toDigits 10 n, isNumberPart c = true :=
  parts_digits fun _ hc => Nat.isDigit_of_mem_toDigits (by decide) (by decide) hc

theorem parts_zeros (k : Nat) : ∀ c ∈ List.replicate k '0', isNumberPart c = true := by
  intro c hc
  rw [List.eq_of_mem_replicate hc]
  decide

theorem parts_shortest (m : Nat) (e : Int) :
    ∀ c ∈ (Binary64.shortest m e).1, isNumberPart c = true := by
  intro c hc
  rw [Binary64.shortest, Binary64.significant, List.mem_reverse] at hc
  exact parts_toDigits _ c (List.mem_reverse.mp ((List.dropWhile_suffix _).subset hc))

theorem isNumberText_write {digits : List Char} (h : ∀ c ∈ digits, isNumberPart c = true)
    (style : Binary64.Style) (leading : Int) : IsNumberText (style.write digits leading) := by
  have hpadded : ∀ c ∈ Binary64.padLeft style.exponentWidth (Nat.toDigits 10 leading.natAbs),
      isNumberPart c = true :=
    List.forall_mem_append.mpr ⟨parts_zeros _, parts_toDigits _⟩
  unfold Binary64.Style.write
  simp only
  split_ifs
  · refine ⟨by simp, List.forall_mem_append.mpr ⟨List.forall_mem_append.mpr ⟨by decide, ?_⟩, h⟩⟩
    exact parts_zeros _
  · exact ⟨by simp, List.forall_mem_append.mpr
      ⟨List.forall_mem_append.mpr ⟨h, parts_zeros _⟩, by decide⟩⟩
  · exact ⟨by simp, List.forall_mem_append.mpr ⟨List.forall_mem_append.mpr
      ⟨fun c hc => h c (List.mem_of_mem_take hc), by decide⟩,
      fun c hc => h c (List.mem_of_mem_drop hc)⟩⟩
  all_goals
    refine ⟨by simp, List.forall_mem_append.mpr ⟨List.forall_mem_append.mpr ⟨?_, ?_⟩, hpadded⟩⟩
    · split
      · simp only [List.forall_mem_cons] at h ⊢
        exact ⟨h.1, by decide, h.2⟩
      · exact h
    · decide

theorem isNumberText_intText (n : Int) : IsNumberText (Json.intText n).toList := by
  have hdigits : (Nat.repr n.natAbs).toList = Nat.toDigits 10 n.natAbs := by
    rw [Nat.repr_eq_ofList_toDigits, String.toList_ofList]
  unfold Json.intText
  split
  · rw [String.toList_append, hdigits]
    exact ⟨by simp, List.forall_mem_append.mpr ⟨by decide, parts_toDigits _⟩⟩
  · rw [hdigits]
    exact ⟨Nat.toDigits_ne_nil, parts_toDigits _⟩

theorem isNumberText_writeFinite (negative : Bool) (m : Nat) (e : Int) :
    IsNumberText (Binary64.writeFinite negative m e).toList := by
  have hbody : IsNumberText (if m = 0 then ['0', '.', '0'] else
      Binary64.Style.source.write (Binary64.shortest m e).1 (Binary64.shortest m e).2) := by
    split
    · exact ⟨by simp, by decide⟩
    · exact isNumberText_write (parts_shortest m e) _ _
  simp only [Binary64.writeFinite, String.toList_ofList]
  split
  · exact ⟨List.cons_ne_nil _ _, List.forall_mem_cons.mpr ⟨rfl, hbody.2⟩⟩
  · exact hbody

/-! ## Quoted texts -/

theorem oneLine_toDigits (n : Nat) : ∀ c ∈ Nat.toDigits 16 n, isSourceBreak c = false := by
  have hdigit : ∀ d < 16, isSourceBreak (Nat.digitChar d) = false := by decide
  induction n using Nat.strongRecOn with
  | _ n ih =>
    by_cases hn : n < 16
    · rw [Nat.toDigits_of_lt_base hn]
      simpa using hdigit n hn
    · rw [Nat.toDigits_of_base_le (by decide) (Nat.not_lt.mp hn), List.forall_mem_append]
      exact ⟨ih (n / 16) (by omega), by simpa using hdigit (n % 16) (Nat.mod_lt n (by decide))⟩

theorem oneLine_hex (width n : Nat) : ∀ c ∈ Text.hex width n, isSourceBreak c = false := by
  refine List.forall_mem_append.mpr ⟨fun c hc => ?_, oneLine_toDigits n⟩
  rw [List.eq_of_mem_replicate hc]
  rfl

theorem oneLine_quoteMark (cs : List Char) : isSourceBreak (Text.quoteMark cs) = false := by
  unfold Text.quoteMark
  split <;> rfl

theorem oneLine_quoteChar {mark : Char} (hmark : isSourceBreak mark = false) (c : Char) :
    ∀ d ∈ Text.quoteChar mark c, isSourceBreak d = false := by
  unfold Text.quoteChar
  simp only
  split_ifs with hspecial htab hline hreturn
  · rcases (Bool.or_eq_true _ _).mp hspecial with h | h
    · rw [beq_iff_eq.mp h]
      simpa using ⟨rfl, hmark⟩
    · rw [beq_iff_eq.mp h]
      decide
  · decide
  · decide
  · decide
  · simpa [isSourceBreak] using ⟨by simpa using hline, by simpa using hreturn⟩
  all_goals
    exact List.forall_mem_cons.mpr ⟨rfl, List.forall_mem_cons.mpr ⟨rfl, oneLine_hex _ _⟩⟩

theorem oneLine_quote (s : String) : OneLine (Text.quote s) := by
  have hmark := oneLine_quoteMark s.toList
  unfold OneLine
  rw [Text.quote, String.toList_ofList]
  refine List.forall_mem_append.mpr ⟨List.forall_mem_cons.mpr ⟨hmark, fun c hc => ?_⟩, ?_⟩
  · obtain ⟨d, -, hc⟩ := List.mem_flatMap.mp hc
    exact oneLine_quoteChar hmark d c hc
  · simpa using hmark

theorem isDark_quote (s : String) : isDark (Text.quote s) = true := by
  have hmark : Text.quoteMark s.toList ≠ ' ' := by
    unfold Text.quoteMark
    split <;> decide
  simp [isDark, Text.quote, Text.quoteChars, hmark]

/-! ## Expressions -/

theorem oneLine_and_isDark_literal (value : Literal) :
    OneLine (literal value) ∧ isDark (literal value) = true := by
  have hnumber {s : String} (h : IsNumberText s.toList) : OneLine s ∧ isDark s = true :=
    oneLine_and_isDark h.1 h.2 (by decide)
  cases value with
  | none => decide
  | bool b => cases b <;> decide
  | int n => exact hnumber (isNumberText_intText n)
  | float x =>
    cases x with
    | finite s m e => exact hnumber (isNumberText_writeFinite s m e)
    | infinite negative => cases negative <;> decide
    | nan => decide
  | str s => exact ⟨oneLine_quote s, isDark_quote s⟩

theorem oneLine_operator {o : Operator} {op : String} (h : o.sign? = some op) : OneLine op := by
  have hsign {t : String} (ht : OneLine t) (heq : some t = some op) : OneLine op :=
    Option.some.inj heq ▸ ht
  cases o with
  | arithmetic o =>
    cases o with
    | matMult | lShift | rShift | bitOr | bitXor | bitAnd => exact nomatch h
    | _ => exact hsign (by decide) h
  | connective o => cases o <;> exact hsign (by decide) h
  | comparison o => cases o <;> exact hsign (by decide) h

theorem oneLine_joinWith {sep : String} (hsep : OneLine sep) {items : List String}
    (h : ∀ s ∈ items, OneLine s) : OneLine (Text.joinWith sep items) := by
  induction items with
  | nil => exact List.forall_mem_nil _
  | cons s rest ih =>
    obtain ⟨hs, hrest⟩ := List.forall_mem_cons.mp h
    cases rest with
    | nil => exact hs
    | cons t rest => exact (hs.append hsep).append (ih hrest)

theorem oneLine_commas {items : List String} (h : ∀ s ∈ items, OneLine s) :
    OneLine (commas items) :=
  oneLine_joinWith (by decide) h

theorem oneLine_unary {op value : String} {o : Source.UnaryOp} (h : o.sign? = some op)
    (hvalue : OneLine value) : OneLine (unary op value) := by
  have hop : OneLine op := by
    cases o with
    | invert => exact nomatch h
    | _ =>
      obtain rfl := Option.some.inj h
      decide
  unfold unary
  split
  · exact (OneLine.append (by decide) hvalue).append (by decide)
  · exact ((OneLine.append (by decide) hop).append hvalue).append (by decide)

theorem oneLine_encloseItems {items : List String} (h : ∀ s ∈ items, OneLine s) :
    OneLine (Tree.encloseItems items) := by
  unfold Tree.encloseItems
  split
  · next s => exact (OneLine.append (by decide) (h s (by simp))).append (by decide)
  · exact (OneLine.append (by decide) (oneLine_commas h)).append (by decide)

mutual

theorem oneLine_expr : ∀ e : Expr, e.Spelled → OneLine (expr e)
  | .const value, _ => (oneLine_and_isDark_literal value).1
  | .var _, h => oneLine_word h
  | .typeRef _ _, h => oneLine_word h
  | .attr obj field, h => by
    have hobj := oneLine_expr obj h.2
    show OneLine ((if isConst obj then "(" ++ expr obj ++ ")" else expr obj) ++ "." ++ field)
    refine (OneLine.append ?_ (by decide)).append (oneLine_word h.1)
    split
    · exact (OneLine.append (by decide) hobj).append (by decide)
    · exact hobj
  | .call func args, h =>
    (((oneLine_expr func h.1).append (by decide)).append
      (oneLine_commas (oneLine_exprs args h.2))).append (by decide)
  | .unary op value, h => by
    obtain ⟨o, ho⟩ := h.1
    exact oneLine_unary ho (oneLine_expr value h.2)
  | .binary op left right, h => by
    obtain ⟨o, ho⟩ := h.1
    have hleft := OneLine.append (by decide : OneLine "(") (oneLine_expr left h.2.1)
    have hop := ((hleft.append (by decide : OneLine " ")).append (oneLine_operator ho)).append
      (by decide : OneLine " ")
    exact (hop.append (oneLine_expr right h.2.2)).append (by decide)
  | .ifExpr condition yes no, h => by
    have hyes := OneLine.append (by decide : OneLine "(") (oneLine_expr yes h.2.1)
    have htest := (hyes.append (by decide : OneLine " if ")).append (oneLine_expr condition h.1)
    exact ((htest.append (by decide)).append (oneLine_expr no h.2.2)).append (by decide)
  | .isInstance value _ _, h =>
    (((OneLine.append (by decide) (oneLine_expr value h.2)).append (by decide)).append
      (oneLine_word h.1)).append (by decide)
  | .annotated value _, h => oneLine_expr value h
  | .letIn [] body, h => oneLine_expr body h.2
  | .letIn (b :: bs) body, h => by
    have hitems : ∀ s ∈ bindingTexts (b :: bs) ++ [expr body], OneLine s :=
      List.forall_mem_append.mpr ⟨oneLine_bindings (b :: bs) h.1,
        List.forall_mem_singleton.mpr (oneLine_expr body h.2)⟩
    exact (OneLine.append (by decide) (oneLine_commas hitems)).append (by decide)
  | .list items, h =>
    (OneLine.append (by decide) (oneLine_commas (oneLine_exprs items h))).append (by decide)
  | .tuple items, h => oneLine_encloseItems (oneLine_exprs items h)
  | .dict keys values, h => by
    have hentries : ∀ s ∈ List.zipWith (fun k v => k ++ ": " ++ v) (exprs keys) (exprs values),
        OneLine s := by
      intro s hs
      rw [← List.map_uncurry_zip_eq_zipWith] at hs
      obtain ⟨⟨k, v⟩, hmem, rfl⟩ := List.mem_map.mp hs
      exact ((oneLine_exprs keys h.2.1 k (List.of_mem_zip hmem).1).append (by decide)).append
        (oneLine_exprs values h.2.2 v (List.of_mem_zip hmem).2)
    exact (OneLine.append (by decide) (oneLine_commas hentries)).append (by decide)
  | .subscript value index, h =>
    (((oneLine_expr value h.1).append (by decide)).append (oneLine_expr index h.2)).append
      (by decide)

theorem oneLine_exprs : ∀ es : List Expr, AllSpelled es → ∀ s ∈ exprs es, OneLine s
  | [], _ => List.forall_mem_nil _
  | e :: rest, h => List.forall_mem_cons.mpr ⟨oneLine_expr e h.1, oneLine_exprs rest h.2⟩

theorem oneLine_bindings : ∀ bs : List (String × Expr), BindingsSpelled bs →
    ∀ s ∈ bindingTexts bs, OneLine s
  | [], _ => List.forall_mem_nil _
  | (name, e) :: rest, h => by
    have htext := ((OneLine.append (by decide : OneLine "(") (oneLine_word h.1.1)).append
      (by decide : OneLine " := ")).append (oneLine_expr e h.1.2)
    exact List.forall_mem_cons.mpr ⟨htext.append (by decide), oneLine_bindings rest h.2⟩

end

/-- The text of a spelled expression does not start with a blank. Only the operand in front counts.
-/
theorem isDark_expr : ∀ e : Expr, e.Spelled → isDark (expr e) = true
  | .const value, _ => (oneLine_and_isDark_literal value).2
  | .var _, h => isDark_word h
  | .typeRef _ _, h => isDark_word h
  | .attr obj field, h => by
    show isDark ((if isConst obj then "(" ++ expr obj ++ ")" else expr obj) ++ "." ++ field) = true
    refine isDark_append (isDark_append ?_ _) _
    split
    · exact isDark_append (isDark_append (by decide) _) _
    · exact isDark_expr obj h.2
  | .call func _, h =>
    isDark_append (isDark_append (isDark_append (isDark_expr func h.1) _) _) _
  | .unary op value, _ => by
    show isDark (unary op (expr value)) = true
    unfold unary
    split
    · exact isDark_append (isDark_append (by decide) _) _
    · exact isDark_append (isDark_append (isDark_append (by decide) _) _) _
  | .binary _ _ _, _ | .ifExpr _ _ _, _ =>
    isDark_append (isDark_append (isDark_append (isDark_append (isDark_append
      (isDark_append (by decide) _) _) _) _) _) _
  | .isInstance _ _ _, _ =>
    isDark_append (isDark_append (isDark_append (isDark_append (by decide) _) _) _) _
  | .annotated value _, h => isDark_expr value h
  | .letIn [] body, h => isDark_expr body h.2
  | .letIn (_ :: _) _, _ | .list _, _ | .dict _ _, _ =>
    isDark_append (isDark_append (by decide) _) _
  | .tuple items, _ => by
    show isDark (Tree.encloseItems (exprs items)) = true
    unfold Tree.encloseItems
    split
    · exact isDark_append (isDark_append (by decide) _) _
    · exact isDark_append (isDark_append (by decide) _) _
  | .subscript value _, h =>
    isDark_append (isDark_append (isDark_append (isDark_expr value h.1) _) _) _

end Componentry.Emit
