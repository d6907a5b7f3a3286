import Componentry.Emit.Expr
import Componentry.Proofs.Yields
import Componentry.Session
import Mathlib.Data.Bool.AllAny
import Mathlib.Tactic.SplitIfs

/-!
# Points that join a number

A constant that owns an attribute is bracketed, since the point behind a whole number would be read
as part of the number. A constant inside an annotation is not seen to be one: its text is that of
the constant, and it gets no brackets.

**Theorem (`whole_owner_not_read`).** No text of an attribute whose owner is written as a whole
number without brackets is read as starting with this number.
-/

namespace Componentry

namespace Source.Number

/-! ## Numeric literals with a point -/

theorem decimalEnd_fraction_ne_int {whole f cs rest : List Char} {e : Option Int} {n : Nat} :
    decimalEnd whole (some f) e cs ≠ some (.int n, rest) := by
  unfold decimalEnd
  simp only
  split_ifs <;> simp

theorem decimalExponent_fraction_ne_int {whole f cs rest : List Char} {n : Nat} :
    decimalExponent whole (some f) cs ≠ some (.int n, rest) := by
  unfold decimalExponent
  intro h
  split at h
  · split_ifs at h
    · split at h
      · split_ifs at h
        iterate 3
          · obtain ⟨_, -, h⟩ := Option.bind_eq_some_iff.mp h
            exact decimalEnd_fraction_ne_int h
        · exact decimalEnd_fraction_ne_int h
      · split_ifs at h <;> exact decimalEnd_fraction_ne_int h
      · exact decimalEnd_fraction_ne_int h
    · exact decimalEnd_fraction_ne_int h
  · exact decimalEnd_fraction_ne_int h

theorem decimalFraction_ne_int {whole cs rest : List Char} {n : Nat} :
    decimalFraction whole cs ≠ some (.int n, rest) := by
  unfold decimalFraction
  intro h
  split at h
  · split_ifs at h
    · obtain ⟨_, -, h⟩ := Option.bind_eq_some_iff.mp h
      exact decimalExponent_fraction_ne_int h
    · exact decimalExponent_fraction_ne_int h
  · exact decimalExponent_fraction_ne_int h

theorem run_point {ds : List Char} (hds : ∀ c ∈ ds, c.isDigit = true) (rest : List Char) :
    run Char.isDigit (ds ++ '.' :: rest) = some (ds, '.' :: rest) := by
  induction ds with
  | nil => rfl
  | cons d ds ih =>
    obtain ⟨hd, hds⟩ := List.forall_mem_cons.mp hds
    have hunder : d ≠ '_' := by
      rintro rfl
      exact absurd hd (by decide)
    rw [List.cons_append, run.eq_4 _ _ _ (fun h _ => hunder h) fun _ _ h _ => hunder h, if_pos hd,
      ih hds]
    rfl

/-- The letters that give a base, behind a zero. -/
def baseLetters : List Char := ['x', 'X', 'o', 'O', 'b', 'B']

theorem not_isDigit_of_mem_baseLetters : ∀ c ∈ baseLetters, c.isDigit = false ∧ c ≠ '.' :=
  List.all_iff_forall_prop.mp (by decide)

theorem lex_point_ne_int {ds : List Char} (hne : ds ≠ []) (hds : ∀ c ∈ ds, c.isDigit = true)
    {cs rest : List Char} {n : Nat} : lex (ds ++ '.' :: cs) ≠ some (.int n, rest) := by
  have hbase (d : Char) (after : List Char) (hd : d ∈ baseLetters) :
      ds ++ '.' :: cs ≠ '0' :: d :: after := by
    obtain ⟨c, ds', rfl⟩ := List.exists_cons_of_ne_nil hne
    intro heq
    cases ds' with
    | nil =>
      obtain ⟨-, rfl, -⟩ : c = '0' ∧ '.' = d ∧ _ := by simpa using heq
      exact (not_isDigit_of_mem_baseLetters _ hd).2 rfl
    | cons c' ds' =>
      obtain ⟨-, rfl, -⟩ : c = '0' ∧ c' = d ∧ _ := by simpa using heq
      have hdigit := hds c' (by simp)
      simp [(not_isDigit_of_mem_baseLetters c' hd).1] at hdigit
  intro h
  unfold lex at h
  split at h
  · next heq => exact hbase _ _ (by decide) heq
  · next heq => exact hbase _ _ (by decide) heq
  · next heq => exact hbase _ _ (by decide) heq
  · next heq => exact hbase _ _ (by decide) heq
  · next heq => exact hbase _ _ (by decide) heq
  · next heq => exact hbase _ _ (by decide) heq
  · exact decimalFraction_ne_int h
  · rw [run_point hds] at h
    exact decimalFraction_ne_int h

end Source.Number

namespace Source.Lexer

theorem isNamePart_of_isDigit {c : Char} (h : c.isDigit = true) : Number.isNamePart c = true := by
  simp [Number.isNamePart, Char.isAlphanum, h]

theorem lexeme?_point_ne_int {ds : List Char} (hne : ds ≠ []) (hds : ∀ c ∈ ds, c.isDigit = true)
    {cs : List Char} {n length : Nat} :
    lexeme? (ds ++ '.' :: cs) ≠ some (.number (.int n), length) := by
  have hstart : startsNumber (ds ++ '.' :: cs) = true := by
    obtain ⟨d, ds', rfl⟩ := List.exists_cons_of_ne_nil hne
    have hd : d.isDigit = true := hds d List.mem_cons_self
    have hpoint : d ≠ '.' := by
      rintro rfl
      exact absurd hd (by decide)
    rw [List.cons_append, startsNumber.eq_2 _ _ fun _ _ h _ => hpoint h, hd]
  have hwindow : (ds ++ '.' :: cs).takeWhile
      (fun c => Number.isNamePart c || c == '.' || c == '+' || c == '-') =
      ds ++ '.' :: cs.takeWhile
        (fun c => Number.isNamePart c || c == '.' || c == '+' || c == '-') := by
    rw [List.takeWhile_append_of_pos fun c hc => by simp [isNamePart_of_isDigit (hds c hc)]]
    rfl
  rw [lexeme?, if_pos hstart, number?, hwindow]
  intro h
  obtain ⟨p, hp, heq⟩ := Option.map_eq_some_iff.mp h
  obtain ⟨k, rest⟩ := p
  obtain ⟨rfl, -⟩ : k = .int n ∧ _ := by simpa using heq
  exact Number.lex_point_ne_int hne hds hp

theorem ne_of_isDigit {c d : Char} (hc : c.isDigit = true) (hd : d.isDigit = false) : c ≠ d := by
  rintro rfl
  exact Bool.false_ne_true (hd.symm.trans hc)

theorem indentation_digit {c : Char} (hc : c.isDigit = true) (cs : List Char) :
    indentation ⟨0, 0⟩ 0 (c :: cs) = some (⟨0, 0⟩, 0) := by
  unfold indentation
  split
  case h_6 => rfl
  all_goals
    next heq =>
      obtain ⟨rfl, -⟩ := List.cons.inj heq
      exact absurd hc (by decide)

theorem uniformEnds_digits {ds : List Char} (hds : ∀ c ∈ ds, c.isDigit = true) (cs : List Char) :
    Text.uniformEnds (ds ++ '.' :: cs) = ds ++ '.' :: Text.uniformEnds cs := by
  induction ds with
  | nil => rfl
  | cons d ds ih =>
    obtain ⟨hd, hds⟩ := List.forall_mem_cons.mp hds
    have hreturn : d ≠ '\r' := ne_of_isDigit hd (by decide)
    rw [List.cons_append, Text.uniformEnds.eq_4 _ _ (fun _ h _ => hreturn h) fun h => hreturn h,
      ih hds]
    rfl

theorem loop_start_digit {c : Char} (hc : c.isDigit = true) {n : Nat} {p : Pos} {cs : List Char}
    {ts : List Token} (h : loop (n + 1) {} true p (c :: cs) = some ts) :
    loop n {} false p (c :: cs) = some ts := by
  have hne (d : Char) (hd : d.isDigit = false) : c ≠ d := ne_of_isDigit hc hd
  simp only [loop, indentation_digit hc, Option.bind_eq_bind, Option.bind_some, List.take_zero,
    List.drop_zero] at h
  split at h
  case h_1 heq => cases heq
  case h_2 heq => exact absurd (List.cons.inj heq).1 (hne '\n' (by decide))
  case h_3 heq => exact absurd (List.cons.inj heq).1 (hne '#' (by decide))
  case h_4 =>
    simpa [reindent, closeTo, Pos.after] using h

/-- Inside a line, a digit belongs to the next token. -/
theorem loop_digit {c : Char} (hc : c.isDigit = true) {n : Nat} {o : Open} {p : Pos}
    {cs : List Char} {ts : List Token} (h : loop n o false p (c :: cs) = some ts) :
    ∃ l length, lexeme? (c :: cs) = some (l, length) ∧ ts.head?.map Token.lexeme = some l := by
  cases n with
  | zero => cases h
  | succ n =>
    have hne (d : Char) (hd : d.isDigit = false) : c ≠ d := ne_of_isDigit hc hd
    have hgap : isGap c = false := by
      simp [isGap, hne ' ' (by decide), hne '\t' (by decide), hne '\x0c' (by decide)]
    simp only [loop, List.takeWhile_cons, hgap, Bool.false_eq_true, if_false, List.length_nil,
      List.drop_zero] at h
    split at h
    case h_1 heq => cases heq
    case h_2 heq => exact absurd (List.cons.inj heq).1 (hne '\n' (by decide))
    case h_3 heq => exact absurd (List.cons.inj heq).1 (hne '#' (by decide))
    case h_4 heq => exact absurd (List.cons.inj heq).1 (hne '\\' (by decide))
    case h_5 =>
      obtain ⟨⟨l, length⟩, hl, h⟩ := Option.bind_eq_some_iff.mp h
      dsimp only at h
      split at h
      all_goals
        obtain ⟨_, -, h⟩ := Option.bind_eq_some_iff.mp h
        obtain ⟨_, -, h⟩ := Option.bind_eq_some_iff.mp h
        obtain rfl := Option.some.inj h
        exact ⟨_, length, hl, rfl⟩

theorem head_tokensOf_point {ds : List Char} (hne : ds ≠ []) (hds : ∀ c ∈ ds, c.isDigit = true)
    {cs : List Char} {ts : List Token} (h : tokensOf (ds ++ '.' :: cs) = some ts) (n : Nat) :
    ts.head?.map Token.lexeme ≠ some (.number (.int n)) := by
  obtain ⟨after, hclose⟩ : ∃ after, close (Text.uniformEnds (ds ++ '.' :: cs)) =
      ds ++ '.' :: after := by
    rw [uniformEnds_digits hds, close]
    split
    · exact ⟨_, rfl⟩
    · exact ⟨_, List.append_assoc _ _ _⟩
  rw [tokensOf, hclose] at h
  obtain ⟨d, ds', rfl⟩ := List.exists_cons_of_ne_nil hne
  have hd : d.isDigit = true := hds d List.mem_cons_self
  obtain ⟨l, length, hl, hhead⟩ := loop_digit hd (loop_start_digit hd h)
  rw [hhead]
  rintro ⟨⟩
  exact lexeme?_point_ne_int hne hds hl

end Source.Lexer

namespace Emit

open Source (Token tokens parse)

/-- **An attribute of a whole number that is not seen as a constant is not read back.** The owner is
written as the number, and the point behind it becomes part of its literal. -/
theorem whole_owner_not_read {obj : Ir.Expr} {n : Nat} (hobj : isConst obj = false)
    (htext : expr obj = Json.intText n) (field : String) {ts : List Token}
    (h : tokens (expr (.attr obj field)) = some ts) :
    ts.head?.map Token.lexeme ≠ some (.number (.int n)) := by
  have hdigits : (Json.intText n).toList = Nat.toDigits 10 n := by
    rw [Json.intText, if_neg (Int.not_lt.mpr (Int.natCast_nonneg n)), Int.natAbs_natCast,
      Nat.repr_eq_ofList_toDigits, String.toList_ofList]
  have hchars : (expr (.attr obj field)).toList = Nat.toDigits 10 n ++ '.' :: field.toList := by
    simp [expr, hobj, htext, hdigits]
  rw [tokens, hchars] at h
  exact Source.Lexer.head_tokensOf_point Nat.toDigits_ne_nil
    (fun _ hc => Nat.isDigit_of_mem_toDigits (by decide) (by decide) hc) h n

/-- Here the point even makes an exponent of the attribute. -/
theorem exponent_owner_not_read :
    ∃ ts, tokens (expr (.attr (.annotated (.const (.int 1)) "System.Int32") "e5")) = some ts ∧
      ts.head?.map Token.lexeme ≠ some (.number (.int 1)) := by
  obtain ⟨ts, hts⟩ := Option.isSome_iff_exists.mp (by decide +kernel :
    (tokens (expr (.attr (.annotated (.const (.int 1)) "System.Int32") "e5"))).isSome = true)
  exact ⟨ts, hts, whole_owner_not_read (n := 1) rfl (by decide) "e5" hts⟩

/-- The value that a statement returns. -/
def returned? : Ir.Stmt → Option Ir.Expr
  | .ret value => value
  | _ => none

/-- An attribute of a whole number that a cast gives its type. -/
def castOwner : String := "def f():\n    return cast(int, 1).real\n"

theorem castOwner_unreadable :
    ∃ m, (compile .standard .keepLast none none castOwner).result = .ok m ∧
      ∃ f ∈ m.functions, ∃ e ∈ f.body.filterMap returned?,
        expr e = "1.real" ∧ parse (expr e) = none :=
  exists_ok (by decide +kernel)

end Emit

end Componentry
