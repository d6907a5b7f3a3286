import Componentry.Proofs.Consumption
import Componentry.Proofs.Grammar
import Componentry.Proofs.SpelledTokens

/-!
# Names of source trees

The grammar hands the names of a source text on as they are, so every name of a source tree is an
identifier.

A tree is *spelled* if this holds of what components may use of it, and if each key of a dictionary
has a value; forms that components may not use do not count.

**Theorem (`spelled_of_parse`).** What a text is read as is spelled.
-/

namespace Componentry.Source

open Text (IsWord)

/-! ## Trees -/

mutual

/-- The names of an expression are words. -/
def Expr.Spelled : Expr → Prop
  | .constant _ _ => True
  | .name _ id _ => IsWord id
  | .attr _ value member => value.Spelled ∧ IsWord member
  | .call _ func args _ => func.Spelled ∧ AllSpelled args
  | .list _ items => AllSpelled items
  | .tuple _ items => AllSpelled items
  | .dict _ keys values => keys.length = values.length ∧ AllSpelled keys ∧ AllSpelled values
  | .subscript _ value index => value.Spelled ∧ index.Spelled
  | .binary _ left _ right => left.Spelled ∧ right.Spelled
  | .connective _ _ values => AllSpelled values
  | .unary _ _ operand => operand.Spelled
  | .compare _ left _ comparators => left.Spelled ∧ AllSpelled comparators
  | .ifExpr _ test body orelse => test.Spelled ∧ body.Spelled ∧ orelse.Spelled
  | .form _ _ _ => True

def AllSpelled : List Expr → Prop
  | [] => True
  | e :: rest => e.Spelled ∧ AllSpelled rest

end

theorem allSpelled_iff {es : List Expr} : AllSpelled es ↔ ∀ e ∈ es, e.Spelled := by
  induction es with
  | nil => simp [AllSpelled]
  | cons e rest ih => simp [AllSpelled, ih]

/-- A pattern that names what it matches names it by a word. -/
def Pattern.Spelled : Pattern → Prop
  | .bound _ _ name => IsWord name
  | _ => True

/-- The parameters that components may use are named by words. -/
def Params.Spelled (ps : Params) : Prop := ∀ p ∈ ps.regular, IsWord p.name

mutual

/-- The names of a statement are words. -/
def Stmt.Spelled : Stmt → Prop
  | .functionDef _ name params body _ _ => IsWord name ∧ params.Spelled ∧ BlockSpelled body
  | .classDef _ name _ _ body _ => IsWord name ∧ BlockSpelled body
  | .ret _ value => ∀ e ∈ value, e.Spelled
  | .assign _ targets value => AllSpelled targets ∧ value.Spelled
  | .augAssign _ target _ value => target.Spelled ∧ value.Spelled
  | .annAssign _ target _ value => target.Spelled ∧ ∀ e ∈ value, e.Spelled
  | .forIn _ target iter body _ => target.Spelled ∧ iter.Spelled ∧ BlockSpelled body
  | .whileDo _ test body _ => test.Spelled ∧ BlockSpelled body
  | .ifElse _ test body orelse => test.Spelled ∧ BlockSpelled body ∧ BlockSpelled orelse
  | .matchOn _ subject cases => subject.Spelled ∧ CasesSpelled cases
  | .expr _ value => value.Spelled
  | .pass _ => True
  | .brk _ => True
  | .cont _ => True
  | .form _ _ _ => True

def BlockSpelled : List Stmt → Prop
  | [] => True
  | s :: rest => s.Spelled ∧ BlockSpelled rest

def CasesSpelled : List Case → Prop
  | [] => True
  | .mk pattern _ body :: rest => pattern.Spelled ∧ BlockSpelled body ∧ CasesSpelled rest

end

theorem blockSpelled_iff {stmts : List Stmt} : BlockSpelled stmts ↔ ∀ s ∈ stmts, s.Spelled := by
  induction stmts with
  | nil => simp [BlockSpelled]
  | cons s rest ih => simp [BlockSpelled, ih]

theorem casesSpelled_iff {cases : List Case} : CasesSpelled cases ↔
    ∀ pattern guard body, .mk pattern guard body ∈ cases → pattern.Spelled ∧ BlockSpelled body := by
  induction cases with
  | nil => simp [CasesSpelled]
  | cons c rest ih =>
    obtain ⟨pattern, guard, body⟩ := c
    rw [CasesSpelled, ih]
    constructor
    · rintro ⟨hpattern, hbody, hrest⟩ pattern' guard' body' hmem
      rcases List.mem_cons.1 hmem with heq | hmem
      · cases heq
        exact ⟨hpattern, hbody⟩
      · exact hrest pattern' guard' body' hmem
    · intro h
      have hfirst := h pattern guard body (List.mem_cons_self ..)
      exact ⟨hfirst.1, hfirst.2, fun p g b hmem => h p g b (List.mem_cons_of_mem _ hmem)⟩

/-! ## Readers -/

namespace Parse

variable {α β : Type} {P : α → Prop} {Q : β → Prop}

/-- Whatever `p` reads from spelled tokens satisfies `P`. -/
def Reads (p : Parse α) (P : α → Prop) : Prop :=
  ∀ c a c', (∀ t ∈ c.rest, t.lexeme.Spelled) → p c = some (a, c') → P a

theorem Gives.reads {p : Parse α} (h : Gives p P) : Reads p P := fun c a c' _ => h c a c'

theorem reads_pure {a : α} (h : P a) : Reads (pure a) P := (gives_pure h).reads

theorem reads_failure : Reads (failure : Parse α) P := gives_failure.reads

theorem Reads.bind {p : Parse β} {f : β → Parse α} [hp' : Consumes p] (hp : Reads p Q)
    (hf : ∀ b, Q b → Reads (f b) P) : Reads (p >>= f) P := by
  intro c a c' hc h
  simp only [Bind.bind, StateT.bind, Option.bind_eq_some_iff] at h
  obtain ⟨⟨b, c₁⟩, hb, ha⟩ := h
  have hc₁ : ∀ t ∈ c₁.rest, t.lexeme.Spelled := fun t ht => hc t ((hp'.suffix hb).subset ht)
  exact hf b (hp c b c₁ hc hb) c₁ a c' hc₁ ha

theorem reads_after {p : Parse β} {f : β → Parse α} [Consumes p] (hf : ∀ b, Reads (f b) P) :
    Reads (p >>= f) P :=
  Reads.bind (Q := fun _ => True) (fun _ _ _ _ _ => trivial) fun b _ => hf b

theorem reads_ite {c : Prop} [Decidable c] {p q : Parse α} (hp : Reads p P) (hq : Reads q P) :
    Reads (if c then p else q) P := by
  split
  · exact hp
  · exact hq

theorem reads_seqRight {p : Parse β} {q : Parse α} [Consumes p] (hq : Reads q P) :
    Reads (p *> q) P := by
  rw [seqRight_eq_bind]
  exact reads_after fun _ => hq

theorem reads_map {p : Parse β} {f : β → α} [Consumes p] (hp : Reads p Q)
    (hf : ∀ b, Q b → P (f b)) : Reads (f <$> p) P := by
  rw [map_eq_pure_bind]
  exact hp.bind fun b hb => reads_pure (hf b hb)

theorem reads_orElse {p q : Parse α} (hp : Reads p P) (hq : Reads q P) : Reads (p <|> q) P := by
  intro c a c' hc h
  have h : (p c <|> q c) = some (a, c') := h
  cases hpc : p c with
  | none => exact hq c a c' hc (by simpa [hpc] using h)
  | some b => exact hp c a c' hc (by simpa [hpc] using h)

theorem reads_manyUpTo {p : Parse α} [hp' : Consumes p] (hp : Reads p P) (bound : List Token) :
    Reads (manyUpTo p bound) fun as => ∀ a ∈ as, P a := by
  induction bound with
  | nil => exact reads_pure (by simp)
  | cons _ bound ih =>
    intro c as c' hc h
    simp only [manyUpTo] at h
    split at h
    · cases h
      simp
    · next a c₁ ha =>
      obtain ⟨⟨rest, c₂⟩, hrest, heq⟩ := Option.map_eq_some_iff.mp h
      obtain ⟨rfl, rfl⟩ := Prod.mk.inj heq
      have hc₁ : ∀ t ∈ c₁.rest, t.lexeme.Spelled := fun t ht => hc t ((hp'.suffix ha).subset ht)
      intro b hb
      rcases List.mem_cons.mp hb with rfl | hb
      · exact hp c b c₁ hc ha
      · exact ih c₁ rest c₂ hc₁ hrest b hb

theorem reads_many {p : Parse α} [Consumes p] (hp : Reads p P) :
    Reads (many p) fun as => ∀ a ∈ as, P a :=
  fun c => reads_manyUpTo hp c.rest c

theorem reads_many1 {p : Parse α} [Consumes p] (hp : Reads p P) :
    Reads (many1 p) fun as => ∀ a ∈ as, P a :=
  hp.bind fun _ ha => (reads_many hp).bind fun _ has => reads_pure (by simpa using ⟨ha, has⟩)

theorem reads_optional {p : Parse α} [Consumes p] (hp : Reads p P) :
    Reads (Parse.optional p) fun a => ∀ b ∈ a, P b :=
  reads_orElse (reads_map hp fun b hb => by simpa using hb) (reads_pure (by simp))

theorem reads_commaSeparated {p : Parse α} [Consumes p] (hp : Reads p P) :
    Reads (commaSeparated p) fun as => ∀ a ∈ as, P a :=
  hp.bind fun _ ha => (reads_many (reads_seqRight hp)).bind fun _ has =>
    reads_pure (by simpa using ⟨ha, has⟩)

theorem reads_commaList {p : Parse α} [Consumes p] (hp : Reads p P) :
    Reads (commaList p) fun as => ∀ a ∈ as, P a :=
  (reads_commaSeparated hp).bind fun _ has => reads_after fun _ => reads_pure has

theorem reads_peek : Reads peek Lexeme.Spelled := by
  intro c l c' hc h
  unfold peek at h
  split at h
  · cases h
  · rename_i hrest
    cases h
    exact hc _ (by rw [hrest]; exact List.mem_cons_self ..)

theorem reads_next : Reads next (·.lexeme.Spelled) := by
  intro c t c' hc h
  unfold next at h
  split at h
  · cases h
  · rename_i hrest
    cases h
    exact hc _ (by rw [hrest]; exact List.mem_cons_self ..)

theorem reads_name : Reads name IsWord := by
  refine reads_next.bind fun t ht => ?_
  split
  · next id verbatim heq =>
    rw [heq] at ht
    exact reads_pure ht
  · exact reads_failure

end Parse

namespace Grammar

open Parse

/-! ## Targets -/

mutual

theorem spelled_target? : ∀ {e t : Expr}, e.Spelled → target? e = some t → t.Spelled
  | .name .., _, he, h => by
    cases h
    exact he
  | .attr .., _, he, h => by
    cases h
    exact he
  | .subscript .., _, he, h => by
    cases h
    exact he
  | .list .., _, he, h => by
    obtain ⟨ts, hts, rfl⟩ := Option.map_eq_some_iff.1 h
    exact spelled_targets? he hts
  | .tuple .., _, he, h => by
    obtain ⟨ts, hts, rfl⟩ := Option.map_eq_some_iff.1 h
    exact spelled_targets? he hts
  | .constant .., _, _, h => by cases h
  | .call .., _, _, h => by cases h
  | .dict .., _, _, h => by cases h
  | .binary .., _, _, h => by cases h
  | .connective .., _, _, h => by cases h
  | .unary .., _, _, h => by cases h
  | .compare .., _, _, h => by cases h
  | .ifExpr .., _, _, h => by cases h
  | .form .., _, _, h => by cases h

theorem spelled_targets? : ∀ {es ts : List Expr}, AllSpelled es → targets? es = some ts →
    AllSpelled ts
  | [], _, _, h => by
    cases h
    trivial
  | e :: rest, ts, hes, h => by
    unfold targets? at h
    split at h
    · cases h
      trivial
    · next span value rest' heq =>
      cases heq
      simp only [Option.bind_eq_bind, Option.bind_eq_some_iff, Option.pure_def,
        Option.some.injEq] at h
      obtain ⟨t, -, ts', hts', rfl⟩ := h
      exact ⟨trivial, spelled_targets? hes.2 hts'⟩
    · next e' rest' _ heq =>
      cases heq
      simp only [Option.bind_eq_bind, Option.bind_eq_some_iff, Option.pure_def,
        Option.some.injEq] at h
      obtain ⟨t, ht, ts', hts', rfl⟩ := h
      exact ⟨spelled_target? hes.1 ht, spelled_targets? hes.2 hts'⟩

end

theorem spelled_starTarget? {e t : Expr} (he : e.Spelled) (h : starTarget? e = some t) :
    t.Spelled := by
  unfold starTarget? at h
  split at h
  · obtain ⟨t', -, rfl⟩ := Option.map_eq_some_iff.1 h
    trivial
  · exact spelled_target? he h

theorem spelled_singleTarget? {e t : Expr} (he : e.Spelled) (h : singleTarget? e = some t) :
    t.Spelled := by
  unfold singleTarget? at h
  split at h
  · cases h
  · cases h
  · exact spelled_target? he h

theorem spelled_mapM_starTarget? {es ts : List Expr} (hes : AllSpelled es)
    (h : es.mapM starTarget? = some ts) : AllSpelled ts := by
  induction es generalizing ts with
  | nil =>
    obtain rfl : [] = ts := by simpa using h
    trivial
  | cons e rest ih =>
    simp only [List.mapM_cons, Option.bind_eq_bind, Option.bind_eq_some_iff, Option.pure_def,
      Option.some.injEq] at h
    obtain ⟨t, ht, ts', hts, rfl⟩ := h
    exact ⟨spelled_starTarget? hes.1 ht, ih hes.2 hts⟩

/-! ## Expressions -/

theorem reads_starred (operand : Parse Expr) [Consumes operand] :
    Reads (starred operand) Expr.Spelled :=
  reads_after fun _ => reads_after fun _ => reads_after fun _ => reads_after fun _ =>
    reads_pure trivial

theorem reads_tupleOf {item : Parse Expr} [Consumes item] (h : Reads item Expr.Spelled) :
    Reads (tupleOf item) Expr.Spelled := by
  refine reads_after fun _ => h.bind fun first hfirst => ?_
  refine (reads_many (reads_seqRight h)).bind fun rest hrest => reads_after fun _ => ?_
  refine reads_ite (reads_pure hfirst) (reads_after fun _ => reads_pure ?_)
  exact ⟨hfirst, allSpelled_iff.2 hrest⟩

section Expressions

variable {g : Rules} [∀ level, Consumes (g level)] (hg : ∀ level, Reads (g level) Expr.Spelled)

include hg

theorem reads_named : Reads (named g) Expr.Spelled := by
  refine reads_after fun _ => reads_after fun _ => reads_after fun _ => ?_
  split
  · exact reads_after fun _ => reads_after fun _ => reads_after fun _ => reads_after fun _ =>
      reads_after fun _ => reads_pure trivial
  · refine (hg .expression).bind fun e he => reads_after fun _ => ?_
    exact reads_ite (reads_after fun _ => reads_pure he) (reads_pure he)

theorem reads_starExpression : Reads (starExpression g) Expr.Spelled :=
  reads_orElse (reads_starred _) (hg .expression)

theorem reads_starNamed : Reads (starNamed g) Expr.Spelled :=
  reads_orElse (reads_starred _) (reads_named hg)

theorem reads_starExpressions : Reads (starExpressions g) Expr.Spelled :=
  reads_tupleOf (reads_starExpression hg)

omit hg in
theorem reads_yielded : Reads (yielded g) Expr.Spelled := by
  refine reads_after fun _ => reads_after fun _ => reads_after fun _ => ?_
  exact reads_ite (reads_after fun _ => reads_after fun _ => reads_pure trivial)
    (reads_after fun _ => reads_after fun _ => reads_pure trivial)

theorem reads_loopTargets : Reads (loopTargets g) Expr.Spelled := by
  refine (reads_tupleOf (reads_orElse (reads_starred _) (hg .primary))).bind fun e he => ?_
  split
  · next t ht => exact reads_pure (spelled_starTarget? he ht)
  · exact reads_failure

def Argument.Spelled : Argument → Prop
  | .positional e => e.Spelled
  | .starred e => e.Spelled
  | .keyword e => e.Spelled
  | .unpacked e => e.Spelled

theorem reads_argument : Reads (argument g) Argument.Spelled := by
  refine reads_after fun _ => reads_after fun _ => reads_after fun _ => ?_
  split
  · exact (reads_starred (g .expression)).bind fun e he => reads_pure he
  · exact reads_after fun _ => reads_after fun _ => reads_after fun _ => reads_pure trivial
  · exact reads_after fun _ => reads_after fun _ => reads_after fun _ => reads_after fun _ =>
      reads_pure trivial
  · refine (reads_named hg).bind fun e he => reads_after fun _ => ?_
    exact reads_ite (reads_after fun _ => reads_pure he) (reads_pure he)

omit hg in
theorem spelled_splitArguments {args : List Argument} (h : ∀ a ∈ args, a.Spelled) :
    AllSpelled (splitArguments args).1 := by
  rw [allSpelled_iff]
  intro e he
  obtain ⟨a, ha, heq⟩ := List.mem_filterMap.1 he
  have hspelled := h a ha
  cases a <;> cases heq <;> exact hspelled

theorem reads_callArguments : Reads (callArguments g) fun r => AllSpelled r.1 := by
  refine reads_after fun _ => reads_after fun _ => reads_after fun _ => ?_
  refine reads_ite (reads_pure trivial) ?_
  refine (reads_argument hg).bind fun first hfirst => reads_after fun _ => ?_
  split
  · exact reads_after fun _ => reads_after fun _ => reads_after fun _ =>
      reads_pure ⟨trivial, trivial⟩
  · refine (reads_many (reads_seqRight (reads_argument hg))).bind fun rest hrest => ?_
    refine reads_after fun _ => reads_after fun _ => ?_
    refine reads_ite (reads_pure (spelled_splitArguments ?_)) reads_failure
    intro a ha
    rcases List.mem_cons.1 ha with rfl | ha
    · exact hfirst
    · exact hrest a ha

theorem reads_bracketed : Reads (bracketed g) Expr.Spelled := by
  refine reads_after fun _ => reads_after fun _ => reads_after fun _ => ?_
  refine reads_ite (reads_after fun _ => reads_pure trivial) (reads_after fun _ => ?_)
  refine reads_ite (reads_yielded.bind fun e he => reads_after fun _ => reads_pure he) ?_
  refine (reads_starNamed hg).bind fun first hfirst => reads_after fun _ => ?_
  split
  · refine reads_after fun _ => reads_after fun _ => ?_
    refine reads_ite (reads_after fun _ => reads_pure ⟨hfirst, trivial⟩) ?_
    refine (reads_commaList (reads_starNamed hg)).bind fun rest hrest => ?_
    exact reads_after fun _ => reads_after fun _ => reads_pure ⟨hfirst, allSpelled_iff.2 hrest⟩
  · exact reads_ite (reads_after fun _ => reads_after fun _ => reads_pure hfirst)
      (reads_after fun _ => reads_pure hfirst)
  · exact reads_ite
      (reads_after fun _ => reads_after fun _ => reads_after fun _ => reads_after fun _ =>
        reads_pure trivial)
      (reads_after fun _ => reads_after fun _ => reads_after fun _ => reads_pure trivial)

theorem reads_listDisplay : Reads (listDisplay g) Expr.Spelled := by
  refine reads_after fun _ => reads_after fun _ => reads_after fun _ => ?_
  refine reads_ite (reads_after fun _ => reads_pure trivial) ?_
  refine (reads_starNamed hg).bind fun first hfirst => reads_after fun _ => ?_
  refine reads_ite ?_ ?_
  · exact reads_ite
      (reads_after fun _ => reads_after fun _ => reads_after fun _ => reads_after fun _ =>
        reads_pure trivial)
      (reads_after fun _ => reads_after fun _ => reads_after fun _ => reads_pure trivial)
  · refine (reads_many (reads_seqRight (reads_starNamed hg))).bind fun rest hrest => ?_
    exact reads_after fun _ => reads_after fun _ => reads_after fun _ =>
      reads_pure ⟨hfirst, allSpelled_iff.2 hrest⟩

def EntrySpelled (entry : Option Expr × Expr) : Prop :=
  (∀ key ∈ entry.1, key.Spelled) ∧ entry.2.Spelled

theorem reads_dictEntry : Reads (dictEntry g) EntrySpelled := by
  refine reads_after fun _ => reads_ite ?_ ?_
  · exact (hg .bitwiseOr).bind fun value hvalue => reads_pure ⟨by simp, hvalue⟩
  · refine (hg .expression).bind fun key hkey => reads_after fun _ => ?_
    exact (hg .expression).bind fun value hvalue => reads_pure ⟨by simpa using hkey, hvalue⟩

omit hg in
theorem spelled_dictOf {span : Span} {entries : List (Option Expr × Expr)}
    (h : ∀ e ∈ entries, EntrySpelled e) : (dictOf span entries).Spelled := by
  unfold dictOf
  dsimp only
  split
  · next hlength =>
    refine ⟨hlength, ?_, ?_⟩
    · rw [allSpelled_iff]
      intro key hkey
      obtain ⟨entry, hentry, heq⟩ := List.mem_filterMap.1 hkey
      exact (h entry hentry).1 key heq
    · rw [allSpelled_iff]
      intro value hvalue
      obtain ⟨entry, hentry, rfl⟩ := List.mem_map.1 hvalue
      exact (h entry hentry).2
  · trivial

theorem reads_dictRest (start : Pos) {first : Option Expr × Expr} (hfirst : EntrySpelled first) :
    Reads (dictRest g start first) Expr.Spelled := by
  refine reads_after fun _ => ?_
  split
  · exact reads_after fun _ => reads_after fun _ => reads_after fun _ => reads_pure trivial
  · refine (reads_many (reads_seqRight (reads_dictEntry hg))).bind fun rest hrest => ?_
    refine reads_after fun _ => reads_after fun _ => reads_after fun _ => reads_pure ?_
    apply spelled_dictOf
    intro entry hentry
    rcases List.mem_cons.1 hentry with rfl | hentry
    · exact hfirst
    · exact hrest entry hentry

omit hg in
theorem reads_setRest (start : Pos) (first : Expr) :
    Reads (setRest g start first) Expr.Spelled := by
  refine reads_after fun _ => reads_ite ?_ ?_
  · exact reads_ite
      (reads_after fun _ => reads_after fun _ => reads_after fun _ => reads_after fun _ =>
        reads_pure trivial)
      (reads_after fun _ => reads_after fun _ => reads_after fun _ => reads_pure trivial)
  · exact reads_after fun _ => reads_after fun _ => reads_after fun _ => reads_after fun _ =>
      reads_pure trivial

theorem reads_braceDisplay : Reads (braceDisplay g) Expr.Spelled := by
  refine reads_after fun start => reads_after fun _ => reads_after fun _ => ?_
  refine reads_ite (reads_after fun _ => reads_pure ⟨rfl, trivial, trivial⟩) ?_
  refine reads_after fun _ => reads_ite ?_ ?_
  · exact (reads_dictEntry hg).bind fun first hfirst => reads_dictRest hg start hfirst
  · refine reads_after fun isNamed => (reads_starNamed hg).bind fun first hfirst => ?_
    refine reads_ite ?_ (reads_setRest start first)
    refine reads_after fun _ => reads_ite ?_ (reads_setRest start first)
    refine (hg .expression).bind fun value hvalue => reads_dictRest hg start ?_
    exact ⟨by simpa using hfirst, hvalue⟩

omit hg [∀ level, Consumes (g level)] in
theorem reads_strings : Reads (strings g) Expr.Spelled := by
  refine reads_after fun _ => reads_after fun ts => reads_after fun span => ?_
  split
  · next e he =>
    refine reads_pure ?_
    unfold stringsExpr at he
    split at he
    · split at he
      · obtain ⟨_, -, heq⟩ := Option.bind_eq_some_iff.1 he
        cases heq
        trivial
      · cases he
    · split at he
      · obtain ⟨_, -, heq⟩ := Option.bind_eq_some_iff.1 he
        cases heq
        trivial
      · obtain ⟨_, -, heq⟩ := Option.bind_eq_some_iff.1 he
        cases heq
        trivial
  · exact reads_failure

theorem reads_atom : Reads (atom g) Expr.Spelled := by
  refine reads_after fun start => ?_
  have hconstant (c : Constant) : Reads (do
      let _ ← next
      return .constant (← spanFrom start) c) Expr.Spelled :=
    reads_after fun _ => reads_after fun _ => reads_pure trivial
  refine reads_peek.bind fun l hl => ?_
  split
  · exact reads_after fun _ => reads_after fun _ => reads_pure hl
  · exact hconstant _
  · exact hconstant _
  · exact hconstant _
  · exact hconstant _
  · exact hconstant _
  · exact reads_strings
  · exact reads_bracketed hg
  · exact reads_listDisplay hg
  · exact reads_braceDisplay hg
  · exact reads_failure

theorem reads_slice : Reads (slice g) Expr.Spelled := by
  refine reads_after fun start => ?_
  have hbounds (lower : List Expr) : Reads (do
      sign .colon
      let upper ← Option.toList <$> Parse.optional (g .expression)
      let step ← if ← accept .colon then
        Option.toList <$> Parse.optional (g .expression) else pure []
      return .form (← spanFrom start) .slice (lower ++ upper ++ step)) Expr.Spelled := by
    refine reads_after fun _ => reads_after fun _ => reads_after fun _ => ?_
    exact reads_ite (reads_after fun _ => reads_after fun _ => reads_pure trivial)
      (reads_after fun _ => reads_after fun _ => reads_pure trivial)
  refine reads_after fun _ => reads_ite (hbounds []) ?_
  refine reads_after fun _ => (reads_named hg).bind fun first hfirst => reads_after fun _ => ?_
  exact reads_ite (hbounds [first]) (reads_pure hfirst)

theorem reads_slices : Reads (slices g) Expr.Spelled := by
  have hitem : Reads (slice g <|> starred (g .expression)) Expr.Spelled :=
    reads_orElse (reads_slice hg) (reads_starred _)
  refine reads_after fun _ => hitem.bind fun first hfirst => ?_
  refine (reads_many (reads_seqRight hitem)).bind fun rest hrest => reads_after fun _ => ?_
  refine reads_ite (reads_pure hfirst) (reads_after fun _ => reads_pure ?_)
  exact ⟨hfirst, allSpelled_iff.2 hrest⟩

theorem reads_trailer (start : Pos) :
    Reads (trailer g start) fun f => ∀ e, e.Spelled → (f e).Spelled := by
  refine reads_after fun _ => ?_
  split
  · refine reads_after fun _ => reads_name.bind fun member hmember => reads_after fun _ => ?_
    exact reads_pure fun e he => ⟨he, hmember⟩
  · refine (reads_callArguments hg).bind fun args hargs => reads_after fun _ => ?_
    exact reads_pure fun e he => ⟨he, hargs⟩
  · refine reads_after fun _ => (reads_slices hg).bind fun index hindex => ?_
    exact reads_after fun _ => reads_after fun _ => reads_pure fun e he => ⟨he, hindex⟩
  · exact reads_failure

theorem reads_primary : Reads (primary g) Expr.Spelled := by
  refine reads_after fun start => (reads_atom hg).bind fun e he => ?_
  refine (reads_many (reads_trailer hg start)).bind fun trailers htrailers => reads_pure ?_
  induction trailers generalizing e with
  | nil => exact he
  | cons f rest ih =>
    exact ih (f e) (htrailers f (List.mem_cons_self ..) e he)
      fun f' hf' => htrailers f' (List.mem_cons_of_mem _ hf')

theorem reads_power : Reads (power g) Expr.Spelled := by
  have hrest (start : Pos) (base : Expr) (hbase : base.Spelled) : Reads (do
      if ← accept .doubleStar then
        let exponent ← g .factor
        return .binary (← spanFrom start) base .pow exponent
      return base) Expr.Spelled := by
    refine reads_after fun _ => reads_ite ?_ (reads_pure hbase)
    exact (hg .factor).bind fun e he => reads_after fun _ => reads_pure ⟨hbase, he⟩
  refine reads_after fun start => reads_after fun _ => reads_ite ?_ ?_
  · have hawait (span : Span) (value : Expr) :
        Reads (pure (.form span .await [value]) : Parse Expr) Expr.Spelled := reads_pure trivial
    exact reads_after fun value => reads_after fun span => (hawait span value).bind (hrest start)
  · exact (reads_primary hg).bind fun base hbase => hrest start base hbase

theorem reads_factor : Reads (factor g) Expr.Spelled := by
  refine reads_after fun _ => reads_after fun _ => ?_
  dsimp only
  split
  · refine reads_after fun _ => (hg .factor).bind fun operand hoperand => ?_
    exact reads_after fun _ => reads_pure hoperand
  · exact reads_power hg

omit hg in
theorem reads_operatorChain {operand : Parse Expr} [Consumes operand]
    (h : Reads operand Expr.Spelled) (levels : List (List (Sign × BinaryOp))) :
    Reads (operatorChain operand levels) Expr.Spelled := by
  induction levels with
  | nil => exact h
  | cons ops tighter ih =>
    refine reads_after fun start => ih.bind fun first hfirst => ?_
    have hitem : Reads (do
        let op ← binaryOperator ops
        let right ← operatorChain operand tighter
        return (op, right, ← spanFrom start)) fun item => item.2.1.Spelled :=
      reads_after fun _ => ih.bind fun right hright => reads_after fun _ => reads_pure hright
    refine (reads_many hitem).bind fun rest hrest => reads_pure ?_
    induction rest generalizing first with
    | nil => exact hfirst
    | cons item rest ih' =>
      exact ih' _ ⟨hfirst, hrest item (List.mem_cons_self ..)⟩
        fun item' hitem' => hrest item' (List.mem_cons_of_mem _ hitem')

theorem reads_bitwiseOr : Reads (bitwiseOr g) Expr.Spelled :=
  reads_operatorChain (reads_factor hg) precedence

theorem reads_comparison : Reads (comparison g) Expr.Spelled := by
  refine reads_after fun _ => (reads_bitwiseOr hg).bind fun left hleft => ?_
  have hitem : Reads (do return (← compareOperator, ← bitwiseOr g)) fun item => item.2.Spelled :=
    reads_after fun _ => (reads_bitwiseOr hg).bind fun right hright => reads_pure hright
  refine (reads_many hitem).bind fun rest hrest => reads_ite (reads_pure hleft) ?_
  refine reads_after fun _ => reads_pure ⟨hleft, allSpelled_iff.2 ?_⟩
  intro e he
  obtain ⟨item, hmem, rfl⟩ := List.mem_map.1 he
  exact hrest item hmem

theorem reads_inversion : Reads (inversion g) Expr.Spelled := by
  refine reads_after fun _ => reads_after fun _ => reads_ite ?_ (reads_comparison hg)
  exact (hg .inversion).bind fun operand hoperand => reads_after fun _ => reads_pure hoperand

omit hg in
theorem reads_connectiveChain (w : Word) (op : BoolOp) {operand : Parse Expr} [Consumes operand]
    (h : Reads operand Expr.Spelled) : Reads (connectiveChain w op operand) Expr.Spelled := by
  refine reads_after fun _ => h.bind fun first hfirst => ?_
  refine (reads_many (reads_seqRight h)).bind fun rest hrest => reads_ite (reads_pure hfirst) ?_
  exact reads_after fun _ => reads_pure ⟨hfirst, allSpelled_iff.2 hrest⟩

theorem reads_disjunction : Reads (disjunction g) Expr.Spelled :=
  reads_connectiveChain _ _ (reads_connectiveChain _ _ (reads_inversion hg))

theorem reads_expression : Reads (expression g) Expr.Spelled := by
  have hlambda : Reads (lambda g) Expr.Spelled :=
    reads_after fun _ => reads_after fun _ => reads_after fun _ => reads_after fun _ =>
      reads_after fun _ => reads_after fun _ => reads_after fun _ => reads_pure trivial
  refine reads_after fun _ => reads_ite hlambda ?_
  refine reads_after fun _ => (reads_disjunction hg).bind fun body hbody => ?_
  refine reads_orElse (reads_after fun _ => ?_) (reads_pure hbody)
  refine (hg .disjunction).bind fun test htest => reads_after fun _ => ?_
  exact (hg .expression).bind fun orelse horelse => reads_after fun _ =>
    reads_pure ⟨htest, hbody, horelse⟩

theorem reads_rule (level : Level) : Reads (rule g level) Expr.Spelled := by
  cases level with
  | expression => exact reads_expression hg
  | disjunction => exact reads_disjunction hg
  | inversion => exact reads_inversion hg
  | bitwiseOr => exact reads_bitwiseOr hg
  | factor => exact reads_factor hg
  | primary => exact reads_primary hg

end Expressions

theorem reads_exprAt (depth : Nat) (level : Level) : Reads (exprAt depth level) Expr.Spelled := by
  induction depth generalizing level with
  | zero => exact reads_failure
  | succ n ih => exact reads_rule ih level

/-! ## Patterns -/

theorem reads_captureName : Reads captureName IsWord := by
  refine reads_name.bind fun id hid => reads_ite (reads_after fun _ => ?_) ?_
  all_goals
    refine reads_after fun _ => ?_
    split
    · exact reads_failure
    · exact reads_failure
    · exact reads_failure
    · exact reads_pure hid

theorem reads_starPattern : Reads starPattern Pattern.Spelled := by
  refine reads_after fun _ => reads_after fun _ => reads_after fun id => reads_after fun _ => ?_
  have hrest (start : Pos) : Reads (do return .star (← spanFrom start)) Pattern.Spelled :=
    reads_after fun _ => reads_pure trivial
  have hunit (start : Pos) : Reads (do
      if id = "_" then pure () else failure
      return .star (← spanFrom start)) Pattern.Spelled :=
    reads_ite (hrest start) (reads_after fun _ => hrest start)
  dsimp only
  split
  · exact hunit _
  · exact hunit _
  · exact hunit _
  · exact hrest _

theorem reads_literalPattern (g : Rules) [∀ level, Consumes (g level)] :
    Reads (literalPattern g) Pattern.Spelled := by
  refine reads_after fun _ => reads_after fun _ => ?_
  split
  · exact reads_after fun _ => reads_pure trivial
  · exact reads_after fun _ => reads_pure trivial

theorem reads_namePattern (p : Parse Pattern) [Consumes p] :
    Reads (namePattern p) Pattern.Spelled := by
  refine reads_after fun _ => reads_after fun _ => ?_
  refine reads_ite (reads_after fun _ => reads_after fun _ => reads_pure trivial) ?_
  refine reads_after fun e => reads_after fun _ => ?_
  refine reads_ite
    (reads_after fun _ => reads_after fun _ => reads_after fun _ => reads_pure trivial) ?_
  refine reads_after fun _ => ?_
  dsimp only
  split
  · exact reads_failure
  · split
    · exact reads_pure trivial
    · exact reads_after fun _ => reads_pure trivial

section Patterns

variable (g : Rules) [∀ level, Consumes (g level)] {p : Parse Pattern} [Consumes p]
  (hp : Reads p Pattern.Spelled)

include hp

omit [Consumes p] in
theorem reads_sequenceItem : Reads (sequenceItem p) Pattern.Spelled := by
  exact reads_orElse reads_starPattern hp

theorem reads_bracketedPattern : Reads (bracketedPattern p) Pattern.Spelled := by
  refine reads_after fun _ => reads_after fun _ => reads_after fun _ => ?_
  refine reads_ite (reads_after fun _ => reads_pure trivial) (reads_after fun _ => ?_)
  refine (reads_sequenceItem hp).bind fun first hfirst => reads_after fun _ => ?_
  refine reads_ite (reads_after fun _ => ?_) ?_
  · exact reads_ite
      (reads_after fun _ => reads_after fun _ => reads_after fun _ => reads_pure trivial)
      (reads_after fun _ => reads_after fun _ => reads_after fun _ => reads_pure trivial)
  · exact reads_ite (reads_after fun _ => reads_after fun _ => reads_pure hfirst)
      (reads_after fun _ => reads_pure hfirst)

theorem reads_closedPattern : Reads (closedPattern g p) Pattern.Spelled := by
  refine reads_after fun _ => ?_
  split
  · exact reads_namePattern p
  · exact reads_bracketedPattern hp
  · -- a sequence in square brackets
    refine reads_after fun _ => reads_after fun _ => reads_after fun _ => ?_
    exact reads_ite (reads_after fun _ => reads_pure trivial)
      (reads_after fun _ => reads_after fun _ => reads_after fun _ => reads_pure trivial)
  · -- a mapping
    refine reads_after fun _ => reads_after fun _ => reads_after fun _ => ?_
    refine reads_ite (reads_after fun _ => reads_pure trivial) ?_
    refine reads_after fun _ => reads_after fun _ => ?_
    exact reads_ite (reads_after fun _ => reads_after fun _ => reads_pure trivial)
      (reads_after fun _ => reads_pure trivial)
  · exact reads_literalPattern g

theorem reads_pattern : Reads (pattern g p) Pattern.Spelled := by
  refine reads_after fun _ => (reads_closedPattern g hp).bind fun first hfirst => ?_
  refine reads_after fun rest => reads_after fun span => ?_
  dsimp only
  refine reads_after fun _ => reads_ite ?_ (reads_pure ?_)
  · exact reads_captureName.bind fun id hid => reads_after fun _ => reads_pure hid
  · split
    · exact hfirst
    · trivial

theorem reads_casePattern : Reads (casePattern p) Pattern.Spelled := by
  refine reads_after fun _ => reads_after fun _ => ?_
  refine (reads_sequenceItem hp).bind fun first hfirst => reads_after fun _ => ?_
  refine reads_ite (reads_after fun _ => reads_after fun _ => reads_pure trivial) ?_
  exact reads_ite (reads_after fun _ => reads_pure hfirst) (reads_pure hfirst)

end Patterns

theorem reads_patternAt (g : Rules) [∀ level, Consumes (g level)] (depth : Nat) :
    Reads (patternAt g depth) Pattern.Spelled := by
  induction depth with
  | zero => exact reads_failure
  | succ n ih => exact reads_pattern g ih

/-! ## Parameters -/

/-- The name of a parameter is a word. -/
def ParamItem.Spelled : ParamItem → Prop
  | .plain p _ => IsWord p.name
  | _ => True

theorem reads_param {annot : Option (Parse Expr)} (h : ∀ p ∈ annot, Consumes p) :
    Reads (param annot) fun p => IsWord p.name := by
  refine reads_after fun _ => reads_name.bind fun id hid => ?_
  have hrest (start : Pos) (annot : Option Expr) :
      Reads (do return (⟨← spanFrom start, id, annot⟩ : Param)) fun p => IsWord p.name :=
    reads_after fun _ => reads_pure hid
  dsimp only
  split
  · exact reads_after fun _ => hrest _ _
  · next p =>
    have := h p rfl
    refine reads_after fun _ => ?_
    exact reads_ite (reads_after fun _ => hrest _ _) (reads_after fun _ => hrest _ _)

theorem reads_paramItem (g : Rules) [∀ level, Consumes (g level)] :
    Reads (paramItem g true) ParamItem.Spelled := by
  have hannot : ∀ p ∈ some (g .expression), Consumes p := by simp; infer_instance
  have hstar : ∀ p ∈ some (starExpression g), Consumes p := by simp; infer_instance
  have := consumes_param hannot
  have := consumes_param hstar
  unfold paramItem
  simp only [↓reduceIte]
  refine reads_after fun _ => reads_ite (reads_pure trivial) (reads_after fun _ => ?_)
  refine reads_ite ?_ ?_
  · refine reads_after fun _ => ?_
    split
    · exact reads_after fun _ => reads_pure trivial
    · exact reads_pure trivial
  · refine reads_after fun _ => reads_ite (reads_after fun _ => reads_pure trivial) ?_
    refine (reads_param hannot).bind fun p hp => reads_after fun _ => ?_
    exact reads_ite (reads_after fun _ => reads_pure hp) (reads_pure hp)

theorem spelled_keywordParams {items : List ParamItem} {ps ps' : Params} (hps : ps.Spelled)
    (h : keywordParams ps items = some ps') : ps'.Spelled := by
  fun_induction keywordParams ps items with
  | case1 ps =>
    cases h
    exact hps
  | case2 ps p =>
    cases h
    exact hps
  | case3 ps p default rest ih => exact ih hps h
  | case4 => cases h

theorem spelled_positionalParams {items : List ParamItem} {ps ps' : Params} (hps : ps.Spelled)
    (hitems : ∀ i ∈ items, i.Spelled) (h : positionalParams ps items = some ps') : ps'.Spelled := by
  have happend {ps : Params} {p : Param} (hps : ps.Spelled) (hp : IsWord p.name) :
      ∀ q ∈ ps.regular ++ [p], IsWord q.name := by
    intro q hq
    rcases List.mem_append.1 hq with hq | hq
    · exact hps q hq
    · rw [List.mem_singleton.1 hq]
      exact hp
  fun_induction positionalParams ps items with
  | case1 ps =>
    cases h
    exact hps
  | case2 ps p rest hnone ih =>
    exact ih (happend hps (hitems _ (List.mem_cons_self ..)))
      (fun i hi => hitems i (List.mem_cons_of_mem _ hi)) h
  | case3 => cases h
  | case4 ps p rest d ih =>
    exact ih (happend hps (hitems _ (List.mem_cons_self ..)))
      (fun i hi => hitems i (List.mem_cons_of_mem _ hi)) h
  | case5 => cases h
  | case6 ps rest hslash ih =>
    exact ih (by simp [Params.Spelled]) (fun i hi => hitems i (List.mem_cons_of_mem _ hi)) h
  | case7 ps p rest =>
    have hstar : Params.Spelled { ps with variadic := some p } := hps
    exact spelled_keywordParams hstar h
  | case8 ps p d rest => exact spelled_keywordParams hps h
  | case9 ps p =>
    cases h
    exact hps
  | case10 => cases h

theorem reads_params (g : Rules) [∀ level, Consumes (g level)] :
    Reads (params g true) Params.Spelled := by
  refine reads_after fun _ => reads_ite (reads_pure (by simp [Params.Spelled])) ?_
  refine (reads_commaList (reads_paramItem g)).bind fun items hitems => reads_after fun _ => ?_
  dsimp only
  split
  · exact fun _ _ _ _ h => nomatch h
  · split
    · next ps hps =>
      exact reads_pure (spelled_positionalParams (by simp [Params.Spelled]) hitems hps)
    · exact reads_failure

/-! ## Statements -/

section Statements

variable {g : Rules} [∀ level, Consumes (g level)] (hg : ∀ level, Reads (g level) Expr.Spelled)

include hg

theorem reads_assigned : Reads (assigned g) Expr.Spelled :=
  reads_after fun _ => reads_ite reads_yielded (reads_starExpressions hg)

omit hg [∀ level, Consumes (g level)] in
theorem reads_ofOption {α : Type} {P : α → Prop} {x : Option α} (h : ∀ a, x = some a → P a) :
    Reads (ofOption x) P :=
  (gives_ofOption h).reads

theorem reads_expressionStatement : Reads (expressionStatement g) Stmt.Spelled := by
  refine reads_after fun _ => (reads_assigned hg).bind fun e he => reads_after fun _ => ?_
  have htarget : Reads (ofOption (singleTarget? e)) Expr.Spelled :=
    reads_ofOption fun t ht => spelled_singleTarget? he ht
  split
  · refine reads_after fun _ => htarget.bind fun target htarget => reads_after fun annot => ?_
    have hrest (start : Pos) (value : Option Expr) (hvalue : ∀ e ∈ value, e.Spelled) :
        Reads (do return .annAssign (← spanFrom start) target annot value) Stmt.Spelled :=
      reads_after fun _ => reads_pure ⟨htarget, hvalue⟩
    refine reads_after fun _ => reads_ite ?_ ?_
    · have hvalue : Reads (some <$> assigned g) fun value => ∀ e ∈ value, e.Spelled :=
        reads_map (reads_assigned hg) fun e he => by simpa using he
      exact hvalue.bind (hrest _)
    · have hnone : Reads (pure none : Parse (Option Expr)) fun value => ∀ e ∈ value, e.Spelled :=
        reads_pure (by simp)
      exact hnone.bind (hrest _)
  · split
    · refine reads_after fun _ => htarget.bind fun target htarget => ?_
      exact (reads_assigned hg).bind fun value hvalue => reads_after fun _ =>
        reads_pure ⟨htarget, hvalue⟩
    · refine (reads_many (reads_seqRight (reads_assigned hg))).bind fun values hvalues => ?_
      split
      · exact reads_after fun _ => reads_pure he
      · next value hvalue =>
        have hall : AllSpelled (e :: values.dropLast) :=
          ⟨he, allSpelled_iff.2 fun v hv => hvalues v (List.dropLast_subset _ hv)⟩
        refine (reads_ofOption fun ts hts => spelled_mapM_starTarget? hall hts).bind
          fun targets htargets => ?_
        exact reads_after fun _ =>
          reads_pure ⟨htargets, hvalues value (List.mem_of_getLast? hvalue)⟩
  · exact reads_after fun _ => reads_pure he

theorem reads_simpleStatement : Reads (simpleStatement g) Stmt.Spelled := by
  have hform (start : Pos) (f : StmtForm) (parts : Parse (List Expr)) [Consumes parts] :
      Reads (do
        let _ ← next
        let parts ← parts
        return Stmt.form (← spanFrom start) f (exprParts parts)) Stmt.Spelled :=
    reads_after fun _ => reads_after fun _ => reads_after fun _ => reads_pure trivial
  refine reads_after fun start => reads_after fun next => ?_
  split
  · exact reads_after fun _ => reads_after fun _ => reads_pure trivial
  · exact reads_after fun _ => reads_after fun _ => reads_pure trivial
  · exact reads_after fun _ => reads_after fun _ => reads_pure trivial
  · refine reads_after fun _ => ?_
    refine (reads_optional (reads_starExpressions hg)).bind fun value hvalue => ?_
    exact reads_after fun _ => reads_pure hvalue
  · exact hform start _ _
  · exact hform start _ _
  · exact hform start _ _
  · exact hform start _ _
  · exact hform start _ _
  · exact hform start _ _
  · exact hform start _ _
  · exact reads_expressionStatement hg

theorem reads_simpleStatements : Reads (simpleStatements g) BlockSpelled := by
  refine (reads_simpleStatement hg).bind fun first hfirst => ?_
  refine (reads_many (reads_seqRight (reads_simpleStatement hg))).bind fun rest hrest => ?_
  exact reads_after fun _ => reads_after fun _ => reads_pure ⟨hfirst, blockSpelled_iff.2 hrest⟩

variable {p : Parse Pattern} [Consumes p] (hp : Reads p Pattern.Spelled) {body : Parse (List Stmt)}
  [Consumes body] (hbody : Reads body BlockSpelled)

include hbody

omit [∀ level, Consumes (g level)] hg [Consumes body] in
theorem reads_suite : Reads (suite body) BlockSpelled := reads_seqRight hbody

omit [∀ level, Consumes (g level)] hg [Consumes body] in
theorem reads_elseSuite : Reads (elseSuite body) BlockSpelled :=
  reads_after fun _ => reads_ite (reads_suite hbody) (reads_pure trivial)

theorem reads_conditionSuite :
    Reads (conditionSuite g body) fun c => c.1.Spelled ∧ BlockSpelled c.2 :=
  (reads_named hg).bind fun _ htest => (reads_suite hbody).bind fun _ hstmts =>
    reads_pure ⟨htest, hstmts⟩

omit hg in
theorem reads_functionDef (decorators : List Expr) :
    Reads (functionDef g body decorators) Stmt.Spelled := by
  refine reads_after fun _ => reads_after fun _ => reads_after fun _ => ?_
  refine reads_name.bind fun id hid => reads_after fun _ => ?_
  refine (reads_params g).bind fun ps hps => reads_after fun span => reads_after fun _ => ?_
  refine reads_after fun _ => ?_
  extract_lets rest
  have hrest : ∀ returns, Reads (rest returns) Stmt.Spelled := by
    refine fun returns => (reads_suite hbody).bind fun stmts hstmts => ?_
    exact reads_ite (reads_after fun _ => reads_pure trivial)
      (reads_after fun _ => reads_pure ⟨hid, hps, hstmts⟩)
  exact reads_ite (reads_after hrest) (reads_after hrest)

omit hg in
theorem reads_classDef (decorators : List Expr) :
    Reads (classDef g body decorators) Stmt.Spelled := by
  refine reads_after fun _ => reads_after fun _ => reads_name.bind fun id hid => ?_
  refine reads_after fun _ => ?_
  extract_lets rest
  have hrest : ∀ heads, Reads (rest heads) Stmt.Spelled := fun _ =>
    (reads_suite hbody).bind fun _ hstmts => reads_after fun _ => reads_pure ⟨hid, hstmts⟩
  exact reads_ite (reads_after fun _ => reads_after fun _ => reads_after hrest) (reads_after hrest)

omit hg in
theorem reads_decorated : Reads (decorated g body) Stmt.Spelled := by
  refine reads_after fun decorators => reads_after fun _ => ?_
  exact reads_ite (reads_classDef hbody decorators) (reads_functionDef hbody decorators)

/-- Further conditions nest to the right. -/
theorem reads_ifStatement : Reads (ifStatement g body) Stmt.Spelled := by
  refine reads_after fun _ => reads_after fun _ => ?_
  refine (reads_conditionSuite hg hbody).bind fun first hfirst => ?_
  have hfurther : Reads (do
      let start ← here
      word .kElif
      return (start, ← conditionSuite g body)) fun c => c.2.1.Spelled ∧ BlockSpelled c.2.2 :=
    reads_after fun _ => reads_after fun _ =>
      (reads_conditionSuite hg hbody).bind fun _ h => reads_pure h
  refine (reads_many hfurther).bind fun further hall => ?_
  refine (reads_elseSuite hbody).bind fun orelse horelse => reads_after fun _ => reads_pure ?_
  refine ⟨hfirst.1, hfirst.2, ?_⟩
  induction further with
  | nil => exact horelse
  | cons c rest ih =>
    have hc := hall c (List.mem_cons_self ..)
    exact ⟨⟨hc.1, hc.2, ih fun c' hc' => hall c' (List.mem_cons_of_mem _ hc')⟩, trivial⟩

theorem reads_whileStatement : Reads (whileStatement g body) Stmt.Spelled := by
  refine reads_after fun _ => reads_after fun _ => ?_
  refine (reads_conditionSuite hg hbody).bind fun first hfirst => ?_
  exact reads_after fun _ => reads_after fun _ => reads_pure hfirst

theorem reads_forStatement : Reads (forStatement g body) Stmt.Spelled := by
  refine reads_after fun _ => reads_after fun _ => reads_after fun _ => ?_
  refine (reads_loopTargets hg).bind fun target htarget => reads_after fun _ => ?_
  refine (reads_starExpressions hg).bind fun iter hiter => ?_
  refine (reads_suite hbody).bind fun stmts hstmts => reads_after fun _ => reads_after fun _ => ?_
  exact reads_ite (reads_pure trivial) (reads_pure ⟨htarget, hiter, hstmts⟩)

omit hg hbody in
theorem reads_withStatement : Reads (withStatement g body) Stmt.Spelled :=
  reads_after fun _ => reads_after fun _ => reads_after fun _ => reads_after fun _ =>
    reads_after fun _ => reads_after fun _ => reads_pure trivial

omit hg hbody in
theorem reads_tryStatement : Reads (tryStatement g body) Stmt.Spelled := by
  refine reads_after fun _ => reads_after fun _ => reads_after fun _ => reads_after fun _ => ?_
  refine reads_ite (reads_after fun _ => reads_after fun _ => reads_pure trivial) ?_
  refine reads_after fun _ => reads_after fun _ => reads_after fun _ => reads_after fun _ => ?_
  exact reads_ite (reads_after fun _ => reads_after fun _ => reads_pure trivial)
    (reads_after fun _ => reads_after fun _ => reads_pure trivial)

include hp

omit hg in
theorem reads_caseBlock : Reads (caseBlock g p body) fun c => CasesSpelled [c] := by
  refine reads_after fun _ => (reads_casePattern hp).bind fun pattern hpattern => ?_
  refine reads_after fun _ => ?_
  extract_lets rest
  have hrest : ∀ guard, Reads (rest guard) fun c => CasesSpelled [c] := fun guard =>
    (reads_suite hbody).bind fun _ hstmts => reads_pure ⟨hpattern, hstmts, trivial⟩
  exact reads_ite (reads_after hrest) (reads_after hrest)

theorem reads_matchStatement : Reads (matchStatement g p body) Stmt.Spelled := by
  refine reads_after fun _ => reads_after fun _ => ?_
  have hsubject : Reads (matchSubject g) Expr.Spelled := by
    refine (reads_tupleOf (reads_starNamed hg)).bind fun e he => ?_
    exact reads_ite (reads_after fun _ => reads_pure he) (reads_pure he)
  refine hsubject.bind fun subject hsubject => ?_
  refine reads_after fun _ => reads_after fun _ => reads_after fun _ => ?_
  refine (reads_many1 (reads_caseBlock hp hbody)).bind fun cases hcases => ?_
  refine reads_after fun _ => reads_after fun _ => reads_pure ⟨hsubject, casesSpelled_iff.2 ?_⟩
  intro pattern guard stmts hmem
  exact casesSpelled_iff.1 (hcases _ hmem) pattern guard stmts (List.mem_cons_self ..)

omit hp [Consumes p] in
theorem reads_block : Reads (block g body) BlockSpelled := by
  refine reads_after fun _ => reads_ite ?_ (reads_simpleStatements hg)
  refine reads_after fun _ => reads_after fun _ => ?_
  refine (reads_many1 hbody).bind fun blocks hblocks => reads_after fun _ => reads_pure ?_
  rw [blockSpelled_iff]
  intro s hs
  obtain ⟨block, hblock, hs⟩ := List.mem_flatten.1 hs
  exact blockSpelled_iff.1 (hblocks block hblock) s hs

theorem reads_statement : Reads (statement g p body) BlockSpelled := by
  have single {s : Parse Stmt} [Consumes s] (hs : Reads s Stmt.Spelled) :
      Reads (do return [← s]) BlockSpelled :=
    hs.bind fun _ h => reads_pure ⟨h, trivial⟩
  refine reads_after fun next => ?_
  split
  · exact single (reads_decorated hbody)
  · exact single (reads_functionDef hbody [])
  · exact single (reads_classDef hbody [])
  · exact single (reads_ifStatement hg hbody)
  · exact single (reads_whileStatement hg hbody)
  · exact single (reads_forStatement hg hbody)
  · exact single reads_withStatement
  · exact single reads_tryStatement
  · refine reads_after fun second => ?_
    split
    · exact single (reads_functionDef hbody [])
    · exact single (reads_forStatement hg hbody)
    · exact single reads_withStatement
    · exact reads_failure
  · exact reads_orElse (single (reads_matchStatement hg hp hbody)) (reads_simpleStatements hg)
  · exact reads_simpleStatements hg

end Statements

theorem reads_statementAt (depth n : Nat) :
    Reads (statementAt (exprAt depth) (patternAt (exprAt depth) depth) n) BlockSpelled := by
  induction n with
  | zero => exact reads_failure
  | succ n ih =>
    have hg := reads_exprAt depth
    exact reads_statement hg (reads_patternAt _ depth) (reads_block hg ih)

theorem reads_program (depth : Nat) : Reads (program depth) BlockSpelled := by
  refine (reads_many (reads_statementAt depth depth)).bind fun blocks hblocks => ?_
  refine reads_after fun _ => reads_pure ?_
  rw [blockSpelled_iff]
  intro s hs
  obtain ⟨block, hblock, hs⟩ := List.mem_flatten.1 hs
  exact blockSpelled_iff.1 (hblocks block hblock) s hs

end Grammar

/-- **What a text is read as is spelled.** -/
theorem spelled_of_parse {text : String} {stmts : List Stmt} (h : parse text = some stmts) :
    BlockSpelled stmts := by
  simp only [parse, Option.bind_eq_bind, Option.bind_eq_some_iff] at h
  obtain ⟨ts, hts, ⟨stmts', cursor⟩, hprogram, heq⟩ := h
  obtain rfl : stmts' = stmts := by simpa using heq
  have hspelled : ∀ t ∈ ts, t.lexeme.Spelled := Lexer.spelled_tokensOf hts
  exact Grammar.reads_program _ ⟨ts, .start⟩ stmts' cursor hspelled hprogram

end Componentry.Source
