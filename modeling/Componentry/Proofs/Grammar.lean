import Componentry.Proofs.BoundNames
import Componentry.Source.Grammar.Statement

/-!
# The trees of the grammar are marked

A reader *gives* a property if all it can read has it. The combinators of the grammar hand such
properties on, and the rules for statements take their targets from expressions by `target?`, which
marks names.

**Theorem (`areMarked_of_parse`).** Whatever a source text is read as is marked, so the walk over
its tree finds every name that it assigns.
-/

namespace Componentry.Source

namespace Parse

variable {α β : Type} {P : α → Prop} {Q : β → Prop}

/-- Whatever `p` reads satisfies `P`. -/
def Gives (p : Parse α) (P : α → Prop) : Prop := ∀ c a c', p c = some (a, c') → P a

theorem gives_pure {a : α} (h : P a) : Gives (pure a) P := by
  intro c b c' hb
  have hb : some (a, c) = some (b, c') := hb
  obtain ⟨rfl, -⟩ : a = b ∧ c = c' := by simpa using hb
  exact h

theorem gives_failure : Gives (failure : Parse α) P := by
  intro c a c' h
  exact absurd h (by simp [failure, StateT.failure])

theorem Gives.bind {p : Parse β} {f : β → Parse α} (hp : Gives p Q)
    (hf : ∀ b, Q b → Gives (f b) P) : Gives (p >>= f) P := by
  intro c a c' h
  simp only [Bind.bind, StateT.bind, Option.bind_eq_some_iff] at h
  obtain ⟨⟨b, c₁⟩, hb, ha⟩ := h
  exact hf b (hp c b c₁ hb) c₁ a c' ha

theorem gives_after {p : Parse β} {f : β → Parse α} (hf : ∀ b, Gives (f b) P) : Gives (p >>= f) P :=
  Gives.bind (Q := fun _ => True) (fun _ _ _ _ => trivial) fun b _ => hf b

theorem gives_ite {c : Prop} [Decidable c] {p q : Parse α} (hp : Gives p P) (hq : Gives q P) :
    Gives (if c then p else q) P := by
  split
  · exact hp
  · exact hq

theorem gives_seqRight {p : Parse β} {q : Parse α} (hq : Gives q P) : Gives (p *> q) P := by
  rw [seqRight_eq_bind]
  exact gives_after fun _ => hq

theorem gives_orElse {p q : Parse α} (hp : Gives p P) (hq : Gives q P) : Gives (p <|> q) P := by
  intro c a c' h
  have h : (p c <|> q c) = some (a, c') := h
  cases hc : p c with
  | none => exact hq c a c' (by simpa [hc] using h)
  | some b => exact hp c a c' (by simpa [hc] using h)

theorem gives_manyUpTo {p : Parse α} (hp : Gives p P) (bound : List Token) :
    Gives (manyUpTo p bound) fun as => ∀ a ∈ as, P a := by
  induction bound with
  | nil => exact gives_pure (by simp)
  | cons _ bound ih =>
    intro c as c' h
    simp only [manyUpTo] at h
    split at h
    · obtain ⟨rfl, -⟩ : [] = as ∧ c = c' := by simpa using h
      simp
    · next a c₁ ha =>
      obtain ⟨⟨rest, c₂⟩, hrest, heq⟩ := Option.map_eq_some_iff.mp h
      obtain ⟨rfl, rfl⟩ := Prod.mk.inj heq
      intro b hb
      rcases List.mem_cons.mp hb with rfl | hb
      · exact hp c b c₁ ha
      · exact ih c₁ rest c₂ hrest b hb

theorem gives_many {p : Parse α} (hp : Gives p P) : Gives (many p) fun as => ∀ a ∈ as, P a :=
  fun c => gives_manyUpTo hp c.rest c

theorem gives_many1 {p : Parse α} (hp : Gives p P) : Gives (many1 p) fun as => ∀ a ∈ as, P a :=
  hp.bind fun _ ha => (gives_many hp).bind fun _ has => gives_pure (by simpa using ⟨ha, has⟩)

end Parse

namespace Grammar

open Parse

/-! ## Targets -/

theorem isTarget_of_target? {e t : Expr} (h : target? e = some t) : t.isTarget = true := by
  cases e with
  | name span id use =>
    obtain rfl : Expr.name span id .store = t := by simpa [target?] using h
    simp [Expr.isTarget]
  | attr span value member =>
    obtain rfl : Expr.attr span value member = t := by simpa [target?] using h
    rfl
  | subscript span value index =>
    obtain rfl : Expr.subscript span value index = t := by simpa [target?] using h
    rfl
  | list span items =>
    obtain ⟨ts, -, rfl⟩ := Option.map_eq_some_iff.mp h
    rfl
  | tuple span items =>
    obtain ⟨ts, -, rfl⟩ := Option.map_eq_some_iff.mp h
    rfl
  | _ => simp [target?] at h

theorem isTarget_of_singleTarget? {e t : Expr} (h : singleTarget? e = some t) :
    t.isTarget = true := by
  unfold singleTarget? at h
  split at h
  · simp at h
  · simp at h
  · exact isTarget_of_target? h

theorem isTarget_of_starTarget? {e t : Expr} (h : starTarget? e = some t) : t.isTarget = true := by
  unfold starTarget? at h
  split at h
  · obtain ⟨_, -, rfl⟩ := Option.map_eq_some_iff.mp h
    rfl
  · exact isTarget_of_target? h

theorem gives_ofOption {α : Type} {P : α → Prop} {x : Option α} (h : ∀ a, x = some a → P a) :
    Gives (ofOption x) P := by
  cases x with
  | none => exact gives_failure
  | some a => exact gives_pure (h a rfl)

theorem gives_loopTargets (g : Rules) : Gives (loopTargets g) (·.isTarget = true) := by
  refine gives_after fun e => ?_
  split
  · next t ht => exact gives_pure (isTarget_of_starTarget? ht)
  · exact gives_failure

theorem all_isTarget_of_mapM {es ts : List Expr} (h : es.mapM starTarget? = some ts) :
    ts.all Expr.isTarget = true := by
  induction es generalizing ts with
  | nil =>
    obtain rfl : [] = ts := by simpa using h
    rfl
  | cons e rest ih =>
    simp only [List.mapM_cons, Option.bind_eq_bind, Option.bind_eq_some_iff, Option.pure_def,
      Option.some.injEq] at h
    obtain ⟨t, ht, ts', hts, rfl⟩ := h
    simp [isTarget_of_starTarget? ht, ih hts]

/-! ## Simple statements -/

theorem gives_expressionStatement (g : Rules) :
    Gives (expressionStatement g) (·.isMarked = true) := by
  refine gives_after fun start => gives_after fun e => gives_after fun next => ?_
  split
  · -- An annotated assignment.
    refine gives_after fun _ => ?_
    refine (gives_ofOption fun t => isTarget_of_singleTarget?).bind fun target htarget => ?_
    refine gives_after fun _ => gives_after fun _ => ?_
    exact gives_ite (gives_after fun _ => gives_after fun _ => gives_pure htarget)
      (gives_after fun _ => gives_after fun _ => gives_pure htarget)
  · split
    · -- An augmented assignment.
      refine gives_after fun _ => ?_
      refine (gives_ofOption fun t => isTarget_of_singleTarget?).bind fun target htarget => ?_
      exact gives_after fun _ => gives_after fun _ => gives_pure htarget
    · refine gives_after fun values => ?_
      split
      · exact gives_after fun _ => gives_pure rfl
      · refine (gives_ofOption fun ts => all_isTarget_of_mapM).bind fun targets htargets => ?_
        exact gives_after fun _ => gives_pure htargets
  · exact gives_after fun _ => gives_pure rfl

theorem gives_simpleStatement (g : Rules) : Gives (simpleStatement g) (·.isMarked = true) := by
  have hform (start : Pos) (f : StmtForm) (parts : Parse (List Expr)) :
      Gives (do
        let _ ← next
        let parts ← parts
        return Stmt.form (← spanFrom start) f (exprParts parts)) (·.isMarked = true) :=
    gives_after fun _ => gives_after fun _ => gives_after fun _ => gives_pure rfl
  refine gives_after fun start => gives_after fun next => ?_
  split
  · exact gives_after fun _ => gives_after fun _ => gives_pure rfl
  · exact gives_after fun _ => gives_after fun _ => gives_pure rfl
  · exact gives_after fun _ => gives_after fun _ => gives_pure rfl
  · exact gives_after fun _ => gives_after fun _ => gives_after fun _ => gives_pure rfl
  · exact hform start _ _
  · exact hform start _ _
  · exact hform start _ _
  · exact hform start _ _
  · exact hform start _ _
  · exact hform start _ _
  · exact hform start _ _
  · exact gives_expressionStatement g

theorem gives_simpleStatements (g : Rules) : Gives (simpleStatements g) (areMarked · = true) := by
  refine (gives_simpleStatement g).bind fun first hfirst => ?_
  refine (gives_many (gives_seqRight (gives_simpleStatement g))).bind fun rest hrest => ?_
  refine gives_after fun _ => gives_after fun _ => gives_pure ?_
  simpa [areMarked_iff] using ⟨hfirst, hrest⟩

/-! ## Statements with blocks -/

section Blocks

variable (g : Rules) {body : Parse (List Stmt)} (hbody : Gives body (areMarked · = true))

include hbody

theorem gives_elseSuite : Gives (elseSuite body) (areMarked · = true) := by
  exact gives_after fun _ => gives_ite (gives_seqRight hbody) (gives_pure rfl)

theorem gives_conditionSuite : Gives (conditionSuite g body) (areMarked ·.2 = true) :=
  gives_after fun _ => (gives_seqRight hbody).bind fun _ hstmts => gives_pure hstmts

theorem gives_functionDef (decorators : List Expr) :
    Gives (functionDef g body decorators) (·.isMarked = true) := by
  refine gives_after fun _ => gives_after fun isAsync => gives_after fun _ => gives_after fun _ =>
    gives_after fun _ => gives_after fun _ => gives_after fun _ => gives_after fun _ =>
    gives_after fun _ => ?_
  extract_lets rest
  have hrest : ∀ returns, Gives (rest returns) (·.isMarked = true) := by
    refine fun returns => (gives_seqRight hbody).bind fun stmts hstmts => ?_
    exact gives_ite (gives_after fun _ => gives_pure rfl) (gives_after fun _ => gives_pure hstmts)
  exact gives_ite (gives_after hrest) (gives_after hrest)

theorem gives_classDef (decorators : List Expr) :
    Gives (classDef g body decorators) (·.isMarked = true) := by
  refine gives_after fun _ => gives_after fun _ => gives_after fun _ => gives_after fun _ => ?_
  extract_lets rest
  have hrest : ∀ heads, Gives (rest heads) (·.isMarked = true) := fun _ =>
    (gives_seqRight hbody).bind fun _ hstmts => gives_after fun _ => gives_pure hstmts
  exact gives_ite (gives_after fun _ => gives_after fun _ => gives_after hrest) (gives_after hrest)

theorem gives_decorated : Gives (decorated g body) (·.isMarked = true) := by
  refine gives_after fun decorators => gives_after fun _ => ?_
  exact gives_ite (gives_classDef g hbody decorators) (gives_functionDef g hbody decorators)

/-- Further conditions nest to the right, so the marks of the innermost block come first. -/
theorem gives_ifStatement : Gives (ifStatement g body) (·.isMarked = true) := by
  refine gives_after fun start => gives_after fun _ => ?_
  refine (gives_conditionSuite g hbody).bind fun first hfirst => ?_
  have hfurther : Gives (do
      let start ← here
      word .kElif
      return (start, ← conditionSuite g body)) (areMarked ·.2.2 = true) :=
    gives_after fun _ => gives_after fun _ =>
      (gives_conditionSuite g hbody).bind fun _ h => gives_pure h
  refine (gives_many hfurther).bind fun further hall => ?_
  refine (gives_elseSuite hbody).bind fun orelse horelse => gives_after fun cursor => gives_pure ?_
  simp only [Stmt.isMarked, Bool.and_eq_true]
  refine ⟨hfirst, ?_⟩
  induction further with
  | nil => exact horelse
  | cons b rest ih =>
    have hb := hall b List.mem_cons_self
    have hrest := ih fun b' hb' => hall b' (List.mem_cons_of_mem b hb')
    simpa [areMarked, Stmt.isMarked] using ⟨hb, hrest⟩

theorem gives_whileStatement : Gives (whileStatement g body) (·.isMarked = true) := by
  refine gives_after fun _ => gives_after fun _ => ?_
  refine (gives_conditionSuite g hbody).bind fun first hfirst => ?_
  refine (gives_elseSuite hbody).bind fun orelse horelse => gives_after fun _ => gives_pure ?_
  simp [Stmt.isMarked, hfirst, horelse]

theorem gives_forStatement : Gives (forStatement g body) (·.isMarked = true) := by
  refine gives_after fun _ => gives_after fun _ => gives_after fun _ => ?_
  refine (gives_loopTargets g).bind fun target htarget => ?_
  refine gives_after fun _ => gives_after fun _ => ?_
  refine (gives_seqRight hbody).bind fun stmts hstmts => ?_
  refine (gives_elseSuite hbody).bind fun orelse horelse => gives_after fun _ => ?_
  refine gives_ite (gives_pure rfl) (gives_pure ?_)
  simp [Stmt.isMarked, htarget, hstmts, horelse]

omit hbody in
theorem gives_withStatement : Gives (withStatement g body) (·.isMarked = true) :=
  gives_after fun _ => gives_after fun _ => gives_after fun _ => gives_after fun _ =>
    gives_after fun _ => gives_after fun _ => gives_pure rfl

omit hbody in
theorem gives_tryStatement : Gives (tryStatement g body) (·.isMarked = true) := by
  refine gives_after fun _ => gives_after fun _ => gives_after fun _ => gives_after fun _ => ?_
  refine gives_ite (gives_after fun _ => gives_after fun _ => gives_pure rfl) ?_
  refine gives_after fun _ => gives_after fun _ => gives_after fun _ => gives_after fun _ => ?_
  exact gives_ite (gives_after fun _ => gives_after fun _ => gives_pure rfl)
    (gives_after fun _ => gives_after fun _ => gives_pure rfl)

theorem gives_caseBlock (p : Parse Pattern) :
    Gives (caseBlock g p body) fun c => areMarkedCases [c] = true := by
  refine gives_after fun _ => gives_after fun pattern => gives_after fun _ => ?_
  extract_lets rest
  have hrest : ∀ guard, Gives (rest guard) fun c => areMarkedCases [c] = true := fun guard =>
    (gives_seqRight hbody).bind fun _ hstmts => gives_pure (by simpa [areMarkedCases] using hstmts)
  exact gives_ite (gives_after hrest) (gives_after hrest)

theorem gives_matchStatement (p : Parse Pattern) :
    Gives (matchStatement g p body) (·.isMarked = true) := by
  refine gives_after fun _ => gives_after fun _ => gives_after fun _ => gives_after fun _ =>
    gives_after fun _ => gives_after fun _ => ?_
  refine (gives_many1 (gives_caseBlock g hbody p)).bind fun cases hcases => ?_
  refine gives_after fun _ => gives_after fun _ => gives_pure (areMarkedCases_iff.mpr ?_)
  intro pattern guard stmts hmem
  exact areMarkedCases_iff.mp (hcases _ hmem) pattern guard stmts List.mem_cons_self

theorem gives_block : Gives (block g body) (areMarked · = true) := by
  refine gives_after fun _ => gives_ite ?_ (gives_simpleStatements g)
  refine gives_after fun _ => gives_after fun _ => ?_
  refine (gives_many1 hbody).bind fun blocks hblocks => ?_
  exact gives_after fun _ => gives_pure (areMarked_flatten hblocks)

theorem gives_statement (p : Parse Pattern) : Gives (statement g p body) (areMarked · = true) := by
  have single {s : Parse Stmt} (hs : Gives s (·.isMarked = true)) :
      Gives (do return [← s]) (areMarked · = true) :=
    hs.bind fun _ h => gives_pure (by simpa [areMarked] using h)
  refine gives_after fun next => ?_
  split
  · exact single (gives_decorated g hbody)
  · exact single (gives_functionDef g hbody [])
  · exact single (gives_classDef g hbody [])
  · exact single (gives_ifStatement g hbody)
  · exact single (gives_whileStatement g hbody)
  · exact single (gives_forStatement g hbody)
  · exact single (gives_withStatement g)
  · exact single (gives_tryStatement g)
  · refine gives_after fun second => ?_
    split
    · exact single (gives_functionDef g hbody [])
    · exact single (gives_forStatement g hbody)
    · exact single (gives_withStatement g)
    · exact gives_failure
  · exact gives_orElse (single (gives_matchStatement g hbody p)) (gives_simpleStatements g)
  · exact gives_simpleStatements g

end Blocks

theorem gives_statementAt (g : Rules) (p : Parse Pattern) (depth : Nat) :
    Gives (statementAt g p depth) (areMarked · = true) := by
  induction depth with
  | zero => exact gives_failure
  | succ n ih => exact gives_statement g (gives_block g ih) p

theorem gives_program (depth : Nat) : Gives (program depth) (areMarked · = true) := by
  refine (gives_many (gives_statementAt _ _ depth)).bind fun blocks hblocks => ?_
  exact gives_after fun _ => gives_pure (areMarked_flatten hblocks)

end Grammar

/-- **What a text is read as is marked.** -/
theorem areMarked_of_parse {text : String} {stmts : List Stmt} (h : parse text = some stmts) :
    areMarked stmts = true := by
  simp only [parse, Option.bind_eq_bind, Option.bind_eq_some_iff] at h
  obtain ⟨ts, -, ⟨stmts', cursor⟩, hprogram, heq⟩ := h
  obtain rfl : stmts' = stmts := by simpa using heq
  exact Grammar.gives_program _ _ _ _ hprogram

end Componentry.Source
