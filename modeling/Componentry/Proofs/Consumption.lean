import Componentry.Source.Grammar.Statement

/-!
# Readers leave an end of their tokens

Whatever a rule of the grammar reads, the tokens that it leaves are the last ones of those that it
was given. So what is known of all tokens of a text is known of those that any rule meets.

Each rule is an instance of `Consumes`, and the instances of the combinators put those of larger
rules together.
-/

set_option synthInstance.maxSize 1024

namespace Componentry.Source

namespace Parse

variable {α β : Type}

/-- A reader leaves an end of the tokens that it was given. -/
class Consumes (p : Parse α) : Prop where
  suffix : ∀ {c a c'}, p c = some (a, c') → c'.rest <:+ c.rest

instance consumes_pure (a : α) : Consumes (pure a : Parse α) where
  suffix h := by
    cases h
    exact List.suffix_refl _

instance consumes_failure : Consumes (failure : Parse α) where
  suffix h := by cases h

instance consumes_bind (p : Parse β)
    (f : β → Parse α) [hp : Consumes p] [hf : ∀ b, Consumes (f b)] : Consumes (p >>= f) where
  suffix h := by
    simp only [Bind.bind, StateT.bind, Option.bind_eq_some_iff] at h
    obtain ⟨⟨b, c₁⟩, hb, ha⟩ := h
    exact ((hf b).suffix ha).trans (hp.suffix hb)

/-- The rest of a reader, once its next step is known to leave an end. -/
theorem Consumes.after {p : Parse β} {f : β → Parse α} [Consumes p] (hf : ∀ b, Consumes (f b)) :
    Consumes (p >>= f) :=
  consumes_bind p f

instance consumes_map (f : β → α) (p : Parse β) [Consumes p] : Consumes (f <$> p) := by
  rw [map_eq_pure_bind]
  infer_instance

instance consumes_seqRight (p : Parse β) (q : Parse α) [Consumes p] [Consumes q] :
    Consumes (p *> q) := by
  rw [seqRight_eq_bind]
  infer_instance

instance consumes_seqLeft (p : Parse α) (q : Parse β) [Consumes p] [Consumes q] :
    Consumes (p <* q) := by
  rw [seqLeft_eq_bind]
  infer_instance

instance consumes_orElse (p q : Parse α) [hp : Consumes p] [hq : Consumes q] :
    Consumes (p <|> q) where
  suffix {c a c'} h := by
    have h : (p c <|> q c) = some (a, c') := h
    cases hc : p c with
    | none => exact hq.suffix (by simpa [hc] using h)
    | some b => exact hp.suffix (by simpa [hc] using h)

instance consumes_ite (b : Prop) [Decidable b] (p q : Parse α) [Consumes p] [Consumes q] :
    Consumes (if b then p else q) := by
  split <;> infer_instance

instance consumes_get : Consumes (get : Parse Cursor) where
  suffix h := by
    cases h
    exact List.suffix_refl _

instance : Consumes peek where
  suffix {c a c'} h := by
    unfold peek at h
    split at h
    · cases h
    · cases h
      exact List.suffix_refl _

instance : Consumes peekSecond where
  suffix {c a c'} h := by
    unfold peekSecond at h
    split at h
    · cases h
      exact List.suffix_refl _
    · cases h

instance : Consumes here where
  suffix {c a c'} h := by
    unfold here at h
    split at h
    · cases h
    · cases h
      exact List.suffix_refl _

instance : Consumes next where
  suffix {c a c'} h := by
    unfold next at h
    split at h
    · cases h
    · rename_i hrest
      cases h
      rw [hrest]
      exact List.suffix_cons _ _

instance (start : Pos) : Consumes (spanFrom start) := by unfold spanFrom; infer_instance
instance (l : Lexeme) : Consumes (expect l) := by unfold expect; infer_instance
instance (s : Sign) : Consumes (sign s) := by unfold sign; infer_instance
instance (w : Word) : Consumes (word w) := by unfold word; infer_instance
instance (w : String) : Consumes (softWord w) := by unfold softWord; infer_instance
instance (l : Lexeme) : Consumes (isNext l) := by unfold isNext; infer_instance
instance (s : Sign) : Consumes (accept s) := by unfold accept; infer_instance
instance (w : Word) : Consumes (acceptWord w) := by unfold acceptWord; infer_instance

instance : Consumes name := by
  unfold name
  refine Consumes.after fun t => ?_
  split <;> infer_instance

theorem consumes_manyUpTo (p : Parse α) [hp : Consumes p] (bound : List Token) :
    Consumes (manyUpTo p bound) := by
  induction bound with
  | nil => exact consumes_pure []
  | cons _ bound ih =>
    constructor
    intro c as c' h
    simp only [manyUpTo] at h
    split at h
    · cases h
      exact List.suffix_refl _
    · next a c₁ ha =>
      obtain ⟨⟨rest, c₂⟩, hrest, heq⟩ := Option.map_eq_some_iff.mp h
      obtain ⟨rfl, rfl⟩ := Prod.mk.inj heq
      exact (ih.suffix hrest).trans (hp.suffix ha)

instance (p : Parse α) [Consumes p] : Consumes (many p) where
  suffix {c _ _} h := (consumes_manyUpTo p c.rest).suffix h

instance (p : Parse α) [Consumes p] : Consumes (many1 p) := by unfold many1; infer_instance
instance (p : Parse α) [Consumes p] : Consumes (Parse.optional p) := by
  unfold Parse.optional; infer_instance
instance (p : Parse α) [Consumes p] : Consumes (commaSeparated p) := by
  unfold commaSeparated; infer_instance
instance (p : Parse α) [Consumes p] : Consumes (commaList p) := by unfold commaList; infer_instance

end Parse

namespace Grammar

open Parse

/-! ## Expressions -/

section Expressions

variable (g : Rules) [∀ level, Consumes (g level)]

instance (operand : Parse Expr) [Consumes operand] : Consumes (starred operand) := by
  unfold starred
  infer_instance

instance : Consumes (named g) := by
  unfold named
  refine .after fun _ => .after fun _ => .after fun _ => ?_
  split <;> infer_instance

instance : Consumes (starExpression g) := by
  unfold starExpression
  infer_instance

instance : Consumes (starNamed g) := by
  unfold starNamed
  infer_instance

instance (item : Parse Expr) [Consumes item] : Consumes (tupleOf item) := by
  unfold tupleOf
  infer_instance

instance : Consumes (starExpressions g) := by
  unfold starExpressions
  infer_instance

instance : Consumes (yielded g) := by
  unfold yielded
  infer_instance

instance : Consumes (loopTargets g) := by
  unfold loopTargets
  refine .after fun _ => ?_
  split <;> infer_instance

instance : Consumes (comprehensionClause g) := by
  unfold comprehensionClause
  infer_instance

instance : Consumes (comprehensionClauses g) := by
  unfold comprehensionClauses
  infer_instance

omit [∀ level, Consumes (g level)] in
theorem consumes_param {annot : Option (Parse Expr)} (h : ∀ p ∈ annot, Consumes p) :
    Consumes (param annot) := by
  unfold param
  refine .after fun _ => .after fun _ => ?_
  dsimp only
  split
  · infer_instance
  · next p =>
    have := h p rfl
    infer_instance

instance (annotated : Bool) : Consumes (paramItem g annotated) := by
  have hparam (annot : Parse Expr) [Consumes annot] :
      Consumes (param (if annotated then some annot else none)) := by
    refine consumes_param fun p hp => ?_
    obtain ⟨-, rfl⟩ : annotated = true ∧ annot = p := by simpa using hp
    infer_instance
  unfold paramItem
  dsimp only
  refine .after fun _ => ?_
  split
  · infer_instance
  · refine .after fun _ => ?_
    split
    · refine .after fun _ => ?_
      split <;> infer_instance
    · infer_instance

instance (annotated : Bool) : Consumes (params g annotated) := by
  unfold params
  dsimp only
  refine .after fun _ => ?_
  split
  · infer_instance
  · refine .after fun items => .after fun _ => ?_
    have hparams : Consumes (match positionalParams {} items with
        | some ps => (pure ps : Parse Params)
        | none => failure) := by
      split <;> infer_instance
    infer_instance

instance : Consumes (argument g) := by
  unfold argument
  refine .after fun _ => .after fun _ => .after fun _ => ?_
  split <;> infer_instance

instance : Consumes (arguments g) := by
  unfold arguments
  infer_instance

instance : Consumes isNamedNext := by
  unfold isNamedNext
  refine .after fun _ => .after fun _ => ?_
  split <;> infer_instance

instance : Consumes isClauseNext := by
  unfold isClauseNext
  refine .after fun _ => ?_
  split <;> infer_instance

instance : Consumes (bracketed g) := by
  unfold bracketed
  refine .after fun _ => .after fun _ => .after fun _ => ?_
  split
  · infer_instance
  · refine .after fun _ => ?_
    split
    · infer_instance
    · refine .after fun _ => .after fun _ => ?_
      split <;> infer_instance

instance : Consumes (listDisplay g) := by
  unfold listDisplay
  infer_instance

instance : Consumes (dictEntry g) := by
  unfold dictEntry
  infer_instance

instance (start : Pos) (first : Option Expr × Expr) : Consumes (dictRest g start first) := by
  unfold dictRest
  refine .after fun _ => ?_
  split <;> infer_instance

instance (start : Pos) (first : Expr) : Consumes (setRest g start first) := by
  unfold setRest
  infer_instance

instance : Consumes (braceDisplay g) := by
  unfold braceDisplay
  infer_instance

instance : Consumes stringToken := by
  unfold stringToken
  refine .after fun _ => ?_
  split <;> infer_instance

instance : Consumes (strings g) := by
  unfold strings
  refine .after fun _ => .after fun _ => .after fun _ => ?_
  split <;> infer_instance

instance : Consumes (atom g) := by
  unfold atom
  refine .after fun _ => ?_
  dsimp only
  refine .after fun _ => ?_
  split <;> infer_instance

instance : Consumes (slice g) := by
  unfold slice
  infer_instance

instance : Consumes (slices g) := by
  unfold slices
  infer_instance

instance : Consumes (callArguments g) := by
  unfold callArguments
  refine .after fun _ => .after fun _ => .after fun _ => ?_
  split
  · infer_instance
  · refine .after fun _ => .after fun _ => ?_
    split <;> infer_instance

instance (start : Pos) : Consumes (trailer g start) := by
  unfold trailer
  refine .after fun _ => ?_
  split <;> infer_instance

instance : Consumes (primary g) := by
  unfold primary
  infer_instance

instance : Consumes (power g) := by
  unfold power
  infer_instance

instance : Consumes (factor g) := by
  unfold factor
  refine .after fun _ => .after fun _ => ?_
  dsimp only
  split <;> infer_instance

instance (ops : List (Sign × BinaryOp)) : Consumes (binaryOperator ops) := by
  unfold binaryOperator
  refine .after fun _ => ?_
  split
  · split <;> infer_instance
  · infer_instance

instance (operand : Parse Expr) [Consumes operand] (levels : List (List (Sign × BinaryOp))) :
    Consumes (operatorChain operand levels) := by
  induction levels with
  | nil => assumption
  | cons ops tighter ih =>
    unfold operatorChain
    infer_instance

instance : Consumes (bitwiseOr g) := by
  unfold bitwiseOr
  infer_instance

instance : Consumes compareOperator := by
  unfold compareOperator
  refine .after fun _ => ?_
  split <;> infer_instance

instance : Consumes (comparison g) := by
  unfold comparison
  infer_instance

instance : Consumes (inversion g) := by
  unfold inversion
  infer_instance

instance (w : Word) (op : BoolOp) (operand : Parse Expr) [Consumes operand] :
    Consumes (connectiveChain w op operand) := by
  unfold connectiveChain
  infer_instance

instance : Consumes (disjunction g) := by
  unfold disjunction
  infer_instance

instance : Consumes (lambda g) := by
  unfold lambda
  infer_instance

instance : Consumes (expression g) := by
  unfold expression
  infer_instance

instance (level : Level) : Consumes (rule g level) := by
  cases level <;> unfold rule <;> infer_instance

end Expressions

instance consumes_exprAt (depth : Nat) (level : Level) : Consumes (exprAt depth level) := by
  induction depth generalizing level with
  | zero => exact consumes_failure
  | succ n ih =>
    show Consumes (rule (exprAt n) level)
    infer_instance

/-! ## Patterns -/

section Patterns

variable (g : Rules) [∀ level, Consumes (g level)] (p : Parse Pattern) [Consumes p]

instance : Consumes captureName := by
  unfold captureName
  refine .after fun id => ?_
  have hrest : Consumes (do
      match ← peek with
      | .sign .dot | .sign .lpar | .sign .equal => failure
      | _ => return id : Parse String) := by
    refine .after fun _ => ?_
    split <;> infer_instance
  infer_instance

instance : Consumes dottedName := by
  unfold dottedName
  infer_instance

instance : Consumes numberToken := by
  unfold numberToken
  refine .after fun _ => ?_
  split <;> infer_instance

instance : Consumes signedNumber := by
  unfold signedNumber
  infer_instance

instance : Consumes numberExpr := by
  unfold numberExpr
  refine .after fun _ => .after fun _ => ?_
  refine .after fun _ => ?_
  dsimp only
  split <;> infer_instance

instance : Consumes (literalExpr g) := by
  unfold literalExpr
  refine .after fun _ => ?_
  split <;> infer_instance

instance : Consumes (literalPattern g) := by
  unfold literalPattern
  refine .after fun _ => .after fun _ => ?_
  split <;> infer_instance

instance : Consumes starPattern := by
  unfold starPattern
  refine .after fun _ => .after fun _ => .after fun _ => .after fun _ => ?_
  dsimp only
  split <;> infer_instance

instance : Consumes (sequenceItem p) := by
  unfold sequenceItem
  infer_instance

instance : Consumes (bracketedPattern p) := by
  unfold bracketedPattern
  infer_instance

instance : Consumes (listPattern p) := by
  unfold listPattern
  infer_instance

instance : Consumes (mappingKey g) := by
  unfold mappingKey
  refine .after fun _ => .after fun _ => ?_
  split
  · refine .after fun _ => ?_
    split <;> infer_instance
  · refine .after fun _ => ?_
    split <;> infer_instance

instance : Consumes (mappingItem g p) := by
  unfold mappingItem
  infer_instance

instance : Consumes (mappingPattern g p) := by
  unfold mappingPattern
  infer_instance

instance : Consumes (classItem p) := by
  unfold classItem
  refine .after fun _ => .after fun _ => ?_
  split <;> infer_instance

instance : Consumes (classItems p) := by
  unfold classItems
  infer_instance

instance : Consumes (namePattern p) := by
  unfold namePattern
  refine .after fun _ => .after fun _ => ?_
  split
  · infer_instance
  · refine .after fun e => .after fun _ => ?_
    split
    · infer_instance
    · refine .after fun _ => ?_
      dsimp only
      split
      · exact ⟨fun h => nomatch h⟩
      · split <;> infer_instance

instance : Consumes (closedPattern g p) := by
  unfold closedPattern
  refine .after fun _ => ?_
  split <;> infer_instance

instance : Consumes (pattern g p) := by
  unfold pattern
  infer_instance

instance : Consumes (casePattern p) := by
  unfold casePattern
  infer_instance

end Patterns

instance consumes_patternAt (g : Rules) [∀ level, Consumes (g level)] (depth : Nat) :
    Consumes (patternAt g depth) := by
  induction depth with
  | zero => exact consumes_failure
  | succ n ih =>
    show Consumes (pattern g (patternAt g n))
    infer_instance

/-! ## Statements -/

section Statements

variable (g : Rules) [∀ level, Consumes (g level)] (p : Parse Pattern) [Consumes p]
  (body : Parse (List Stmt)) [Consumes body]

instance : Consumes (assigned g) := by
  unfold assigned
  infer_instance

instance {α : Type} (x : Option α) : Consumes (ofOption x) := by
  unfold ofOption
  split <;> infer_instance

instance : Consumes (expressionStatement g) := by
  unfold expressionStatement
  refine .after fun _ => .after fun _ => .after fun _ => ?_
  split
  · infer_instance
  · split
    · infer_instance
    · refine .after fun _ => ?_
      split <;> infer_instance
  · infer_instance

instance : Consumes moduleName := by
  unfold moduleName
  infer_instance

instance (imported : Parse Unit) [Consumes imported] : Consumes (renamed imported) := by
  unfold renamed
  infer_instance

instance : Consumes importFrom := by
  unfold importFrom
  infer_instance

instance : Consumes (deletion g) := by
  unfold deletion
  infer_instance

instance (between : Parse Unit) [Consumes between] : Consumes (exprPair g between) := by
  unfold exprPair
  infer_instance

instance : Consumes (simpleStatement g) := by
  unfold simpleStatement
  dsimp only
  refine .after fun _ => .after fun _ => ?_
  split <;> infer_instance

instance : Consumes (simpleStatements g) := by
  unfold simpleStatements
  infer_instance

instance : Consumes (block g body) := by
  unfold block
  infer_instance

instance : Consumes (suite body) := by
  unfold suite
  infer_instance

instance : Consumes (elseSuite body) := by
  unfold elseSuite
  infer_instance

instance (decorators : List Expr) : Consumes (functionDef g body decorators) := by
  unfold functionDef
  infer_instance

instance (decorators : List Expr) : Consumes (classDef g body decorators) := by
  unfold classDef
  infer_instance

instance : Consumes (decorator g) := by
  unfold decorator
  infer_instance

instance : Consumes (decorated g body) := by
  unfold decorated
  infer_instance

instance : Consumes (conditionSuite g body) := by
  unfold conditionSuite
  infer_instance

instance : Consumes (ifStatement g body) := by
  unfold ifStatement
  infer_instance

instance : Consumes (whileStatement g body) := by
  unfold whileStatement
  infer_instance

instance : Consumes (forStatement g body) := by
  unfold forStatement
  infer_instance

instance : Consumes (withItem g) := by
  unfold withItem
  infer_instance

instance : Consumes (withItems g) := by
  unfold withItems
  infer_instance

instance : Consumes (withStatement g body) := by
  unfold withStatement
  infer_instance

instance (starred : Bool) : Consumes (handler g body starred) := by
  unfold handler
  refine .after fun _ => ?_
  dsimp only
  cases starred <;> infer_instance

instance : Consumes (finallySuite body) := by
  unfold finallySuite
  infer_instance

instance : Consumes (tryStatement g body) := by
  unfold tryStatement
  infer_instance

instance : Consumes (caseBlock g p body) := by
  unfold caseBlock
  infer_instance

instance : Consumes (matchSubject g) := by
  unfold matchSubject
  infer_instance

instance : Consumes (matchStatement g p body) := by
  unfold matchStatement
  infer_instance

instance : Consumes (statement g p body) := by
  unfold statement
  dsimp only
  refine .after fun _ => ?_
  split
  case h_9 =>
    refine .after fun _ => ?_
    split <;> infer_instance
  all_goals infer_instance

end Statements

instance consumes_statementAt (g : Rules) [∀ level, Consumes (g level)] (p : Parse Pattern)
    [Consumes p] (depth : Nat) : Consumes (statementAt g p depth) := by
  induction depth with
  | zero => exact consumes_failure
  | succ n ih =>
    show Consumes (statement g p (block g (statementAt g p n)))
    infer_instance

end Grammar

end Componentry.Source
