import Componentry.Proofs.FirstPass

/-!
# Properties that hold step by step

A compilation is put together from few steps: it gives a result, refuses, generates a name, records
a type, warns, or goes on with a result. A property of computations is `Stepwise` if it holds of
these steps, where refusals count only at the places `A`. It then holds of every function of the
compiler that is applied to a tree whose nodes all stand at such places.

The functions are gone through once, here. What is known of all of them is an instance: that a
compilation only adds to its records, that it does not refuse an annotation because of another one,
and that a refusal points into the source.

The one refusal of an annotation because of another one is kept apart (`StepwiseAll`). Only
annotated assignments need it, so all functions but those that compile statements do without.
-/

namespace Componentry

open CompileM

/-! ## Places of nodes -/

namespace Source

mutual

/-- Where the nodes of an expression stand. -/
def Expr.spans : Expr → List Span
  | .constant span _ => [span]
  | .name span _ _ => [span]
  | .attr span value _ => span :: value.spans
  | .call span func args keywords =>
    span :: (func.spans ++ (spansOfExprs args ++ spansOfExprs keywords))
  | .list span items => span :: spansOfExprs items
  | .tuple span items => span :: spansOfExprs items
  | .dict span keys values => span :: (spansOfExprs keys ++ spansOfExprs values)
  | .subscript span value index => span :: (value.spans ++ index.spans)
  | .binary span left _ right => span :: (left.spans ++ right.spans)
  | .connective span _ values => span :: spansOfExprs values
  | .unary span _ operand => span :: operand.spans
  | .compare span left _ comparators => span :: (left.spans ++ spansOfExprs comparators)
  | .ifExpr span test body orelse => span :: (test.spans ++ (body.spans ++ orelse.spans))
  | .form span _ parts => span :: spansOfInner parts

def spansOfExprs : List Expr → List Span
  | [] => []
  | e :: rest => e.spans ++ spansOfExprs rest

/-- Where the nodes inside a form stand. The clauses of a comprehension and the parameters of a
function as a whole have no place of their own. -/
def spansOfInner : List Expr → List Span
  | [] => []
  | .form _ .comprehension parts :: rest => spansOfInner parts ++ spansOfInner rest
  | .form _ .parameters parts :: rest => spansOfInner parts ++ spansOfInner rest
  | e :: rest => e.spans ++ spansOfInner rest

end

def spansOfOption (e : Option Expr) : List Span := spansOfExprs e.toList

mutual

/-- Where the nodes of a pattern stand. -/
def Pattern.spans : Pattern → List Span
  | .value span value => span :: value.spans
  | .singleton span | .star span | .wildcard span | .capture span _ => [span]
  | .sequence span patterns | .either span patterns => span :: spansOfPatterns patterns
  | .mapping span keys patterns => span :: (spansOfExprs keys ++ spansOfPatterns patterns)
  | .ofClass span cls patterns keywords =>
    span :: (cls.spans ++ (spansOfPatterns patterns ++ spansOfPatterns keywords))
  | .bound span pattern _ => span :: pattern.spans

def spansOfPatterns : List Pattern → List Span
  | [] => []
  | p :: rest => p.spans ++ spansOfPatterns rest

end

def Param.spans (p : Param) : List Span := p.span :: spansOfOption p.annot

def Params.spans (ps : Params) : List Span :=
  (ps.positionalOnly ++ ps.regular ++ ps.variadic.toList ++ ps.keywordOnly
      ++ ps.keywords.toList).flatMap Param.spans
    ++ (ps.keywordDefaults.flatMap spansOfOption ++ spansOfExprs ps.defaults)

mutual

/-- Where the nodes of a statement stand. -/
def Stmt.spans : Stmt → List Span
  | .functionDef span _ params body decorators returns =>
    span :: (params.spans ++
      (spansOfBlock body ++ (spansOfExprs decorators ++ spansOfOption returns)))
  | .classDef span _ bases keywords body decorators =>
    span :: (spansOfExprs bases ++ (spansOfExprs keywords ++ (spansOfBlock body
      ++ spansOfExprs decorators)))
  | .ret span value => span :: spansOfOption value
  | .assign span targets value => span :: (spansOfExprs targets ++ value.spans)
  | .augAssign span target _ value => span :: (target.spans ++ value.spans)
  | .annAssign span target annot value =>
    span :: (target.spans ++ (annot.spans ++ spansOfOption value))
  | .forIn span target iter body orelse =>
    span :: (target.spans ++ (iter.spans ++ (spansOfBlock body ++ spansOfBlock orelse)))
  | .whileDo span test body orelse =>
    span :: (test.spans ++ (spansOfBlock body ++ spansOfBlock orelse))
  | .ifElse span test body orelse =>
    span :: (test.spans ++ (spansOfBlock body ++ spansOfBlock orelse))
  | .matchOn span subject cases => span :: (subject.spans ++ spansOfCases cases)
  | .expr span value => span :: value.spans
  | .pass span | .brk span | .cont span => [span]
  | .form span _ parts => span :: spansOfParts parts

def spansOfBlock : List Stmt → List Span
  | [] => []
  | s :: rest => s.spans ++ spansOfBlock rest

def spansOfCases : List Case → List Span
  | [] => []
  | .mk pattern guard body :: rest =>
    pattern.spans ++ (spansOfOption guard ++ (spansOfBlock body ++ spansOfCases rest))

def spansOfParts : List Part → List Span
  | [] => []
  | .expr value :: rest => spansOfInner [value] ++ spansOfParts rest
  | .stmt value :: rest => value.spans ++ spansOfParts rest
  | .node parts :: rest => spansOfParts parts ++ spansOfParts rest

end

theorem Expr.span_mem_spans (e : Expr) : e.span ∈ e.spans := by
  cases e <;> simp [Expr.span, Expr.spans]

theorem Pattern.span_mem_spans (p : Pattern) : p.span ∈ p.spans := by
  cases p <;> simp [Pattern.span, Pattern.spans]

theorem Stmt.span_mem_spans (s : Stmt) : s.span ∈ s.spans := by
  cases s <;> simp [Stmt.span, Stmt.spans]

end Source

/-- Nodes stand at places where a refusal counts. -/
def PlacedIn (A : Option Place → Prop) (spans : List Source.Span) : Prop :=
  ∀ s ∈ spans, A (some (.ofSpan s))

section

variable {A : Option Place → Prop} {span : Source.Span} {xs ys : List Source.Span}

theorem placedIn_cons : PlacedIn A (span :: xs) ↔ A (some (.ofSpan span)) ∧ PlacedIn A xs :=
  List.forall_mem_cons

theorem placedIn_append : PlacedIn A (xs ++ ys) ↔ PlacedIn A xs ∧ PlacedIn A ys :=
  List.forall_mem_append

theorem placedIn_exprs {es : List Source.Expr} :
    PlacedIn A (Source.spansOfExprs es) ↔ ∀ e ∈ es, PlacedIn A e.spans := by
  induction es with
  | nil => simp [Source.spansOfExprs, PlacedIn]
  | cons e rest ih => rw [Source.spansOfExprs, placedIn_append, ih, List.forall_mem_cons]

theorem placedIn_some {e : Source.Expr} :
    PlacedIn A (Source.spansOfOption (some e)) ↔ PlacedIn A e.spans := by
  simp [Source.spansOfOption, placedIn_exprs]

theorem placedIn_block {stmts : List Source.Stmt} :
    PlacedIn A (Source.spansOfBlock stmts) ↔ ∀ s ∈ stmts, PlacedIn A s.spans := by
  induction stmts with
  | nil => simp [Source.spansOfBlock, PlacedIn]
  | cons s rest ih => rw [Source.spansOfBlock, placedIn_append, ih, List.forall_mem_cons]

end

/-! ## Steps -/

/-- The cause lies in a single construct: not in the text as a whole, and not in an annotation that
conflicts with an earlier one. -/
def Cause.isPlain : Cause → Bool
  | .emptySource | .invalidSyntax | .conflictingAnnot _ => false
  | _ => true

/-- A property of computations that holds of their steps, and of refusals at the places `A`. -/
structure Stepwise (A : Option Place → Prop) (P : ∀ {α : Type}, CompileM α → Prop) : Prop where
  pure : ∀ {α : Type} (a : α), P (Pure.pure a : CompileM α)
  refuse : ∀ {α : Type} {place : Option Place} {cause : Cause}, A place →
    cause.isPlain = true → P (CompileM.refuse place cause : CompileM α)
  /-- What follows only counts after the results that there are. -/
  step : ∀ {α β : Type} {x : CompileM α} {f : α → CompileM β}, P x →
    (∀ a t t', Yields x t a t' → P (f a)) → P (x >>= f)
  fresh : ∀ stem, P (CompileM.fresh stem)
  record : ∀ type, P (CompileM.record type)
  warn : ∀ w, P (CompileM.warn w)

/-- The property also holds of refusals of annotations that conflict with earlier ones. -/
structure StepwiseAll (A : Option Place → Prop) (P : ∀ {α : Type}, CompileM α → Prop) : Prop
    extends Stepwise A P where
  conflict : ∀ {α : Type} {span : Source.Span} {id : String}, A (some (.ofSpan span)) →
    P (CompileM.refuseAt span (.conflictingAnnot id) : CompileM α)

/-- The diagnostics of an attempt are such refusals. -/
def RefusedIn {α : Type} (A : Option Place → Prop) (x : Except Diagnostic α) : Prop :=
  ∀ d, x = .error d → A d.place ∧ d.cause.isPlain = true

theorem refusedIn_ok {α : Type} {A : Option Place → Prop} (a : α) :
    RefusedIn A (.ok a : Except Diagnostic α) := by
  intro d h
  cases h

theorem refusedIn_error {α : Type} {A : Option Place → Prop} {cause : Cause} {place : Option Place}
    (h : A place) (hc : cause.isPlain = true) :
    RefusedIn A (.error ⟨cause, place⟩ : Except Diagnostic α) := by
  intro d hd
  cases hd
  exact ⟨h, hc⟩

theorem RefusedIn.bind {α β : Type} {A : Option Place → Prop} {x : Except Diagnostic α}
    {f : α → Except Diagnostic β} (hx : RefusedIn A x) (hf : ∀ a, x = .ok a → RefusedIn A (f a)) :
    RefusedIn A (x >>= f) := by
  cases x with
  | error d =>
    intro d' hd
    cases hd
    exact hx d rfl
  | ok a => exact hf a rfl

namespace Stepwise

variable {A : Option Place → Prop} {P : ∀ {α : Type}, CompileM α → Prop} {α β γ : Type}
  {x : CompileM α} {f : α → CompileM β} {span : Source.Span} {cause : Cause}

theorem bind (h : Stepwise A P) (hx : P x) (hf : ∀ a, P (f a)) : P (x >>= f) :=
  h.step hx fun a _ _ _ => hf a

theorem map (h : Stepwise A P) (hx : P x) (g : α → β) : P (x >>= fun a => Pure.pure (g a)) :=
  h.bind hx fun _ => h.pure _

theorem refuseAt (h : Stepwise A P) (hspan : A (some (.ofSpan span)))
    (hc : cause.isPlain = true) : P (CompileM.refuseAt span cause : CompileM α) :=
  h.refuse hspan hc

theorem ite (_ : Stepwise A P) {p : Prop} [Decidable p] {y : CompileM α} (hx : P x) (hy : P y) :
    P (if p then x else y) := by
  split
  · exact hx
  · exact hy

theorem check (h : Stepwise A P) {p : Prop} [Decidable p] {g : γ → CompileM α}
    (hspan : A (some (.ofSpan span))) (hc : cause.isPlain = true) (hx : P x) :
    P (if p then CompileM.refuseAt span cause >>= g else x) := by
  split
  · exact h.step (h.refuseAt hspan hc) fun a t t' ha => absurd ha yields_throw
  · exact hx

theorem ofRegistry (h : Stepwise A P) {place : Option Place} {x : Except Registry.Error α}
    (hplace : A place) : P (CompileM.ofRegistry place x) := by
  cases x with
  | error e => exact h.refuse hplace rfl
  | ok a => exact h.pure a

theorem ofExcept (h : Stepwise A P) {x : Except Diagnostic α} (hx : RefusedIn A x) :
    P (MonadExcept.ofExcept x : CompileM α) := by
  cases x with
  | error d =>
    obtain ⟨hplace, hc⟩ := hx d rfl
    exact h.refuse hplace hc
  | ok a => exact h.pure a

theorem mapM (h : Stepwise A P) {g : γ → CompileM α} {cs : List γ} (hg : ∀ k ∈ cs, P (g k)) :
    P (cs.mapM g) := by
  induction cs with
  | nil => exact h.pure []
  | cons k rest ih =>
    obtain ⟨hk, hrest⟩ := List.forall_mem_cons.mp hg
    rw [List.mapM_cons]
    exact h.bind hk fun _ => h.map (ih hrest) _

theorem forM (h : Stepwise A P) {g : γ → CompileM PUnit} {cs : List γ} (hg : ∀ k ∈ cs, P (g k)) :
    P (cs.forM g) := by
  induction cs with
  | nil => exact h.pure _
  | cons k rest ih =>
    obtain ⟨hk, hrest⟩ := List.forall_mem_cons.mp hg
    exact h.bind hk fun _ => ih hrest

theorem forIn (h : Stepwise A P) {g : γ → β → CompileM (ForInStep β)} (hg : ∀ k b, P (g k b))
    (cs : List γ) (b : β) : P (ForIn.forIn cs b g) := by
  induction cs generalizing b with
  | nil => exact h.pure b
  | cons k rest ih =>
    rw [List.forIn_cons]
    refine h.bind (hg k b) fun step => ?_
    cases step with
    | done b' => exact h.pure b'
    | yield b' => exact ih b'

theorem body (h : Stepwise A P) {bind : String} {env : TypeEnv} {absent : β}
    {chain : β → List (HostType × β) → β} {default : Option (Branch CompileM β)}
    {plan : Plan (Branch CompileM β)} (hdefault : ∀ d ∈ default, ∀ env, P (d env))
    (hclauses : ∀ c ∈ plan.clauses, ∀ env, P (c.branch env)) :
    P (Dispatch.body bind env absent chain default plan) := by
  have hfinal (static : Option HostType) :
      P (Dispatch.buildDefault bind env static absent default) := by
    cases default with
    | none => exact h.pure absent
    | some d => exact hdefault d rfl _
  have hall (cs : List (Clause (Branch CompileM β))) (hcs : ∀ c ∈ cs, ∀ env, P (c.branch env)) :
      P (Dispatch.buildAll bind env cs) := by
    induction cs with
    | nil => exact h.pure []
    | cons c rest ih =>
      refine h.bind (hcs c List.mem_cons_self _) fun b => ?_
      exact h.map (ih fun c' hc' => hcs c' (List.mem_cons_of_mem c hc')) _
  cases plan with
  | exact T c => exact hclauses c List.mem_cons_self _
  | fallback T => exact hfinal _
  | pruned T cs => exact h.bind (hfinal _) fun f => h.map (hall cs hclauses) _
  | full cs => exact h.bind (hfinal _) fun f => h.map (hall cs hclauses) _

end Stepwise

theorem StepwiseAll.checkConflict {A : Option Place → Prop} {P : ∀ {α : Type}, CompileM α → Prop}
    (h : StepwiseAll A P) {α : Type} {x : CompileM α} {span : Source.Span} {id : String} {p : Prop}
    [Decidable p] {g : PUnit → CompileM α} (hspan : A (some (.ofSpan span))) (hx : P x) :
    P (if p then CompileM.refuseAt span (.conflictingAnnot id) >>= g else x) := by
  split
  · exact h.step (h.conflict hspan) fun a t t' ha => absurd ha yields_throw
  · exact hx

/-! ## Lookups -/

namespace Access

variable {A : Option Place → Prop} {P : ∀ {α : Type}, CompileM α → Prop} {r : Registry}
  {place : Option Place}

theorem stepwise_dispatchOn (h : Stepwise A P) (hplace : A place) {stem subject : String}
    {types : List String} {env : TypeEnv} {build : String → Branch CompileM Ir.Expr}
    (hbuild : ∀ bind env, P (build bind env)) :
    P (dispatchOn r place stem types subject env build) := by
  refine h.bind (h.fresh stem) fun bind => h.step (h.ofRegistry hplace) fun plan t t' hplan => ?_
  obtain ⟨hok, -⟩ := yields_ofRegistry.mp hplan
  refine h.bind (h.record _) fun _ => h.map (h.body (by simp) fun c hc env => ?_) _
  rw [branch_of_mem_planDispatch hok c hc]
  exact hbuild bind env

theorem stepwise_onVariables (h : Stepwise A P) (hplace : A place) (obj target : String)
    (env : TypeEnv) : P (onVariables r place obj target env) := by
  have hcall : ∀ e : Ir.Expr, P (pure e : CompileM Ir.Expr) := h.pure
  unfold onVariables
  dsimp only
  split
  · exact hcall _
  · exact stepwise_dispatchOn h hplace fun _ _ => hcall _
  · exact stepwise_dispatchOn h hplace fun _ _ => hcall _
  · exact stepwise_dispatchOn h hplace fun _ _ => stepwise_dispatchOn h hplace fun _ _ => hcall _

theorem stepwise_specialize (h : Stepwise A P) (hplace : A place) (env : TypeEnv)
    (args : List Ir.Expr) : P (specialize r place env args) := by
  have hhoist (stem : String) (arg : Ir.Expr) (inner : TypeEnv) :
      P (hoist r env stem arg inner) := by
    unfold hoist
    split
    · exact h.pure _
    · exact h.map (h.fresh stem) _
  unfold specialize
  split
  · refine h.bind (hhoist "obj" _ env) fun hoisted => ?_
    obtain ⟨obj, objBinding, inner⟩ := hoisted
    refine h.bind (hhoist "target" _ inner) fun hoisted => ?_
    obtain ⟨target, targetBinding, inner'⟩ := hoisted
    refine h.bind (stepwise_onVariables h hplace obj target inner') fun call => ?_
    split
    · exact h.pure _
    · exact h.pure _
  · exact h.refuse hplace rfl

end Access

namespace Compile

open Source (Case Expr Pattern Span Stmt spansOfBlock spansOfCases spansOfExprs spansOfOption)

section

variable {A : Option Place → Prop} {P : ∀ {α : Type}, CompileM α → Prop} {span : Span}

/-! ## Expressions -/

theorem refusedIn_expectDotted (label : String) {e : Expr} (he : PlacedIn A e.spans) :
    RefusedIn A (e.expectDotted label) := by
  unfold Expr.expectDotted
  split
  · exact refusedIn_ok _
  · exact refusedIn_error (he _ e.span_mem_spans) rfl

theorem refusedIn_designator {e : Expr} (he : PlacedIn A e.spans) :
    RefusedIn A e.designator := by
  unfold Expr.designator
  split
  · exact refusedIn_ok _
  · exact (refusedIn_expectDotted "type" he).bind fun _ _ => refusedIn_ok _

section

variable (h : Stepwise A P) (r : Registry) (env : TypeEnv)

include h

theorem stepwise_checkName (hspan : A (some (.ofSpan span))) (id : String) :
    P (checkName span id) :=
  h.ite (h.refuseAt hspan rfl) (h.ite (h.refuseAt hspan rfl) (h.pure ()))

theorem stepwise_annotType (hspan : A (some (.ofSpan span))) {annot : Option Expr}
    (hannot : PlacedIn A (spansOfOption annot)) : P (annotType r span annot) := by
  cases annot with
  | none => exact h.pure none
  | some e =>
    have he := placedIn_exprs.mp hannot e (by simp)
    refine h.bind (h.ofExcept (refusedIn_designator he)) fun designator => ?_
    cases designator with
    | none => exact h.pure none
    | some name => exact h.map (h.ofRegistry hspan) _

theorem stepwise_name (hspan : A (some (.ofSpan span))) (id : String) : P (name r env span id) := by
  unfold name
  refine h.ite (h.refuseAt hspan rfl) (h.ite (h.pure _) ?_)
  split
  · exact h.pure _
  · exact h.ite (h.pure _) (h.refuseAt hspan rfl)

theorem stepwise_checkArguments (hspan : A (some (.ofSpan span)))
    (args keywords : List Expr) : P (checkArguments span args keywords) :=
  h.ite (h.refuseAt hspan rfl) (h.ite (h.refuseAt hspan rfl) (h.pure ()))

theorem stepwise_exprs_of {es : List Expr} (hes : ∀ e ∈ es, P (expr r env e)) :
    P (exprs r env es) := by
  induction es with
  | nil => exact h.pure []
  | cons e rest ih =>
    obtain ⟨he, hrest⟩ := List.forall_mem_cons.mp hes
    unfold exprs
    exact h.bind he fun _ => h.map (ih hrest) _

end

mutual

theorem stepwise_expr (h : Stepwise A P) (r : Registry) (env : TypeEnv) :
    ∀ e : Expr, PlacedIn A e.spans → P (expr r env e)
  | .constant span value, he => by
    obtain ⟨hspan, -⟩ := placedIn_cons.mp he
    cases value with
    | literal v => exact h.pure _
    | _ => exact h.refuseAt hspan rfl
  | .name span id _, he => stepwise_name h r env (placedIn_cons.mp he).1 id
  | .attr span value member, he => by
    unfold expr
    split
    · exact h.pure _
    · exact h.map (stepwise_expr h r env value (placedIn_cons.mp he).2) _
  | .call span func args keywords, he => by
    simp only [Expr.spans, placedIn_cons, placedIn_append] at he
    obtain ⟨hspan, hfunc, hplaced, -⟩ := he
    have hargs := stepwise_each h r env args hplaced
    unfold expr
    refine h.bind (stepwise_checkArguments h hspan args keywords) fun _ => ?_
    split
    · exact h.bind (stepwise_exprs_of h r env hargs) fun es =>
        Access.stepwise_specialize h hspan env es
    · split
      · next type value =>
        have htype := placedIn_exprs.mp hplaced type (by simp)
        refine h.bind (h.ofExcept (refusedIn_expectDotted "type" htype)) fun _ => ?_
        exact h.bind (h.ofRegistry hspan) fun _ => h.map (hargs value (by simp)) _
      · exact h.refuseAt hspan rfl
    · exact h.bind (stepwise_expr h r env func hfunc) fun _ =>
        h.map (stepwise_exprs_of h r env hargs) _
  | .list _ items, he => by
    unfold expr
    exact h.map (stepwise_exprs_of h r env (stepwise_each h r env items (placedIn_cons.mp he).2)) _
  | .tuple _ items, he => by
    unfold expr
    exact h.map (stepwise_exprs_of h r env (stepwise_each h r env items (placedIn_cons.mp he).2)) _
  | .dict _ keys values, he => by
    simp only [Expr.spans, placedIn_cons, placedIn_append] at he
    unfold expr
    refine h.bind (stepwise_exprs_of h r env (stepwise_each h r env keys he.2.1)) fun _ => ?_
    exact h.map (stepwise_exprs_of h r env (stepwise_each h r env values he.2.2)) _
  | .subscript span value index, he => by
    simp only [Expr.spans, placedIn_cons, placedIn_append] at he
    unfold expr
    refine h.check he.1 rfl (h.bind (stepwise_expr h r env value he.2.1) fun _ => ?_)
    exact h.map (stepwise_expr h r env index he.2.2) _
  | .binary span left op right, he => by
    simp only [Expr.spans, placedIn_cons, placedIn_append] at he
    unfold expr
    split
    · exact h.refuseAt he.1 rfl
    · exact h.bind (stepwise_expr h r env left he.2.1) fun _ =>
        h.map (stepwise_expr h r env right he.2.2) _
  | .connective _ op values, he => by
    unfold expr
    exact h.map (stepwise_exprs_of h r env (stepwise_each h r env values (placedIn_cons.mp he).2)) _
  | .unary span op operand, he => by
    obtain ⟨hspan, hoperand⟩ := placedIn_cons.mp he
    unfold expr
    split
    · exact h.refuseAt hspan rfl
    · exact h.map (stepwise_expr h r env operand hoperand) _
  | .compare span left ops comparators, he => by
    simp only [Expr.spans, placedIn_cons, placedIn_append] at he
    have hcomparators := stepwise_each h r env comparators he.2.2
    unfold expr
    split
    · next op right =>
      exact h.bind (stepwise_expr h r env left he.2.1) fun _ =>
        h.map (hcomparators right (by simp)) _
    · exact h.refuseAt he.1 rfl
  | .ifExpr _ test body orelse, he => by
    simp only [Expr.spans, placedIn_cons, placedIn_append] at he
    unfold expr
    refine h.bind (stepwise_expr h r env test he.2.1) fun _ => ?_
    exact h.bind (stepwise_expr h r env body he.2.2.1) fun _ =>
      h.map (stepwise_expr h r env orelse he.2.2.2) _
  | .form span f _, he => by
    obtain ⟨hspan, -⟩ := placedIn_cons.mp he
    cases f <;> exact h.refuseAt hspan rfl

theorem stepwise_each (h : Stepwise A P) (r : Registry) (env : TypeEnv) :
    ∀ es : List Expr, PlacedIn A (spansOfExprs es) → ∀ e ∈ es, P (expr r env e)
  | [], _ => List.forall_mem_nil _
  | e :: rest, hes =>
    have hes := placedIn_append.mp hes
    List.forall_mem_cons.mpr ⟨stepwise_expr h r env e hes.1, stepwise_each h r env rest hes.2⟩

end

section

variable (h : Stepwise A P) (r : Registry) (env : TypeEnv)

include h

theorem stepwise_exprOption {e : Option Expr} (he : PlacedIn A (spansOfOption e)) :
    P (exprOption r env e) := by
  cases e with
  | none => exact h.pure none
  | some e => exact h.map (stepwise_expr h r env e (placedIn_exprs.mp he e (by simp))) _

/-! ## Statements without blocks -/

theorem stepwise_target (hspan : A (some (.ofSpan span))) {e : Expr}
    (he : PlacedIn A e.spans) : P (target r env span e) := by
  cases e with
  | name sp id use =>
    refine h.bind (stepwise_checkName h hspan id) fun _ => ?_
    split_ifs
    · exact h.pure _
    · exact h.refuseAt hspan rfl
  | attr sp value member => exact h.map (stepwise_expr h r env value (placedIn_cons.mp he).2) _
  | subscript sp value index =>
    simp only [Expr.spans, placedIn_cons, placedIn_append] at he
    refine h.check hspan rfl (h.bind (stepwise_expr h r env value he.2.1) fun _ => ?_)
    exact h.map (stepwise_expr h r env index he.2.2) _
  | _ => exact h.refuseAt hspan rfl

theorem stepwise_assign (hspan : A (some (.ofSpan span))) {targets : List Expr}
    {value : Expr} (htargets : PlacedIn A (spansOfExprs targets))
    (hvalue : PlacedIn A value.spans) : P (assign r env span targets value) := by
  unfold assign
  split
  · refine h.bind (stepwise_expr h r env value hvalue) fun _ => ?_
    exact h.map (stepwise_checkName h hspan _) _
  · next t _ =>
    refine h.bind (stepwise_expr h r env value hvalue) fun _ => ?_
    exact h.map (stepwise_target h r env hspan (placedIn_exprs.mp htargets t (by simp))) _
  · exact h.refuseAt hspan rfl

theorem stepwise_augAssign (hspan : A (some (.ofSpan span))) {t : Expr}
    (op : Source.BinaryOp) {value : Expr} (ht : PlacedIn A t.spans)
    (hvalue : PlacedIn A value.spans) : P (augAssign r env span t op value) := by
  unfold augAssign
  split
  · exact h.refuseAt hspan rfl
  · refine h.bind (stepwise_target h r env hspan ht) fun _ => ?_
    exact h.map (stepwise_expr h r env value hvalue) _

theorem stepwise_typeHead (heads : Heads) (hspan : A (some (.ofSpan span)))
    {pattern : Pattern} (hpattern : PlacedIn A pattern.spans) (capture : Option String) :
    P (typeHead heads span pattern capture) := by
  unfold typeHead
  split
  · simp only [Pattern.spans, placedIn_cons, placedIn_append] at hpattern
    refine h.bind (h.ofExcept (refusedIn_expectDotted "type" hpattern.2.1)) fun designator => ?_
    dsimp only
    split
    · exact h.pure _
    · exact h.map (stepwise_checkName h hspan _) _
    · exact h.bind (stepwise_checkName h hspan _) fun _ => h.check hspan rfl (h.pure _)
  · exact h.refuseAt hspan rfl

theorem stepwise_caseHead (heads : Heads) (isLast : Bool) {pattern : Pattern}
    (hpattern : PlacedIn A pattern.spans) (guard : Option Expr) :
    P (caseHead heads isLast pattern guard) := by
  have hspan := hpattern _ pattern.span_mem_spans
  unfold caseHead
  refine h.check hspan rfl ?_
  split
  · exact h.refuseAt hspan rfl
  · exact h.check hspan rfl (h.pure _)
  · exact stepwise_typeHead h heads hspan (placedIn_cons.mp hpattern).2 _
  · exact stepwise_typeHead h heads hspan hpattern _

theorem stepwise_caseHeads {cases : List Case}
    (hcases : PlacedIn A (spansOfCases cases)) (heads : Heads) :
    P (caseHeads heads cases) := by
  induction cases generalizing heads with
  | nil => exact h.pure heads
  | cons c rest ih =>
    obtain ⟨pattern, guard, body⟩ := c
    simp only [spansOfCases, placedIn_append] at hcases
    exact h.bind (stepwise_caseHead h heads rest.isEmpty hcases.1 guard) fun heads =>
      ih hcases.2.2.2 heads

theorem stepwise_subjectName (heads : Heads) : P (subjectName heads) := by
  unfold subjectName
  split
  · exact h.pure _
  · exact h.fresh "cast"

/-! ## Heads of functions and components -/

theorem stepwise_paramList {ps : List Source.Param} (hps : ∀ p ∈ ps, PlacedIn A p.spans)
    (env : TypeEnv) : P (paramList r ps env) := by
  induction ps generalizing env with
  | nil => exact h.pure _
  | cons p rest ih =>
    obtain ⟨hp, hrest⟩ := List.forall_mem_cons.mp hps
    obtain ⟨hspan, hannot⟩ := placedIn_cons.mp hp
    refine h.bind (stepwise_checkName h hspan p.name) fun _ => ?_
    exact h.bind (stepwise_annotType h r hspan hannot) fun _ => h.map (ih hrest _) _

theorem stepwise_params {fn : FunctionSource} (hspan : A (some (.ofSpan fn.span)))
    (hps : ∀ p ∈ fn.params.regular, PlacedIn A p.spans) (receiver : Option HostType) :
    P (params r fn receiver env) := by
  unfold params
  refine h.check hspan rfl (h.check hspan rfl (h.check hspan rfl ?_))
  split
  · exact stepwise_paramList h r hps env
  · split
    · exact h.refuseAt hspan rfl
    · next p rest heq =>
      have hrest : ∀ p ∈ rest, PlacedIn A p.spans := fun q hq => hps q (by simp [heq, hq])
      exact h.check hspan rfl (h.map (stepwise_paramList h r hrest _) _)

theorem stepwise_isConstant (hspan : A (some (.ofSpan span))) (decorators : List Expr) :
    P (isConstant span decorators) := by
  induction decorators with
  | nil => exact h.pure true
  | cons d rest ih =>
    unfold isConstant
    split
    · exact h.pure true
    · next heq =>
      obtain ⟨-, rfl⟩ := List.cons.inj heq
      exact h.check hspan rfl (h.map ih _)
    · exact h.refuseAt hspan rfl

theorem stepwise_checkBases (hspan : A (some (.ofSpan span))) {bases : List Expr}
    (hbases : PlacedIn A (spansOfExprs bases)) : P (checkBases r span bases) := by
  unfold checkBases
  split
  · exact h.pure ()
  · next base =>
    have hbase := placedIn_exprs.mp hbases base (by simp)
    refine h.bind (h.ofExcept (refusedIn_expectDotted "base" hbase)) fun _ => ?_
    refine h.bind (h.ofRegistry hspan) fun _ => ?_
    split_ifs
    · exact h.refuseAt hspan rfl
    · exact h.pure ()
  · exact h.refuseAt hspan rfl

end

theorem refusedIn_fieldDesignators {body : List Stmt}
    (hbody : PlacedIn A (spansOfBlock body)) : RefusedIn A (fieldDesignators body) := by
  induction body with
  | nil => exact refusedIn_ok _
  | cons s rest ih =>
    obtain ⟨hs, hrest⟩ := placedIn_append.mp hbody
    unfold fieldDesignators
    split
    · exact refusedIn_ok _
    · next heq =>
      obtain ⟨rfl, rfl⟩ := List.cons.inj heq
      simp only [Stmt.spans, placedIn_cons, placedIn_append] at hs
      refine (refusedIn_designator hs.2.2.1).bind fun _ _ => ?_
      exact (ih hrest).bind fun _ _ => refusedIn_ok _
    · next heq =>
      obtain ⟨-, rfl⟩ := List.cons.inj heq
      exact ih hrest

section

variable (h : Stepwise A P) (r : Registry) (env : TypeEnv)

include h

theorem stepwise_register (hspan : A (some (.ofSpan span))) (name : String)
    {bases : List Expr} (keywords : List Expr) {body : List Stmt}
    (decorators : List Expr) (hbases : PlacedIn A (spansOfExprs bases))
    (hbody : PlacedIn A (spansOfBlock body)) :
    P (register r span name bases keywords body decorators) := by
  refine h.bind (stepwise_isConstant h hspan decorators) fun _ => h.check hspan rfl ?_
  refine h.bind (stepwise_checkBases h r hspan hbases) fun _ => ?_
  refine h.bind (h.ofExcept (refusedIn_fieldDesignators hbody)) fun _ => ?_
  exact h.map (h.ofRegistry hspan) _

theorem stepwise_checkFieldTypes {body : List Stmt}
    (hbody : PlacedIn A (spansOfBlock body)) : P (checkFieldTypes r body) := by
  induction body with
  | nil => exact h.pure ()
  | cons s rest ih =>
    obtain ⟨hs, hrest⟩ := placedIn_append.mp hbody
    unfold checkFieldTypes
    split
    · exact h.pure ()
    · next heq =>
      obtain ⟨rfl, rfl⟩ := List.cons.inj heq
      simp only [Stmt.spans, placedIn_cons, placedIn_append] at hs
      exact h.bind (stepwise_annotType h r hs.1 (placedIn_some.mpr hs.2.2.1)) fun _ => ih hrest
    · next heq =>
      obtain ⟨-, rfl⟩ := List.cons.inj heq
      exact ih hrest

theorem stepwise_field (hspan : A (some (.ofSpan span))) (t : Expr) {annot : Expr}
    {value : Option Expr} (hannot : PlacedIn A annot.spans)
    (hvalue : PlacedIn A (spansOfOption value)) : P (field r env span t annot value) := by
  unfold field
  split
  · refine h.bind (stepwise_annotType h r hspan (placedIn_some.mpr hannot)) fun _ => ?_
    exact h.map (stepwise_exprOption h r env hvalue) _
  · exact h.refuseAt hspan rfl

end

/-! ## Statements with blocks -/

theorem stepwise_annAssign (h : StepwiseAll A P) (r : Registry) (env : TypeEnv)
    (hspan : A (some (.ofSpan span))) (t : Expr) {annot : Expr}
    {value : Option Expr} (hannot : PlacedIn A annot.spans)
    (hvalue : PlacedIn A (spansOfOption value)) :
    P (annAssign r env span t annot value) := by
  have h' := h.toStepwise
  unfold annAssign
  split
  · refine h'.bind (stepwise_checkName h' hspan _) fun _ => ?_
    refine h'.bind (stepwise_annotType h' r hspan (placedIn_some.mpr hannot)) fun _ => ?_
    exact h.checkConflict hspan (h'.map (stepwise_exprOption h' r env hvalue) _)
  · exact h'.refuseAt hspan rfl

theorem stepwise_dispatch (h : Stepwise A P) (r : Registry) (env : TypeEnv)
    (hspan : A (some (.ofSpan span))) {subject : Expr} {cases : List Case}
    (hsubject : PlacedIn A subject.spans) (hcases : PlacedIn A (spansOfCases cases))
    {branches : List (Branch CompileM (List Ir.Stmt))}
    (hbranches : ∀ b ∈ branches, ∀ env, P (b env)) :
    P (dispatch r env span subject cases branches) := by
  rw [dispatch_eq]
  refine h.bind (stepwise_expr h r env subject hsubject) fun value => ?_
  refine h.bind (stepwise_caseHeads h hcases {}) fun heads => ?_
  refine h.bind (stepwise_subjectName h heads) fun bind => ?_
  refine h.step (h.ofRegistry hspan) fun plan t t' hplan => ?_
  obtain ⟨hok, -⟩ := yields_ofRegistry.mp hplan
  have hclauses : ∀ c ∈ plan.clauses, ∀ env, P (c.branch env) := by
    intro c hc
    obtain ⟨d, -, hmem⟩ := (of_mem_planDispatch hok).2 c hc
    exact hbranches c.branch (List.of_mem_zip hmem).2
  have hdefault : ∀ d ∈ (if heads.hasDefault then branches.getLast? else none),
      ∀ env, P (d env) := by
    intro d hd
    split_ifs at hd
    · exact hbranches d (List.mem_of_getLast? hd)
    · exact nomatch hd
  exact h.bind (h.record _) fun _ => h.map (h.map (h.body hdefault hclauses) _) _

mutual

theorem stepwise_stmt (h : StepwiseAll A P) (r : Registry) : ∀ (s : Stmt) (inLoop : Bool)
    (env : TypeEnv), PlacedIn A s.spans → P (stmt r s inLoop env)
  | .assign span targets value, _, env, hs => by
    simp only [Stmt.spans, placedIn_cons, placedIn_append] at hs
    exact stepwise_assign h.toStepwise r env hs.1 hs.2.1 hs.2.2
  | .annAssign span t annot value, _, env, hs => by
    simp only [Stmt.spans, placedIn_cons, placedIn_append] at hs
    exact stepwise_annAssign h r env hs.1 t hs.2.2.1 hs.2.2.2
  | .augAssign span t op value, _, env, hs => by
    simp only [Stmt.spans, placedIn_cons, placedIn_append] at hs
    exact stepwise_augAssign h.toStepwise r env hs.1 op hs.2.1 hs.2.2
  | .expr span value, _, env, hs => by
    obtain ⟨hspan, hvalue⟩ := placedIn_cons.mp hs
    unfold stmt
    refine h.ite (h.pure _) ?_
    split
    · exact h.map (stepwise_expr h.toStepwise r env _ hvalue) _
    · exact h.refuseAt hspan rfl
  | .ifElse _ test body orelse, inLoop, env, hs => by
    simp only [Stmt.spans, placedIn_cons, placedIn_append] at hs
    unfold stmt
    refine h.bind (stepwise_expr h.toStepwise r env test hs.2.1) fun _ => ?_
    exact h.bind (stepwise_block h r body inLoop env hs.2.2.1) fun _ =>
      h.map (stepwise_block h r orelse inLoop env hs.2.2.2) _
  | .whileDo span test body orelse, _, env, hs => by
    simp only [Stmt.spans, placedIn_cons, placedIn_append] at hs
    unfold stmt
    refine h.check hs.1 rfl (h.bind (stepwise_expr h.toStepwise r _ test hs.2.1) fun _ => ?_)
    exact h.map (stepwise_block h r body true _ hs.2.2.1) _
  | .forIn span t iter body orelse, _, env, hs => by
    simp only [Stmt.spans, placedIn_cons, placedIn_append] at hs
    unfold stmt
    refine h.check hs.1 rfl ?_
    split
    · refine h.bind (stepwise_checkName h.toStepwise hs.1 _) fun _ => ?_
      refine h.bind (stepwise_expr h.toStepwise r env iter hs.2.2.1) fun _ => ?_
      exact h.map (stepwise_block h r body true _ hs.2.2.2.1) _
    · exact h.refuseAt hs.1 rfl
  | .matchOn span subject cases, inLoop, env, hs => by
    simp only [Stmt.spans, placedIn_cons, placedIn_append] at hs
    exact stepwise_dispatch h.toStepwise r env hs.1 hs.2.1 hs.2.2
      (stepwise_builders h r cases inLoop hs.2.2)
  | .ret _ value, _, env, hs =>
    h.map (stepwise_exprOption h.toStepwise r env (placedIn_cons.mp hs).2) _
  | .brk span, _, _, hs => h.ite (h.pure _) (h.refuseAt (placedIn_cons.mp hs).1 rfl)
  | .cont span, _, _, hs => h.ite (h.pure _) (h.refuseAt (placedIn_cons.mp hs).1 rfl)
  | .pass _, _, _, _ => h.pure _
  | .functionDef .., _, _, hs => h.refuseAt (placedIn_cons.mp hs).1 rfl
  | .classDef .., _, _, hs => h.refuseAt (placedIn_cons.mp hs).1 rfl
  | .form .., _, _, hs => h.refuseAt (placedIn_cons.mp hs).1 rfl

theorem stepwise_block (h : StepwiseAll A P) (r : Registry) : ∀ (stmts : List Stmt)
    (inLoop : Bool) (env : TypeEnv), PlacedIn A (spansOfBlock stmts) →
    P (block r stmts inLoop env)
  | [], _, _, _ => h.pure _
  | s :: rest, inLoop, env, hs => by
    obtain ⟨hs, hrest⟩ := placedIn_append.mp hs
    unfold block
    refine h.bind (stepwise_stmt h r s inLoop env hs) fun ⟨first, env₁⟩ => ?_
    exact h.map (stepwise_block h r rest inLoop env₁ hrest) _

theorem stepwise_builders (h : StepwiseAll A P) (r : Registry) : ∀ (cases : List Case)
    (inLoop : Bool), PlacedIn A (spansOfCases cases) →
    ∀ b ∈ builders r cases inLoop, ∀ env, P (b env)
  | [], _, _, _, hb, _ => by simp [builders] at hb
  | .mk _ _ body :: rest, inLoop, hcases, b, hb, env => by
    simp only [spansOfCases, placedIn_append] at hcases
    simp only [builders, List.mem_cons] at hb
    rcases hb with rfl | hb
    · exact h.map (stepwise_block h r body inLoop env hcases.2.2.1) _
    · exact stepwise_builders h r rest inLoop hcases.2.2.2 b hb env

end

/-! ## Functions and components -/

def GlobalSource.spans (g : GlobalSource) : List Span :=
  g.span :: (g.annot.spans ++ spansOfOption g.value)

def FunctionSource.spans (fn : FunctionSource) : List Span :=
  (Stmt.functionDef fn.span fn.name fn.params fn.body fn.decorators fn.returns).spans

def ClassSource.spans (c : ClassSource) : List Span :=
  (Stmt.classDef c.span c.name c.bases c.keywords c.body c.decorators).spans

theorem placedIn_function {fn : FunctionSource} (hfn : PlacedIn A fn.spans) :
    A (some (.ofSpan fn.span)) ∧ (∀ p ∈ fn.params.regular, PlacedIn A p.spans) ∧
      PlacedIn A (spansOfBlock fn.body) := by
  simp only [FunctionSource.spans, Stmt.spans, Source.Params.spans, placedIn_cons,
    placedIn_append] at hfn
  refine ⟨hfn.1, fun p hp s hs => hfn.2.1.1 s (List.mem_flatMap.mpr ⟨p, ?_, hs⟩), hfn.2.2.1⟩
  simp [hp]

/-- The head of a class is compiled with its bases, and its body for itself. -/
theorem placedIn_class {c : ClassSource} (hc : PlacedIn A c.spans) :
    A (some (.ofSpan c.span)) ∧ PlacedIn A (spansOfExprs c.bases) ∧
      PlacedIn A (spansOfBlock c.body) := by
  simp only [ClassSource.spans, Stmt.spans, placedIn_cons, placedIn_append] at hc
  exact ⟨hc.1, hc.2.1, hc.2.2.2.1⟩

section

variable (h : StepwiseAll A P) (r : Registry) (env : TypeEnv)

include h

theorem stepwise_function {fn : FunctionSource} (hfn : PlacedIn A fn.spans) :
    P (function r env fn) := by
  obtain ⟨hspan, hps, hbody⟩ := placedIn_function hfn
  refine h.check hspan rfl ?_
  refine h.bind (stepwise_params h.toStepwise r env hspan hps none) fun ⟨params, env₁⟩ => ?_
  exact h.map (stepwise_block h r fn.body false env₁ hbody) _

theorem stepwise_method (type : HostType) {fn : FunctionSource} (hfn : PlacedIn A fn.spans) :
    P (method r env type fn) := by
  obtain ⟨hspan, hps, hbody⟩ := placedIn_function hfn
  refine h.check hspan rfl (h.check hspan rfl ?_)
  refine h.bind (stepwise_params h.toStepwise r env hspan hps _) fun ⟨params, env₁⟩ => ?_
  exact h.map (stepwise_block h r fn.body false env₁ hbody) _

theorem stepwise_groupBody (type : HostType) {body : List Stmt}
    (hbody : PlacedIn A (spansOfBlock body)) : P (groupBody r env type body) := by
  induction body with
  | nil => exact h.pure []
  | cons s rest ih =>
    obtain ⟨hs, hrest⟩ := placedIn_append.mp hbody
    cases s with
    | functionDef span name params body decorators returns =>
      exact h.bind (stepwise_method h r env type hs) fun _ => h.map (ih hrest) _
    | pass span => exact ih hrest
    | _ =>
      unfold groupBody
      exact h.ite (ih hrest) (h.refuseAt (hs _ (Stmt.span_mem_spans _)) rfl)

theorem stepwise_group (type : HostType) (c : ClassSource) (hc : PlacedIn A c.spans) :
    P (group r env type c.span c.name c.bases c.keywords c.body c.decorators) := by
  obtain ⟨hspan, hbases, hbody⟩ := placedIn_class hc
  have hmethods (interface : String) : P (do
      let methods ← groupBody r env type c.body
      if methods.isEmpty then refuseAt c.span (.emptyGroup interface)
      return Declaration.group interface methods) :=
    h.bind (stepwise_groupBody h r env type hbody) fun _ => h.check hspan rfl (h.pure _)
  unfold group
  refine h.check hspan rfl ?_
  dsimp only
  split
  · exact h.bind (h.pure c.name) hmethods
  · next base heq =>
    have hbase := placedIn_exprs.mp (heq ▸ hbases) base (by simp)
    exact h.bind (h.ofExcept (refusedIn_expectDotted _ hbase)) hmethods
  · exact h.bind (h.refuseAt hspan rfl) hmethods

theorem stepwise_componentBody (type : HostType) {body : List Stmt}
    (hbody : PlacedIn A (spansOfBlock body)) : P (componentBody r env type body) := by
  induction body with
  | nil => exact h.pure _
  | cons s rest ih =>
    obtain ⟨hs, hrest⟩ := placedIn_append.mp hbody
    cases s with
    | annAssign span t annot value =>
      simp only [Stmt.spans, placedIn_cons, placedIn_append] at hs
      exact h.bind (stepwise_field h.toStepwise r env hs.1 t hs.2.2.1 hs.2.2.2) fun _ =>
        h.map (ih hrest) _
    | functionDef span name params body decorators returns =>
      exact h.bind (stepwise_method h r env type hs) fun _ => h.map (ih hrest) _
    | classDef span name bases keywords body decorators =>
      exact h.bind (stepwise_group h r env type ⟨span, name, bases, keywords, body, decorators⟩ hs)
        fun _ => h.map (ih hrest) _
    | pass span => exact ih hrest
    | _ =>
      unfold componentBody
      exact h.ite (ih hrest) (h.refuseAt (hs _ (Stmt.span_mem_spans _)) rfl)

end

/-! ## Places of methods -/

/-- Methods are declared at places where a refusal counts. -/
def FormsIn (A : Option Place → Prop) (forms : List MethodForm) : Prop :=
  ∀ form ∈ forms, ∃ p, form.place = some p ∧ A (some p)

section

variable {r : Registry} {env : TypeEnv} {type : HostType} {t t' : Trace}

theorem formsIn_method {fn : FunctionSource} {form : MethodForm}
    (hspan : A (some (.ofSpan fn.span))) (h : Yields (method r env type fn) t form t') :
    FormsIn A [form] := by
  simp only [method, yields_check, yields_bind, yields_pure] at h
  obtain ⟨-, -, _, _, -, _, _, -, rfl, -⟩ := h
  exact List.forall_mem_singleton.mpr ⟨_, rfl, hspan⟩

theorem formsIn_groupBody {body : List Stmt} {forms : List MethodForm}
    (hbody : PlacedIn A (spansOfBlock body))
    (h : Yields (groupBody r env type body) t forms t') : FormsIn A forms := by
  induction body generalizing t t' forms with
  | nil =>
    obtain ⟨rfl, -⟩ := yields_pure.mp h
    exact fun _ hform => nomatch hform
  | cons s rest ih =>
    obtain ⟨hs, hrest⟩ := placedIn_append.mp hbody
    cases s with
    | functionDef span name params body decorators returns =>
      simp only [groupBody, yields_bind, yields_pure] at h
      obtain ⟨form, t₁, hform, forms', t₂, hforms, rfl, -⟩ := h
      have hhead := formsIn_method (hs _ (Stmt.span_mem_spans _)) hform
      exact List.forall_mem_append.mpr ⟨hhead, ih hrest hforms⟩
    | pass span => exact ih hrest h
    | _ =>
      simp only [groupBody] at h
      split_ifs at h
      · exact ih hrest h
      · exact absurd h yields_refuseAt

theorem formsIn_group (c : ClassSource) {d : Declaration} (hc : PlacedIn A c.spans)
    (h : Yields (group r env type c.span c.name c.bases c.keywords c.body c.decorators) t d t') :
    FormsIn A d.forms := by
  unfold group at h
  obtain ⟨-, h⟩ := yields_check.mp h
  dsimp only at h
  split at h
  -- Wherever the name of the interface comes from, the methods are those of the body.
  all_goals
    simp only [yields_bind, yields_check, yields_pure] at h
    obtain ⟨interface, t₁, -, forms, t₂, hforms, -, rfl, -⟩ := h
    exact formsIn_groupBody (placedIn_class hc).2.2 hforms

theorem formsIn_componentBody {body : List Stmt} {fields : List Ir.Field}
    {declarations : List Declaration} (hbody : PlacedIn A (spansOfBlock body))
    (h : Yields (componentBody r env type body) t (fields, declarations) t') :
    FormsIn A (declarations.flatMap Declaration.forms) := by
  induction body generalizing t t' fields declarations with
  | nil =>
    obtain ⟨heq, -⟩ := yields_pure.mp h
    obtain ⟨rfl, rfl⟩ := Prod.mk.inj heq
    exact fun _ hform => nomatch hform
  | cons s rest ih =>
    obtain ⟨hs, hrest⟩ := placedIn_append.mp hbody
    cases s with
    | annAssign span target annot value =>
      simp only [componentBody, yields_bind, yields_pure] at h
      obtain ⟨f, t₁, -, ⟨fields', declarations'⟩, t₂, h, heq, -⟩ := h
      obtain ⟨rfl, rfl⟩ := Prod.mk.inj heq
      exact ih hrest h
    | functionDef span name params body decorators returns =>
      simp only [componentBody, yields_bind, yields_pure] at h
      obtain ⟨form, t₁, hform, ⟨fields', declarations'⟩, t₂, h, heq, -⟩ := h
      obtain ⟨rfl, rfl⟩ := Prod.mk.inj heq
      have hhead := formsIn_method (hs _ (Stmt.span_mem_spans _)) hform
      exact List.forall_mem_append.mpr ⟨hhead, ih hrest h⟩
    | classDef span name bases keywords body decorators =>
      simp only [componentBody, yields_bind, yields_pure] at h
      obtain ⟨g, t₁, hg, ⟨fields', declarations'⟩, t₂, h, heq, -⟩ := h
      obtain ⟨rfl, rfl⟩ := Prod.mk.inj heq
      have hhead := formsIn_group ⟨span, name, bases, keywords, body, decorators⟩ hs hg
      exact List.forall_mem_append.mpr ⟨hhead, ih hrest h⟩
    | pass span => exact ih hrest h
    | _ =>
      simp only [componentBody] at h
      split_ifs at h
      · exact ih hrest h
      · exact absurd h yields_refuseAt

end

end

end Compile

/-! ## Definitions -/

namespace Definition

variable {A : Option Place → Prop} {P : ∀ {α : Type}, CompileM α → Prop} {ambient : Option Place}

theorem refusedIn_split (hambient : A ambient) {declarations : List Declaration}
    (hforms : ∀ form ∈ declarations.flatMap Declaration.forms, A (form.place <|> ambient))
    (messages : List MethodForm) (groups : List (String × List MethodForm)) :
    RefusedIn A (split ambient messages groups declarations) := by
  induction declarations generalizing messages groups with
  | nil => exact refusedIn_ok _
  | cons d rest ih =>
    obtain ⟨hd, hrest⟩ := List.forall_mem_append.mp hforms
    cases d with
    | message form =>
      unfold split
      split_ifs
      · exact ih hrest _ _
      · exact refusedIn_error (hd form List.mem_cons_self) rfl
    | group interface methods => exact ih hrest _ _
    | stray form => exact refusedIn_error hambient rfl

theorem refusedIn_messageMethods (known : Messages) {forms : List MethodForm}
    (hforms : ∀ form ∈ forms, A (form.place <|> ambient)) :
    RefusedIn A (messageMethods known ambient forms) := by
  induction forms with
  | nil => exact refusedIn_ok _
  | cons form rest ih =>
    obtain ⟨hform, hrest⟩ := List.forall_mem_cons.mp hforms
    unfold messageMethods
    split
    · exact refusedIn_error hform rfl
    · exact (ih hrest).bind fun _ _ => refusedIn_ok _

theorem refusedIn_declaredMethods (known : Messages) (hambient : A ambient)
    {declarations : List Declaration}
    (hforms : ∀ form ∈ declarations.flatMap Declaration.forms, A (form.place <|> ambient)) :
    RefusedIn A (declaredMethods known ambient declarations) := by
  refine (refusedIn_split hambient hforms [] []).bind fun parts hsplit => ?_
  obtain ⟨messages, groups⟩ := parts
  obtain ⟨rfl, -⟩ := split_eq_ok hsplit
  refine (refusedIn_messageMethods known fun form hform => ?_).bind fun _ _ => refusedIn_ok _
  refine hforms form ?_
  simp only [shorthand, List.nil_append, List.mem_flatMap] at hform
  obtain ⟨d, hd, hform⟩ := hform
  refine List.mem_flatMap.mpr ⟨d, hd, ?_⟩
  cases d with
  | message form' => exact hform
  | _ => exact absurd hform List.not_mem_nil

theorem refusedIn_missingDefaults (known : Messages) (hambient : A ambient) (declared : List String)
    (ds : List Default) : RefusedIn A (missingDefaults known ambient declared ds) := by
  induction ds with
  | nil => exact refusedIn_ok _
  | cons d rest ih =>
    unfold missingDefaults
    split_ifs
    · exact ih
    · split
      · exact refusedIn_error hambient rfl
      · exact ih.bind fun _ _ => refusedIn_ok _

theorem refusedIn_checkFields (component : String) (hambient : A ambient)
    (methodNames met : List String) (fields : List Ir.Field) :
    RefusedIn A (checkFields component ambient methodNames met fields) := by
  induction fields generalizing met with
  | nil => exact refusedIn_ok _
  | cons f rest ih =>
    unfold checkFields
    dsimp only
    split_ifs
    · exact refusedIn_error hambient rfl
    · exact refusedIn_error hambient rfl
    · exact refusedIn_error hambient rfl
    · exact refusedIn_error hambient rfl
    · exact refusedIn_error hambient rfl
    · exact ih _

theorem stepwise_settle (h : Stepwise A P) (policy : DuplicatePolicy) (component : String)
    (hambient : A ambient) {declarations : List Declaration}
    (hforms : ∀ form ∈ declarations.flatMap Declaration.forms, A (form.place <|> ambient))
    (methods : List Ir.Method) : P (settle policy component ambient declarations methods) := by
  have hplace (name : String) : A (placeOf declarations name <|> ambient) := by
    cases hp : placeOf declarations name with
    | none => exact hambient
    | some p =>
      obtain ⟨form, hform, hp⟩ := List.mem_filterMap.mp (List.mem_of_getLast? hp)
      simpa [hp] using hforms form (List.mem_filter.mp hform).1
  refine h.map (h.forIn (fun ⟨name, count⟩ _ => ?_) _ PUnit.unit) _
  cases policy with
  | refuse => exact h.map (h.refuse (hplace name) rfl) _
  | keepFirst => exact h.map (h.warn _) _
  | keepLast => exact h.map (h.warn _) _

theorem stepwise_compile (h : Stepwise A P) (known : Messages) (policy : DuplicatePolicy)
    (hambient : A ambient) (d : Input)
    (hforms : ∀ form ∈ d.declarations.flatMap Declaration.forms, A (form.place <|> ambient)) :
    P (compile known policy ambient d) := by
  refine h.bind (h.ofExcept (refusedIn_declaredMethods known hambient hforms)) fun methods => ?_
  refine h.bind (stepwise_settle h policy d.name hambient hforms methods) fun methods => ?_
  refine h.bind (h.ofExcept (refusedIn_missingDefaults known hambient _ _)) fun _ => ?_
  exact h.map (h.ofExcept (refusedIn_checkFields d.name hambient _ _ _)) _

end Definition

/-! ## Modules -/

namespace Compile

variable {A : Option Place → Prop} {P : ∀ {α : Type}, CompileM α → Prop}

theorem stepwise_component (h : StepwiseAll A P) (r : Registry) (known : Messages)
    (policy : DuplicatePolicy) (moduleName : Option String) (env : TypeEnv) {c : ComponentSource}
    (hspan : A (some (.ofSpan c.span))) (hbody : PlacedIn A (Source.spansOfBlock c.body)) :
    P (component r known policy moduleName env c) := by
  refine h.step (stepwise_componentBody h r env c.type hbody)
    fun ⟨fields, declarations⟩ t t' hyields => ?_
  have hdefinition := Definition.stepwise_compile h.toStepwise known policy hspan
    { name := c.name, fields, declarations, constant := c.constant, moduleName }
    fun form hform => by
      obtain ⟨p, hp, hplace⟩ := formsIn_componentBody hbody hyields form hform
      simpa [hp] using hplace
  dsimp only
  split_ifs
  · exact h.bind (h.warn _) fun _ => hdefinition
  · exact hdefinition

section

variable (h : Stepwise A P)

include h

theorem stepwise_topLevel {s : Source.Stmt} (hs : PlacedIn A s.spans) : P (topLevel s) := by
  have hspan := hs _ s.span_mem_spans
  unfold topLevel
  split
  · exact h.pure _
  · exact h.refuseAt hspan rfl
  · exact h.pure _
  · exact h.pure _
  · exact h.refuseAt hspan rfl
  · exact h.refuseAt hspan rfl

theorem stepwise_collect {stmts : List Source.Stmt}
    (hstmts : PlacedIn A (Source.spansOfBlock stmts))
    (met : List String) : P (collect met stmts) := by
  induction stmts generalizing met with
  | nil => exact h.pure _
  | cons s rest ih =>
    obtain ⟨hs, hrest⟩ := placedIn_append.mp hstmts
    have hspan := hs _ s.span_mem_spans
    refine h.ite (ih hrest met) (h.bind (stepwise_topLevel h hs) fun d => ?_)
    refine h.bind (stepwise_checkName h hspan d.name) fun _ => h.check hspan rfl ?_
    exact h.map (ih hrest _) _

theorem stepwise_registerAll {classes : List ClassSource}
    (hclasses : ∀ c ∈ classes, PlacedIn A c.spans) (r : Registry) : P (registerAll r classes) := by
  induction classes generalizing r with
  | nil => exact h.pure _
  | cons c rest ih =>
    obtain ⟨hc, hrest⟩ := List.forall_mem_cons.mp hclasses
    obtain ⟨hspan, hbases, hbody⟩ := placedIn_class hc
    refine h.bind (stepwise_register h r hspan c.name c.keywords c.decorators hbases hbody)
      fun ⟨source, r₁⟩ => ?_
    exact h.map (ih hrest r₁) _

theorem stepwise_globalTypes (r : Registry) {globals : List GlobalSource}
    (hglobals : ∀ g ∈ globals, PlacedIn A g.spans) : P (globalTypes r globals) := by
  induction globals with
  | nil => exact h.pure _
  | cons g rest ih =>
    obtain ⟨hg, hrest⟩ := List.forall_mem_cons.mp hglobals
    simp only [GlobalSource.spans, placedIn_cons, placedIn_append] at hg
    refine h.bind (stepwise_annotType h r hg.1 (placedIn_some.mpr hg.2.1)) fun _ => ?_
    exact h.map (ih hrest) _

theorem stepwise_global (r : Registry) (env : TypeEnv) {g : GlobalSource}
    (hg : PlacedIn A g.spans) : P (global r env g) :=
  h.map (stepwise_exprOption h r env (placedIn_append.mp (placedIn_cons.mp hg).2).2) _

theorem stepwise_warnUnused (functions : List FunctionSource) (m : Ir.Module) :
    P (warnUnused functions m) := by
  refine h.map (h.forIn (fun f _ => ?_) functions PUnit.unit) _
  split_ifs
  · exact h.map (h.warn _) _
  · exact h.pure _

end

theorem placedIn_declarations {stmts : List Source.Stmt}
    (hstmts : PlacedIn A (Source.spansOfBlock stmts)) :
    (∀ g ∈ globalsIn stmts, PlacedIn A g.spans) ∧ (∀ f ∈ functionsIn stmts, PlacedIn A f.spans) ∧
      ∀ c ∈ classesIn stmts, PlacedIn A c.spans := by
  have hstmts := placedIn_block.mp hstmts
  refine ⟨fun g hg => ?_, fun f hf => ?_, fun c hc => ?_⟩
  · obtain ⟨s, hs, hg⟩ := List.mem_filterMap.mp hg
    split at hg
    · obtain rfl := Option.some.inj hg
      have := hstmts _ hs
      simp only [Source.Stmt.spans, placedIn_cons, placedIn_append] at this
      simp only [GlobalSource.spans, placedIn_cons, placedIn_append]
      exact ⟨this.1, this.2.2⟩
    · cases hg
  · obtain ⟨s, hs, hf⟩ := List.mem_filterMap.mp hf
    split at hf
    · obtain rfl := Option.some.inj hf
      exact hstmts _ hs
    · cases hf
  · obtain ⟨s, hs, hc⟩ := List.mem_filterMap.mp hc
    split at hc
    · obtain rfl := Option.some.inj hc
      exact hstmts _ hs
    · cases hc

/-- **A property that holds step by step holds of compiling statements.** -/
theorem stepwise_module (h : StepwiseAll A P) (known : Messages) (policy : DuplicatePolicy)
    (moduleName : Option String) {stmts : List Source.Stmt}
    (hstmts : PlacedIn A (Source.spansOfBlock stmts)) :
    P (module known policy moduleName stmts) := by
  have h' := h.toStepwise
  obtain ⟨hglobals, hfunctions, hclasses⟩ := placedIn_declarations hstmts
  refine h.step (stepwise_collect h' hstmts []) fun ds t t' hcollect => ?_
  obtain ⟨-, -, rfl⟩ := yields_collect.mp hcollect
  refine h.step (stepwise_registerAll h' hclasses _) fun ⟨ks, r⟩ t t' hregister => ?_
  obtain ⟨-, -, -, rfl, -⟩ := (yields_registerAll Registry.hosts_builtin).mp hregister
  have hcomponents : ∀ k ∈ (classesIn stmts).map ClassSource.component,
      A (some (.ofSpan k.span)) ∧ PlacedIn A (Source.spansOfBlock k.body) := by
    refine List.forall_mem_map.mpr fun c hc => ?_
    exact ⟨(placedIn_class (hclasses c hc)).1, (placedIn_class (hclasses c hc)).2.2⟩
  refine h.bind (h.forM fun k hk => stepwise_checkFieldTypes h' r (hcomponents k hk).2) fun _ => ?_
  refine h.bind (stepwise_globalTypes h' r hglobals) fun types => ?_
  refine h.bind (h.mapM fun g hg => stepwise_global h' r _ (hglobals g hg)) fun globals => ?_
  refine h.bind (h.mapM fun f hf => stepwise_function h r _ (hfunctions f hf)) fun functions => ?_
  refine h.bind (h.mapM fun k hk => ?_) fun components => ?_
  · exact stepwise_component h r known policy moduleName _ (hcomponents k hk).1 (hcomponents k hk).2
  · exact h.map (stepwise_warnUnused h' _ _) _

end Compile

end Componentry
