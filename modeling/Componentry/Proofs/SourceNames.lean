import Componentry.Compile.Expr
import Componentry.Proofs.FreeNames
import Componentry.Proofs.Planning

/-!
# Compiled expressions read names of the source

Generated names are introduced in two places: a lookup gives a name to an argument, and a dispatch
binds its subject. Both are local to the code that introduces them.

**Theorem (`ensures_expr`).** A compiled expression reads no generated name from outside.
-/

namespace Componentry

open CompileM

/-! ## Generated names -/

theorem Compile.isGenerated_generatedName (stem : String) (n : Nat) :
    Compile.isGenerated (generatedName stem n) = true := by
  simp [Compile.isGenerated, generatedName, List.append_assoc]

theorem CompileM.generatedName_injective {stem : String} {m n : Nat}
    (h : generatedName stem m = generatedName stem n) : m = n := by
  have h : toString m = toString n := (String.append_right_inj _).mp h
  rw [Nat.toString_eq_ofList_toDigits, Nat.toString_eq_ofList_toDigits, String.ofList_inj] at h
  rw [← @Nat.ofDigitChars_ten_toDigits m, h, Nat.ofDigitChars_ten_toDigits]

theorem CompileM.generatedName_obj_ne_target (m n : Nat) :
    generatedName "obj" m ≠ generatedName "target" n := by
  intro h
  have h := congrArg String.toList h
  simp [generatedName, generatedStart] at h

/-! ## Code of dispatches -/

section Dispatch

variable {bind : String} {env : TypeEnv}

/-- What the default and every surviving branch ensure, and joining keeps, a dispatch ensures.
Joining may use a property of the types that are tested. -/
theorem ensures_body_typed {β : Type} {P : β → Prop} {Q : HostType → Prop} {absent : β}
    {chain : β → List (HostType × β) → β} {default : Option (Branch CompileM β)}
    {plan : Plan (Branch CompileM β)} (habsent : P absent)
    (hdefault : ∀ d ∈ default, ∀ e, Ensures (d e) P)
    (hclauses : ∀ c ∈ plan.clauses, Q c.type ∧ ∀ e, Ensures (c.branch e) P)
    (hchain : ∀ final bs, P final → (∀ b ∈ bs, Q b.1 ∧ P b.2) → P (chain final bs)) :
    Ensures (Dispatch.body bind env absent chain default plan) P := by
  have hfinal (static : Option HostType) :
      Ensures (Dispatch.buildDefault bind env static absent default) P := by
    cases default with
    | none => exact ensures_pure habsent
    | some d => exact hdefault d rfl _
  have hall (cs : List (Clause (Branch CompileM β)))
      (hcs : ∀ c ∈ cs, Q c.type ∧ ∀ e, Ensures (c.branch e) P) :
      Ensures (Dispatch.buildAll bind env cs) fun bs => ∀ b ∈ bs, Q b.1 ∧ P b.2 := by
    induction cs with
    | nil => exact ensures_pure (by simp)
    | cons c rest ih =>
      obtain ⟨hc, hrest⟩ := List.forall_mem_cons.mp hcs
      refine (hc.2 _).bind fun b hb => (ih hrest).bind fun bs hbs => ?_
      exact ensures_pure (List.forall_mem_cons.mpr ⟨⟨hc.1, hb⟩, hbs⟩)
  cases plan with
  | exact T c => exact (hclauses c List.mem_cons_self).2 _
  | fallback T => exact hfinal _
  | pruned T cs =>
    exact (hfinal _).bind fun f hf => (hall cs hclauses).bind fun bs hbs =>
      ensures_pure (hchain f bs hf hbs)
  | full cs =>
    exact (hfinal _).bind fun f hf => (hall cs hclauses).bind fun bs hbs =>
      ensures_pure (hchain f bs hf hbs)

/-- What the default and every surviving branch ensure, and joining keeps, a dispatch ensures. -/
theorem ensures_body {β : Type} {P : β → Prop} {absent : β} {chain : β → List (HostType × β) → β}
    {default : Option (Branch CompileM β)} {plan : Plan (Branch CompileM β)} (habsent : P absent)
    (hdefault : ∀ d ∈ default, ∀ e, Ensures (d e) P)
    (hclauses : ∀ c ∈ plan.clauses, ∀ e, Ensures (c.branch e) P)
    (hchain : ∀ final bs, P final → (∀ b ∈ bs, P b.2) → P (chain final bs)) :
    Ensures (Dispatch.body bind env absent chain default plan) P :=
  ensures_body_typed (Q := fun _ => True) habsent hdefault (fun c hc => ⟨trivial, hclauses c hc⟩)
    fun final bs hfinal hbs => hchain final bs hfinal fun b hb => (hbs b hb).2

theorem readsOnly_exprChain {A : String → Prop} (hbind : A bind) {default : Ir.Expr}
    (hdefault : default.ReadsOnly A) {branches : List (HostType × Ir.Expr)}
    (hbranches : ∀ b ∈ branches, b.2.ReadsOnly A) :
    (Dispatch.exprChain bind default branches).ReadsOnly A := by
  induction branches with
  | nil => exact hdefault
  | cons b rest ih =>
    obtain ⟨hb, hrest⟩ := List.forall_mem_cons.mp hbranches
    exact ⟨hbind, hb, ih hrest⟩

/-- The bound name is local to the code of a dispatch. -/
theorem ensures_lowerExpr {A : String → Prop} {value : Ir.Expr} (hvalue : value.ReadsOnly A)
    {default : Option (Branch CompileM Ir.Expr)} {plan : Plan (Branch CompileM Ir.Expr)}
    (hdefault : ∀ d ∈ default, ∀ e, Ensures (d e) (·.ReadsOnly fun x => A x ∨ x = bind))
    (hclauses : ∀ c ∈ plan.clauses, ∀ e,
      Ensures (c.branch e) (·.ReadsOnly fun x => A x ∨ x = bind)) :
    Ensures (Dispatch.lowerExpr bind env value default plan) (·.ReadsOnly A) := by
  refine (ensures_body trivial hdefault hclauses fun final bs hfinal hbs =>
    readsOnly_exprChain (.inr rfl) hfinal hbs).bind fun e he => ensures_pure ?_
  split_ifs with hvar
  · obtain rfl := Ir.Expr.isVar_iff.mp hvar
    refine e.readsOnly_mono (fun x hx => ?_) he
    rcases hx with hx | rfl
    · exact hx
    · exact hvalue
  · exact ⟨⟨hvalue, trivial⟩, e.readsOnly_mono (fun x hx => by simpa using hx) he⟩

end Dispatch

/-! ## Code of lookups -/

namespace Access

variable {r : Registry} {place : Option Place}

theorem ensures_dispatchOn {A : String → Prop} {subject : String} (hsubject : A subject)
    {build : String → Branch CompileM Ir.Expr}
    (hbuild : ∀ bind e, Ensures (build bind e) (·.ReadsOnly fun x => A x ∨ x = bind))
    (stem : String) (types : List String) (env : TypeEnv) :
    Ensures (dispatchOn r place stem types subject env build) (·.ReadsOnly A) := by
  refine (ensures_fresh stem).bind fun bind _ => ?_
  refine (ensures_ofRegistry fun plan => branch_of_mem_planDispatch).bind fun plan hplan => ?_
  refine (ensures_record _).bind fun _ _ => ?_
  refine ensures_lowerExpr (by exact hsubject) (by simp) fun c hc e => ?_
  rw [hplan c hc]
  exact hbuild bind e

/-- The code of a lookup on two variables reads these. -/
theorem ensures_onVariables {A : String → Prop} {obj target : String} (hobj : A obj)
    (htarget : A target) (env : TypeEnv) :
    Ensures (onVariables r place obj target env) (·.ReadsOnly A) := by
  have hcall {B : String → Prop} {o t : String} (ho : B o) (ht : B t) :
      Ensures (pure (directCall (.var o) (.var t)) : CompileM Ir.Expr) (·.ReadsOnly B) :=
    ensures_pure ⟨ho, ht, trivial⟩
  unfold onVariables
  split
  · exact hcall hobj htarget
  · exact ensures_dispatchOn htarget (fun _ _ => hcall (.inl hobj) (.inr rfl)) _ _ env
  · exact ensures_dispatchOn hobj (fun _ _ => hcall (.inr rfl) (.inl htarget)) _ _ env
  · refine ensures_dispatchOn hobj (fun narrowedObj shapeEnv => ?_) _ _ env
    refine ensures_dispatchOn (.inl htarget) (fun _ _ => ?_) _ _ shapeEnv
    exact hcall (.inl (.inr rfl)) (.inr rfl)

theorem ensures_hoist (outer : TypeEnv) (stem : String) (arg : Ir.Expr) (inner : TypeEnv) :
    Ensures (hoist r outer stem arg inner) fun (name, bindings, env) =>
      (arg = .var name ∧ bindings = [] ∧ env = inner) ∨
        ((∀ x, arg ≠ .var x) ∧ bindings = [(name, arg)] ∧
          env = inner.bind name (resolve r outer arg) ∧ ∃ n, generatedName stem n = name) := by
  cases arg with
  | var x => exact ensures_pure (.inl ⟨rfl, rfl, rfl⟩)
  | _ =>
    refine (ensures_fresh stem).bind fun name hname => ensures_pure (.inr ⟨?_, rfl, rfl, hname⟩)
    simp

theorem ensures_specialize {A : String → Prop} (env : TypeEnv) {args : List Ir.Expr}
    (hargs : Ir.AllReadOnly args A) :
    Ensures (specialize r place env args) (·.ReadsOnly A) := by
  unfold specialize
  split
  · next obj target =>
    obtain ⟨hobj, htarget, -⟩ := hargs
    refine (ensures_hoist env "obj" obj env).bind fun (o, objBinding, env₁) ho => ?_
    refine (ensures_hoist env "target" target env₁).bind fun (t, targetBinding, env₂) ht => ?_
    -- Each name is bound here, or else it is the argument itself.
    let B : String → Prop := fun x => A x ∨ x ∈ (objBinding ++ targetBinding).map Prod.fst
    have hBo : B o := by
      rcases ho with ⟨rfl, -⟩ | ⟨-, rfl, -⟩
      · exact .inl hobj
      · exact .inr (by simp)
    have hBt : B t := by
      rcases ht with ⟨rfl, -⟩ | ⟨-, rfl, -⟩
      · exact .inl htarget
      · exact .inr (by simp)
    have hbindings : Ir.BindingsReadOnly (objBinding ++ targetBinding) A := by
      have htarget' (x : String) : target.ReadsOnly fun y => A y ∨ y = x :=
        target.readsOnly_mono (fun _ => .inl) htarget
      rcases ho with ⟨-, rfl, -⟩ | ⟨-, rfl, -⟩ <;> rcases ht with ⟨-, rfl, -⟩ | ⟨-, rfl, -⟩
      · trivial
      · exact ⟨htarget, trivial⟩
      · exact ⟨hobj, trivial⟩
      · exact ⟨hobj, htarget' o, trivial⟩
    refine (ensures_onVariables hBo hBt env₂).bind fun call hcall => ?_
    split
    · next hnil =>
      refine ensures_pure (call.readsOnly_mono (fun x hx => ?_) hcall)
      simpa [B, hnil] using hx
    · exact ensures_pure ⟨hbindings, hcall⟩
  · exact ensures_refuse

end Access

/-! ## Compiled expressions -/

namespace Compile

variable (r : Registry) (env : TypeEnv)

/-- The code reads only names that a source may use. -/
def ReadsSource (e : Ir.Expr) : Prop := e.ReadsOnly fun x => isGenerated x = false

theorem ensures_checkName (span : Source.Span) (id : String) :
    Ensures (checkName span id) fun _ => isGenerated id = false := by
  unfold checkName
  split_ifs with hgen
  · exact ensures_refuseAt
  · exact ensures_refuseAt
  · exact ensures_pure (by simpa using hgen)

theorem ensures_name (span : Source.Span) (id : String) :
    Ensures (name r env span id) ReadsSource := by
  unfold name
  by_cases hgen : isGenerated id = true
  · rw [if_pos hgen]
    exact ensures_refuseAt
  · have hvar : ReadsSource (.var id) := by simpa [ReadsSource, Ir.Expr.ReadsOnly] using hgen
    rw [if_neg hgen]
    split
    · exact ensures_pure hvar
    · split
      · exact ensures_pure trivial
      · split
        · exact ensures_pure hvar
        · exact ensures_refuseAt

theorem readsSource_joinLeft (op : String) {es : List Ir.Expr} (h : ∀ e ∈ es, ReadsSource e) :
    ReadsSource (joinLeft op es) := by
  cases es with
  | nil => trivial
  | cons first rest =>
    obtain ⟨hfirst, hrest⟩ := List.forall_mem_cons.mp h
    simp only [joinLeft]
    clear h
    induction rest generalizing first with
    | nil => exact hfirst
    | cons e rest ih =>
      obtain ⟨he, hrest⟩ := List.forall_mem_cons.mp hrest
      exact ih (.binary op first e) ⟨hfirst, he⟩ hrest

theorem ensures_checkArguments (span : Source.Span) (args keywords : List Source.Expr) :
    Ensures (checkArguments span args keywords) fun _ => True := by
  unfold checkArguments
  split_ifs
  · exact ensures_refuseAt
  · exact ensures_refuseAt
  · exact ensures_pure trivial

theorem ensures_exprs_of {es : List Source.Expr}
    (hes : ∀ e ∈ es, Ensures (expr r env e) ReadsSource) :
    Ensures (exprs r env es) fun es => ∀ e ∈ es, ReadsSource e := by
  induction es with
  | nil => exact ensures_pure (by simp)
  | cons e rest ih =>
    obtain ⟨he, hrest⟩ := List.forall_mem_cons.mp hes
    unfold exprs
    exact he.bind fun _ he => (ih hrest).bind fun _ hes =>
      ensures_pure (List.forall_mem_cons.mpr ⟨he, hes⟩)

mutual

/-- **Compiled expressions read only names of the source.** -/
theorem ensures_expr : ∀ e : Source.Expr, Ensures (expr r env e) ReadsSource
  | .constant span value => by
    cases value with
    | literal v => exact ensures_pure trivial
    | _ => exact ensures_refuseAt
  | .name span id _ => ensures_name r env span id
  | .attr span value member => by
    unfold expr
    split
    · exact ensures_pure trivial
    · exact (ensures_expr value).bind fun _ h => ensures_pure h
  | .call span func args keywords => by
    have hargs := ensures_each args
    unfold expr
    refine (ensures_checkArguments span args keywords).bind fun _ _ => ?_
    split
    · exact (ensures_exprs_of r env hargs).bind fun es hes =>
        Access.ensures_specialize env (Ir.allReadOnly_iff.mpr hes)
    · split
      · next type value =>
        refine (ensures_ofExcept fun _ _ => trivial).bind fun _ _ => ?_
        refine (ensures_ofRegistry fun _ _ => trivial).bind fun _ _ => ?_
        exact (hargs value (by simp)).bind fun _ h => ensures_pure h
      · exact ensures_refuseAt
    · exact (ensures_expr func).bind fun _ hf => (ensures_exprs_of r env hargs).bind fun _ hes =>
        ensures_pure ⟨hf, Ir.allReadOnly_iff.mpr hes⟩
  | .list _ items => by
    unfold expr
    exact (ensures_exprs_of r env (ensures_each items)).bind fun _ hes =>
      ensures_pure (Ir.allReadOnly_iff.mpr hes)
  | .tuple _ items => by
    unfold expr
    exact (ensures_exprs_of r env (ensures_each items)).bind fun _ hes =>
      ensures_pure (Ir.allReadOnly_iff.mpr hes)
  | .dict _ keys values => by
    unfold expr
    refine (ensures_exprs_of r env (ensures_each keys)).bind fun _ hks => ?_
    exact (ensures_exprs_of r env (ensures_each values)).bind fun _ hvs =>
      ensures_pure ⟨Ir.allReadOnly_iff.mpr hks, Ir.allReadOnly_iff.mpr hvs⟩
  | .subscript span value index => by
    unfold expr
    split_ifs
    · exact ensures_refuseAt.bind fun _ h => h
    · exact (ensures_expr value).bind fun _ hv => (ensures_expr index).bind fun _ hi =>
        ensures_pure ⟨hv, hi⟩
  | .binary span left op right => by
    unfold expr
    split
    · exact ensures_refuseAt
    · exact (ensures_expr left).bind fun _ hl => (ensures_expr right).bind fun _ hr =>
        ensures_pure ⟨hl, hr⟩
  | .connective _ op values => by
    unfold expr
    exact (ensures_exprs_of r env (ensures_each values)).bind fun _ hes =>
      ensures_pure (readsSource_joinLeft op.sign hes)
  | .unary span op operand => by
    unfold expr
    split
    · exact ensures_refuseAt
    · exact (ensures_expr operand).bind fun _ h => ensures_pure h
  | .compare span left ops comparators => by
    have hcomparators := ensures_each comparators
    unfold expr
    split
    · next op right =>
      exact (ensures_expr left).bind fun _ hl => (hcomparators right (by simp)).bind fun _ hr =>
        ensures_pure ⟨hl, hr⟩
    · exact ensures_refuseAt
  | .ifExpr _ test body orelse => by
    unfold expr
    exact (ensures_expr test).bind fun _ ht => (ensures_expr body).bind fun _ hb =>
      (ensures_expr orelse).bind fun _ ho => ensures_pure ⟨ht, hb, ho⟩
  | .form span f _ => by
    cases f <;> exact ensures_refuseAt

theorem ensures_each : ∀ es : List Source.Expr, ∀ e ∈ es, Ensures (expr r env e) ReadsSource
  | [] => List.forall_mem_nil _
  | e :: rest => List.forall_mem_cons.mpr ⟨ensures_expr e, ensures_each rest⟩

end

theorem ensures_exprs (es : List Source.Expr) :
    Ensures (exprs r env es) fun es => ∀ e ∈ es, ReadsSource e :=
  ensures_exprs_of r env (ensures_each r env es)

theorem ensures_exprOption (e : Option Source.Expr) :
    Ensures (exprOption r env e) fun e => ∀ code ∈ e, ReadsSource code := by
  cases e with
  | none => exact ensures_pure (by simp)
  | some e => exact (ensures_expr r env e).bind fun _ he => ensures_pure (by simpa using he)

end Compile

end Componentry
