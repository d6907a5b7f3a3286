import Componentry.Proofs.Naming

/-!
# Compiled code names what is known

Expressions take their variables from the environment, and statements take the environment along.
Generated names come from two places: lookups bind their arguments and dispatches bind their
subjects, each with the next number.

**Theorem (`wellNamed_expr_of`).** The code of an expression is well named where those of its names
that stand for values and functions count as known.

**Theorem (`wellNamed_block`).** So is the code of a block, if the names that the block may bind
count as known too.
-/

namespace Componentry

open CompileM

open Compile (isGenerated ReadsSource WellNamed BranchNamed Covers builtinFunctions)

/-! ## Lookups -/

namespace Access

variable {r : Registry} {K B : String → Prop} {place : Option Place} {env : TypeEnv} {t t' : Trace}
  {code : Ir.Expr}

theorem wellNamed_dispatchOn {stem subject : String} {types : List String}
    {build : String → Branch CompileM Ir.Expr} (hstem : stem ∈ stems)
    (hsubject : isGenerated subject = true ∨ K subject)
    (hbuild : ∀ bind env, isGenerated bind = true →
      BranchNamed r K B Ir.Expr.parts (build bind) env)
    (h : Yields (dispatchOn r place stem types subject env build) t code t') :
    WellNamed r K B t.generated t'.generated code.parts := by
  simp only [dispatchOn, Dispatch.lowerExpr, yields_bind, yields_pure] at h
  obtain ⟨bind, t₁, hfresh, plan, t₂, hplan, _, t₃, hrecord, e, t₄, hbody, rfl, rfl⟩ := h
  obtain ⟨rfl, rfl⟩ := yields_fresh.mp hfresh
  obtain ⟨hok, rfl⟩ := yields_ofRegistry.mp hplan
  obtain rfl := yields_record.mp hrecord
  have hbind := Compile.isGenerated_generatedName stem (t.generated + 1)
  have hplanned := (of_mem_planDispatch hok).2
  have he : WellNamed r K B (t.generated + 1) t₄.generated e.parts := by
    refine Compile.wellNamed_body (.inl hbind) rfl (by simp) (fun c hc => ?_) (fun c hc T => ?_)
      Compile.parts_exprChain hbody
    · obtain ⟨d, hd, -⟩ := hplanned c hc
      exact Registry.mem_of_lookup hd
    · rw [branch_of_mem_planDispatch hok c hc]
      exact hbuild _ _ hbind
  split_ifs
  · exact he.widen (Nat.le_succ _) (le_refl _)
  · exact (((WellNamed.fresh hstem).append (.var hsubject)).append he).of_count_le fun p => by
      simp [Ir.Expr.parts, Ir.partsOfBindings]

theorem wellNamed_onVariables {obj target : String} (hobj : isGenerated obj = true ∨ K obj)
    (htarget : isGenerated target = true ∨ K target)
    (h : Yields (onVariables r place obj target env) t code t') :
    WellNamed r K B t.generated t'.generated code.parts := by
  have hcall {o t : String} (ho : isGenerated o = true ∨ K o) (ht : isGenerated t = true ∨ K t)
      (env : TypeEnv) : BranchNamed r K B Ir.Expr.parts
        (fun _ => pure (directCall (.var o) (.var t))) env := by
    intro τ b τ' h
    obtain ⟨rfl, rfl⟩ := yields_pure.mp h
    exact (WellNamed.var ho).append (.var ht)
  unfold onVariables at h
  split at h
  · exact hcall hobj htarget env _ _ _ h
  · exact wellNamed_dispatchOn (by simp [stems]) htarget
      (fun bind e hbind => hcall hobj (.inl hbind) e) h
  · exact wellNamed_dispatchOn (by simp [stems]) hobj
      (fun bind e hbind => hcall (.inl hbind) htarget e) h
  · refine wellNamed_dispatchOn (by simp [stems]) hobj (fun narrowedObj e hnarrowed => ?_) h
    intro τ b τ' h
    exact wellNamed_dispatchOn (by simp [stems]) htarget
      (fun bind e hbind => hcall (.inl hnarrowed) (.inl hbind) e) h

theorem yields_hoist {outer inner env' : TypeEnv} {stem name : String} {arg : Ir.Expr}
    {bindings : List (String × Ir.Expr)}
    (h : Yields (hoist r outer stem arg inner) t (name, bindings, env') t') :
    (arg = .var name ∧ bindings = [] ∧ t = t') ∨
      (name = generatedName stem (t.generated + 1) ∧ bindings = [(name, arg)] ∧
        t'.generated = t.generated + 1) := by
  cases arg with
  | var x =>
    obtain ⟨heq, rfl⟩ := yields_pure.mp h
    obtain ⟨rfl, rfl, -⟩ : x = name ∧ [] = bindings ∧ inner = env' := by simpa using heq
    exact .inl ⟨rfl, rfl, rfl⟩
  | _ =>
    simp only [hoist, yields_bind, yields_pure] at h
    obtain ⟨x, t₁, hfresh, heq, rfl⟩ := h
    obtain ⟨rfl, rfl⟩ := yields_fresh.mp hfresh
    obtain ⟨rfl, rfl, -⟩ := by simpa using heq
    exact .inr ⟨rfl, rfl, rfl⟩

/-- The names that a lookup binds to its arguments follow those of the arguments. -/
theorem wellNamed_hoist {outer inner env' : TypeEnv} {stem name : String} {arg : Ir.Expr}
    {bindings : List (String × Ir.Expr)} (hstem : stem ∈ stems)
    (h : Yields (hoist r outer stem arg inner) t (name, bindings, env') t') :
    WellNamed r K B t.generated t'.generated (bindings.map fun b => .binder b.1) := by
  rcases yields_hoist h with ⟨-, rfl, rfl⟩ | ⟨rfl, rfl, hnext⟩
  · exact .nil
  · rw [hnext]
    exact .fresh hstem

/-- The name of an argument is generated, or it is the argument. -/
theorem known_hoist {outer inner env' : TypeEnv} {stem name : String} {arg : Ir.Expr}
    {bindings : List (String × Ir.Expr)} {n n' : Nat} (harg : WellNamed r K B n n' arg.parts)
    (h : Yields (hoist r outer stem arg inner) t (name, bindings, env') t') :
    isGenerated name = true ∨ K name := by
  rcases yields_hoist h with ⟨rfl, -, -⟩ | ⟨rfl, -, -⟩
  · exact harg.allowed (.var name) List.mem_cons_self
  · exact .inl (Compile.isGenerated_generatedName _ _)

/-- The parts of the bindings are those of the argument, and the bound name. -/
theorem count_hoist {outer inner env' : TypeEnv} {stem name : String} {arg : Ir.Expr}
    {bindings : List (String × Ir.Expr)}
    (h : Yields (hoist r outer stem arg inner) t (name, bindings, env') t') (p : Ir.Part) :
    (Ir.partsOfBindings bindings).count p ≤
      arg.parts.count p + (bindings.map fun b => Ir.Part.binder b.1).count p := by
  rcases yields_hoist h with ⟨-, rfl, -⟩ | ⟨-, rfl, -⟩
  · exact Nat.zero_le _
  · simp [Ir.partsOfBindings, List.count_cons]

theorem wellNamed_specialize {args : List Ir.Expr} {n : Nat}
    (hargs : WellNamed r K B n t.generated (Ir.partsOfList args))
    (h : Yields (specialize r place env args) t code t') :
    WellNamed r K B n t'.generated code.parts := by
  unfold specialize at h
  split at h
  · next obj target =>
    simp only [yields_bind] at h
    obtain ⟨⟨o, objBinding, env₁⟩, t₁, ho, h⟩ := h
    obtain ⟨⟨tg, targetBinding, env₂⟩, t₂, htg, call, t₃, hcall, h⟩ := h
    have hobj : WellNamed r K B n t.generated obj.parts :=
      hargs.of_count_le fun p => by simp [Ir.partsOfList]
    have htarget : WellNamed r K B n t.generated target.parts :=
      hargs.of_count_le fun p => by simp [Ir.partsOfList]
    have hknown := wellNamed_onVariables (B := B) (known_hoist hobj ho) (known_hoist htarget htg)
      hcall
    -- The arguments come first, then the two names, then the call.
    have hall := ((hargs.append (wellNamed_hoist (by simp [stems]) ho)).append
      (wellNamed_hoist (by simp [stems]) htg)).append hknown
    have hcode : code.parts =
        Ir.partsOfBindings (objBinding ++ targetBinding) ++ call.parts ∧ t₃ = t' := by
      split at h
      · next hnil =>
        obtain ⟨rfl, rfl⟩ := yields_pure.mp h
        exact ⟨by simp [hnil, Ir.partsOfBindings], rfl⟩
      · obtain ⟨rfl, rfl⟩ := yields_pure.mp h
        exact ⟨rfl, rfl⟩
    obtain ⟨hparts, rfl⟩ := hcode
    refine hall.of_count_le fun p => ?_
    have hcount := count_hoist ho p
    have hcount' := count_hoist htg p
    simp only [hparts, Ir.partsOfBindings_append, Ir.partsOfList, List.append_nil,
      List.count_append]
    omega
  · simp at h

end Access

/-! ## Expressions -/

namespace Source

mutual

/-- The names that an expression of a source holds. -/
def Expr.names : Expr → List String
  | .constant _ _ => []
  | .name _ id _ => [id]
  | .attr _ value _ => value.names
  | .call _ func args keywords => func.names ++ (namesOfList args ++ namesOfList keywords)
  | .list _ items => namesOfList items
  | .tuple _ items => namesOfList items
  | .dict _ keys values => namesOfList keys ++ namesOfList values
  | .subscript _ value index => value.names ++ index.names
  | .binary _ left _ right => left.names ++ right.names
  | .connective _ _ values => namesOfList values
  | .unary _ _ operand => operand.names
  | .compare _ left _ comparators => left.names ++ namesOfList comparators
  | .ifExpr _ test body orelse => test.names ++ body.names ++ orelse.names
  | .form _ _ parts => namesOfList parts

def namesOfList : List Expr → List String
  | [] => []
  | e :: rest => e.names ++ namesOfList rest

end

end Source

namespace Compile

section Expressions

variable {r : Registry} {K B : String → Prop} {env : TypeEnv} {t t' : Trace}

theorem wellNamed_typeRef {T : HostType} (h : T ∈ r.types) {n : Nat} :
    WellNamed r K B n n (typeRef T).parts := .hostType h

/-- Those of the names that stand for a value of the environment or for a built-in function count as
known. -/
def KnowsNames (K : String → Prop) (env : TypeEnv) (names : List String) : Prop :=
  ∀ x ∈ names, env.knows x = true ∨ x ∈ builtinFunctions → isGenerated x = true ∨ K x

theorem Covers.knowsNames (henv : Covers K env) (hbuiltin : ∀ x ∈ builtinFunctions, K x)
    (names : List String) : KnowsNames K env names :=
  fun x _ hx => hx.elim (henv x) fun hx => .inr (hbuiltin x hx)

theorem wellNamed_name {span : Source.Span} {id : String} {code : Ir.Expr}
    (hnames : KnowsNames K env [id]) (h : Yields (name r env span id) t code t') :
    WellNamed r K B t.generated t'.generated code.parts := by
  unfold name at h
  split at h
  · exact absurd h yields_refuseAt
  split at h
  · next hknown =>
    obtain ⟨rfl, rfl⟩ := yields_pure.mp h
    exact .var (hnames id List.mem_cons_self (.inl hknown))
  split at h
  · next T hT =>
    obtain ⟨rfl, rfl⟩ := yields_pure.mp h
    exact wellNamed_typeRef (Registry.mem_of_lookup hT)
  split at h
  · next hbuilt =>
    obtain ⟨rfl, rfl⟩ := yields_pure.mp h
    exact .var (hnames id List.mem_cons_self (.inr (List.contains_iff_mem.mp hbuilt)))
  · exact absurd h yields_refuseAt

theorem mem_of_hostType? {e : Source.Expr} {T : HostType} (h : hostType? r env e = some T) :
    T ∈ r.types := by
  unfold hostType? at h
  split at h
  · split_ifs at h
    exact Registry.mem_of_lookup h
  · simp at h

theorem parts_joinLeft (op : String) (es : List Ir.Expr) :
    (joinLeft op es).parts = Ir.partsOfList es := by
  cases es with
  | nil => rfl
  | cons first rest =>
    simp only [joinLeft, Ir.partsOfList]
    induction rest generalizing first with
    | nil => simp [Ir.partsOfList]
    | cons e rest ih => simp [ih, Ir.Expr.parts, Ir.partsOfList]

theorem yields_checkArguments {span : Source.Span} {args keywords : List Source.Expr} {u : Unit}
    (h : Yields (checkArguments span args keywords) t u t') : t = t' := by
  unfold checkArguments at h
  split_ifs at h
  · simp at h
  · simp at h
  · exact (yields_pure.mp h).2

end Expressions

section Trees

variable (r : Registry) {K B : String → Prop} {env : TypeEnv}

/-- What an expression leaves when it is compiled. -/
def ExprNamed (r : Registry) (K B : String → Prop) (env : TypeEnv) (e : Source.Expr) : Prop :=
  ∀ ⦃t t' : Trace⦄ ⦃code : Ir.Expr⦄, Yields (expr r env e) t code t' →
    WellNamed r K B t.generated t'.generated code.parts

theorem wellNamed_exprs {es : List Source.Expr} (hes : ∀ e ∈ es, ExprNamed r K B env e)
    {t t' : Trace} {code : List Ir.Expr} (h : Yields (exprs r env es) t code t') :
    WellNamed r K B t.generated t'.generated (Ir.partsOfList code) := by
  induction es generalizing t code with
  | nil =>
    obtain ⟨rfl, rfl⟩ := yields_pure.mp h
    exact .nil
  | cons e rest ih =>
    obtain ⟨he, hrest⟩ := List.forall_mem_cons.mp hes
    simp only [exprs, yields_bind, yields_pure] at h
    obtain ⟨c, t₁, hc, cs, t₂, hcs, rfl, rfl⟩ := h
    exact (he hc).append (ih hrest hcs)

mutual

/-- **Compiled expressions are well named**, if their names are known. -/
theorem wellNamed_expr_of : ∀ e : Source.Expr, KnowsNames K env e.names → ExprNamed r K B env e
  | .constant span value, _, _, _, _, h => by
    cases value with
    | literal v =>
      obtain ⟨rfl, rfl⟩ := yields_pure.mp h
      exact .nil
    | _ => exact absurd h yields_refuseAt
  | .name span id _, hnames, _, _, _, h => wellNamed_name hnames h
  | .attr span value member, hnames, _, _, _, h => by
    unfold expr at h
    split at h
    · next T hT =>
      obtain ⟨rfl, rfl⟩ := yields_pure.mp h
      exact wellNamed_typeRef (mem_of_hostType? hT)
    · simp only [yields_bind, yields_pure] at h
      obtain ⟨e, t₁, he, rfl, rfl⟩ := h
      simpa only [Ir.Expr.parts] using wellNamed_expr_of value hnames he
  | .call span func args keywords, hnames, t, _, _, h => by
    obtain ⟨hfunc, hrest⟩ := List.forall_mem_append.mp hnames
    have hargs := wellNamed_each_of args (List.forall_mem_append.mp hrest).1
    unfold expr at h
    obtain ⟨_, t₀, hcheck, h⟩ := yields_bind.mp h
    obtain rfl := yields_checkArguments hcheck
    split at h
    · obtain ⟨es, t₁, hes, h⟩ := yields_bind.mp h
      exact Access.wellNamed_specialize (wellNamed_exprs r hargs hes) h
    · split at h
      · next type value _ =>
        simp only [yields_bind, yields_pure] at h
        obtain ⟨typeName, t₁, htype, T, t₂, htype', e, t₃, he, rfl, rfl⟩ := h
        obtain ⟨-, rfl⟩ := yields_ofExcept.mp htype
        obtain ⟨hok, rfl⟩ := yields_ofRegistry.mp htype'
        have hT := Registry.mem_of_lookup (Registry.ensure_eq_ok.mp hok)
        exact (hargs value (by simp) he).append (.annotated hT)
      · exact absurd h yields_refuseAt
    · simp only [yields_bind, yields_pure] at h
      obtain ⟨f, t₁, hf, es, t₂, hes, rfl, rfl⟩ := h
      exact (wellNamed_expr_of func hfunc hf).append (wellNamed_exprs r hargs hes)
  | .list _ items, hnames, _, _, _, h => by
    simp only [expr, yields_bind, yields_pure] at h
    obtain ⟨es, t₁, hes, rfl, rfl⟩ := h
    exact wellNamed_exprs r (wellNamed_each_of items hnames) hes
  | .tuple _ items, hnames, _, _, _, h => by
    simp only [expr, yields_bind, yields_pure] at h
    obtain ⟨es, t₁, hes, rfl, rfl⟩ := h
    exact wellNamed_exprs r (wellNamed_each_of items hnames) hes
  | .dict _ keys values, hnames, _, _, _, h => by
    obtain ⟨hkeys, hvalues⟩ := List.forall_mem_append.mp hnames
    simp only [expr, yields_bind, yields_pure] at h
    obtain ⟨ks, t₁, hks, vs, t₂, hvs, rfl, rfl⟩ := h
    exact (wellNamed_exprs r (wellNamed_each_of keys hkeys) hks).append
      (wellNamed_exprs r (wellNamed_each_of values hvalues) hvs)
  | .subscript span value index, hnames, _, _, _, h => by
    obtain ⟨hvalue, hindex⟩ := List.forall_mem_append.mp hnames
    unfold expr at h
    obtain ⟨-, h⟩ := yields_check.mp h
    simp only [yields_bind, yields_pure] at h
    obtain ⟨v, t₁, hv, i, t₂, hi, rfl, rfl⟩ := h
    exact (wellNamed_expr_of value hvalue hv).append (wellNamed_expr_of index hindex hi)
  | .binary span left op right, hnames, _, _, _, h => by
    obtain ⟨hleft, hright⟩ := List.forall_mem_append.mp hnames
    unfold expr at h
    split at h
    · exact absurd h yields_refuseAt
    · simp only [yields_bind, yields_pure] at h
      obtain ⟨l, t₁, hl, rt, t₂, hr, rfl, rfl⟩ := h
      exact (wellNamed_expr_of left hleft hl).append (wellNamed_expr_of right hright hr)
  | .connective _ op values, hnames, _, _, _, h => by
    simp only [expr, yields_bind, yields_pure] at h
    obtain ⟨es, t₁, hes, rfl, rfl⟩ := h
    rw [parts_joinLeft]
    exact wellNamed_exprs r (wellNamed_each_of values hnames) hes
  | .unary span op operand, hnames, _, _, _, h => by
    unfold expr at h
    split at h
    · exact absurd h yields_refuseAt
    · simp only [yields_bind, yields_pure] at h
      obtain ⟨e, t₁, he, rfl, rfl⟩ := h
      simpa only [Ir.Expr.parts] using wellNamed_expr_of operand hnames he
  | .compare span left ops comparators, hnames, _, _, _, h => by
    obtain ⟨hleft, hothers⟩ := List.forall_mem_append.mp hnames
    have hcomparators := wellNamed_each_of comparators hothers
    unfold expr at h
    split at h
    · next op right =>
      simp only [yields_bind, yields_pure] at h
      obtain ⟨l, t₁, hl, rt, t₂, hr, rfl, rfl⟩ := h
      exact (wellNamed_expr_of left hleft hl).append (hcomparators right (by simp) hr)
    · exact absurd h yields_refuseAt
  | .ifExpr _ test body orelse, hnames, _, _, _, h => by
    obtain ⟨hfirst, horelse⟩ := List.forall_mem_append.mp hnames
    obtain ⟨htest, hbody⟩ := List.forall_mem_append.mp hfirst
    simp only [expr, yields_bind, yields_pure] at h
    obtain ⟨c, t₁, hc, b, t₂, hb, o, t₃, ho, rfl, rfl⟩ := h
    exact ((wellNamed_expr_of test htest hc).append (wellNamed_expr_of body hbody hb)).append
      (wellNamed_expr_of orelse horelse ho)
  | .form span f _, _, _, _, _, h => by
    cases f <;> exact absurd h yields_refuseAt

/-- So is each of several, which are not always compiled one after the other. -/
theorem wellNamed_each_of : ∀ es : List Source.Expr, KnowsNames K env (Source.namesOfList es) →
    ∀ e ∈ es, ExprNamed r K B env e
  | [], _ => List.forall_mem_nil _
  | e :: rest, hnames => by
    obtain ⟨he, hrest⟩ := List.forall_mem_append.mp hnames
    exact List.forall_mem_cons.mpr ⟨wellNamed_expr_of e he, wellNamed_each_of rest hrest⟩

end

theorem wellNamed_expr (henv : Covers K env) (hbuiltin : ∀ x ∈ builtinFunctions, K x)
    (e : Source.Expr) : ExprNamed r K B env e :=
  wellNamed_expr_of r e (henv.knowsNames hbuiltin _)

theorem wellNamed_exprOption (henv : Covers K env) (hbuiltin : ∀ x ∈ builtinFunctions, K x)
    {e : Option Source.Expr} {t t' : Trace} {code : Option Ir.Expr}
    (h : Yields (exprOption r env e) t code t') :
    WellNamed r K B t.generated t'.generated (Ir.partsOfOption code) := by
  cases e with
  | none =>
    obtain ⟨rfl, rfl⟩ := yields_pure.mp h
    exact .nil
  | some e =>
    simp only [exprOption, yields_bind, yields_pure] at h
    obtain ⟨c, t₁, hc, rfl, rfl⟩ := h
    simpa [Ir.partsOfOption] using wellNamed_expr r henv hbuiltin e hc

end Trees

/-! ## Statements -/

section Statements

variable {r : Registry} {K B : String → Prop} {env env' : TypeEnv} {t t' : Trace}
  {span : Source.Span} {code : List Ir.Stmt}

theorem wellNamed_partless {stmts : List Ir.Stmt} (hparts : Ir.partsOfBlock stmts = [])
    (h : Yields (pure (stmts, env) : CompileM _) t (code, env') t') :
    WellNamed r K B t.generated t'.generated (Ir.partsOfBlock code) := by
  obtain ⟨heq, rfl⟩ := yields_pure.mp h
  obtain rfl : stmts = code := congrArg Prod.fst heq
  rw [hparts]
  exact .nil

theorem wellNamed_target {e : Source.Expr} {target : Ir.Expr}
    (hB : ∀ sp id use, e = .name sp id use → B id) (henv : Covers K env)
    (hbuiltin : ∀ x ∈ builtinFunctions, K x)
    (h : Yields (Compile.target r env span e) t target t') :
    WellNamed r K B t.generated t'.generated (target.binders ++ target.parts) := by
  cases e with
  | name sp id use =>
    simp only [Compile.target, yields_bind] at h
    obtain ⟨_, t₁, hname, h⟩ := h
    obtain ⟨hsource, rfl⟩ := yields_checkName hname
    split_ifs at h with hlocal
    · obtain ⟨rfl, rfl⟩ := yields_pure.mp h
      have hknown : env.knows id = true := by
        have hlocal : env.locals.contains id = true := hlocal
        simp [TypeEnv.knows, hlocal]
      exact .assigned hsource ((henv id hknown).resolve_left (by simp [hsource])) (hB _ _ _ rfl)
    · exact absurd h yields_refuseAt
  | attr sp value member =>
    simp only [Compile.target, yields_bind, yields_pure] at h
    obtain ⟨v, t₁, hv, rfl, rfl⟩ := h
    simpa only [Ir.Expr.binders, Ir.Expr.parts, List.nil_append] using
      wellNamed_expr r henv hbuiltin value hv
  | subscript sp value index =>
    simp only [Compile.target] at h
    obtain ⟨-, h⟩ := yields_check.mp h
    simp only [yields_bind, yields_pure] at h
    obtain ⟨v, t₁, hv, i, t₂, hi, rfl, rfl⟩ := h
    exact (wellNamed_expr r henv hbuiltin value hv).append (wellNamed_expr r henv hbuiltin index hi)
  | _ => exact absurd h yields_refuseAt

theorem wellNamed_assign {targets : List Source.Expr} {value : Source.Expr}
    (hmarked : targets.all Source.Expr.isTarget = true)
    (hK : ∀ x ∈ Source.boundNames [.assign span targets value], K x ∧ B x) (henv : Covers K env)
    (hbuiltin : ∀ x ∈ builtinFunctions, K x)
    (h : Yields (assign r env span targets value) t (code, env') t') :
    WellNamed r K B t.generated t'.generated (Ir.partsOfBlock code) := by
  have hnamed (sp : Source.Span) (id : String) (use : Source.NameUse)
      (htargets : targets = [.name sp id use]) : K id ∧ B id := by
    subst htargets
    have hmentions := Source.mentions_levels_of_isTarget (by simpa using hmarked)
    refine hK id ?_
    simp [Source.mem_boundNames_singleton, Source.Stmt.levels, Source.levelsOfExprs, hmentions]
  unfold assign at h
  split at h
  · next sp id use =>
    simp only [yields_bind, yields_pure] at h
    obtain ⟨e, t₁, he, _, t₂, hname, heq, rfl⟩ := h
    obtain ⟨hsource, rfl⟩ := yields_checkName hname
    obtain rfl := congrArg Prod.fst heq
    obtain ⟨hK, hB⟩ := hnamed sp id use rfl
    refine ((WellNamed.assigned hsource hK hB).append
      (wellNamed_expr r henv hbuiltin value he)).of_count_le fun p => ?_
    simp [Ir.partsOfBlock, Ir.Stmt.parts, Ir.Expr.binders, Ir.Expr.parts]
  · simp only [yields_bind, yields_pure] at h
    obtain ⟨e, t₁, he, target, t₂, htarget, heq, rfl⟩ := h
    obtain rfl := congrArg Prod.fst heq
    refine ((wellNamed_expr r henv hbuiltin value he).append (wellNamed_target (fun sp id use heq =>
      (hnamed sp id use (by rw [heq])).2) henv hbuiltin htarget)).of_count_le fun p => ?_
    simp only [Ir.partsOfBlock, Ir.Stmt.parts, List.append_nil, List.count_append]
    omega
  · exact absurd h yields_refuseAt

theorem wellNamed_annAssign {target annot : Source.Expr} {value : Option Source.Expr}
    (hmarked : target.isTarget = true)
    (hK : ∀ x ∈ Source.boundNames [.annAssign span target annot value], K x ∧ B x)
    (henv : Covers K env)
    (hbuiltin : ∀ x ∈ builtinFunctions, K x)
    (h : Yields (annAssign r env span target annot value) t (code, env') t') :
    WellNamed r K B t.generated t'.generated (Ir.partsOfBlock code) := by
  unfold annAssign at h
  split at h
  · next sp id use =>
    simp only [yields_bind] at h
    obtain ⟨_, t₁, hname, T, t₂, htype, h⟩ := h
    obtain ⟨hsource, rfl⟩ := yields_checkName hname
    obtain ⟨rfl, -⟩ := yields_annotType htype
    obtain ⟨-, h⟩ := yields_check.mp h
    simp only [yields_bind, yields_pure] at h
    obtain ⟨e, t₃, he, heq, rfl⟩ := h
    obtain rfl := congrArg Prod.fst heq
    have hid : K id ∧ B id := by
      have hmentions := Source.mentions_levels_of_isTarget hmarked
      exact hK id (by simp [Source.mem_boundNames_singleton, Source.Stmt.levels, hmentions])
    refine ((WellNamed.assigned hsource hid.1 hid.2).append
      (wellNamed_exprOption r henv hbuiltin he)).of_count_le fun p => ?_
    cases e with
    | none => exact Nat.zero_le _
    | some e =>
      simp [Ir.partsOfBlock, Ir.partsOfOption, Ir.Stmt.parts, Ir.Expr.binders, Ir.Expr.parts]
  · exact absurd h yields_refuseAt

theorem wellNamed_augAssign {target : Source.Expr} {op : Source.BinaryOp} {value : Source.Expr}
    (hmarked : target.isTarget = true)
    (hK : ∀ x ∈ Source.boundNames [.augAssign span target op value], K x ∧ B x)
    (henv : Covers K env)
    (hbuiltin : ∀ x ∈ builtinFunctions, K x)
    (h : Yields (augAssign r env span target op value) t (code, env') t') :
    WellNamed r K B t.generated t'.generated (Ir.partsOfBlock code) := by
  unfold augAssign at h
  split at h
  · exact absurd h yields_refuseAt
  · simp only [yields_bind, yields_pure] at h
    obtain ⟨code, t₁, htarget, e, t₂, he, heq, rfl⟩ := h
    obtain rfl := congrArg Prod.fst heq
    have hB (sp : Source.Span) (id : String) (use : Source.NameUse)
        (heq : target = .name sp id use) : B id := by
      subst heq
      have hmentions := Source.mentions_levels_of_isTarget hmarked
      exact (hK id (by simp [Source.mem_boundNames_singleton, Source.Stmt.levels, hmentions])).2
    simpa [Ir.partsOfBlock, Ir.Stmt.parts] using
      (wellNamed_target hB henv hbuiltin htarget).append (wellNamed_expr r henv hbuiltin value he)

/-- The name that holds a subject is captured, and then it is known, or else generated. -/
theorem wellNamed_subjectName {cases : List Source.Case} {heads : Heads} {bind : String}
    {τ : Trace} (hK : ∀ x ∈ Source.boundInCases cases, K x ∧ B x)
    (hheads : Yields (caseHeads {} cases) τ heads t) (h : Yields (subjectName heads) t bind t') :
    (isGenerated bind = true ∨ K bind) ∧
      WellNamed r K B t.generated t'.generated [.binder bind, .var bind] := by
  rcases yields_subjectName h with ⟨hcap, rfl⟩ | ⟨-, rfl, hnext⟩
  · obtain ⟨hmem, hsource⟩ : bind ∈ Source.boundInCases cases ∧ isGenerated bind = false := by
      simpa using (ensures_caseHeads cases {} τ heads t hheads).2 bind hcap
    obtain ⟨hbind, hbound⟩ := hK bind hmem
    exact ⟨.inr hbind, .assigned hsource hbind hbound⟩
  · have hgen := isGenerated_generatedName "cast" (t.generated + 1)
    rw [hnext]
    exact ⟨.inl hgen, (WellNamed.fresh (by simp [stems])).append (.var (.inl hgen))⟩

theorem wellNamed_dispatch {subject : Source.Expr} {cases : List Source.Case}
    {branches : List (Branch CompileM (List Ir.Stmt))}
    (hK : ∀ x ∈ Source.boundInCases cases, K x ∧ B x) (henv : Covers K env)
    (hbuiltin : ∀ x ∈ builtinFunctions, K x)
    (hbranches : ∀ b ∈ branches, ∀ env, Covers K env → BranchNamed r K B Ir.partsOfBlock b env)
    (h : Yields (dispatch r env span subject cases branches) t (code, env') t') :
    WellNamed r K B t.generated t'.generated (Ir.partsOfBlock code) := by
  obtain ⟨value, t₁, heads, t₂, bind, t₃, plan, t₄, hvalue, hheads, hname, hplan, hsame, hcode,
    rfl⟩ := yields_dispatch h
  simp only [Dispatch.lowerStmt, yields_bind, yields_pure] at hcode
  obtain ⟨stmts, t₅, hbody, rfl, rfl⟩ := hcode
  obtain ⟨hbind, hsubject⟩ := wellNamed_subjectName hK hheads hname
  have hplanned := (of_mem_planDispatch hplan).2
  have hstmts : WellNamed r K B t₃.generated t₅.generated (Ir.partsOfBlock stmts) := by
    rw [hsame]
    refine wellNamed_body hbind rfl (fun d hd T => ?_) (fun c hc => ?_) (fun c hc T => ?_)
      parts_stmtChain hbody
    · have hd : d ∈ branches := by
        split_ifs at hd
        · exact List.mem_of_getLast? hd
        · simp at hd
      exact hbranches d hd _ (henv.bind hbind T)
    · obtain ⟨d, hd, -⟩ := hplanned c hc
      exact Registry.mem_of_lookup hd
    · obtain ⟨d, -, hmem⟩ := hplanned c hc
      exact hbranches c.branch (List.of_mem_zip hmem).2 _ (henv.bind hbind T)
  have hle := (ensures_caseHeads cases {} t₁ heads t₂ hheads).1
  have hall := ((wellNamed_expr r henv hbuiltin subject hvalue).widen (le_refl _) hle).append
    (hsubject.append hstmts)
  refine hall.of_count_le fun p => ?_
  split_ifs
  · simp only [List.count_append]
    omega
  · simp only [Ir.partsOfBlock, Ir.Stmt.parts, Ir.Expr.binders, Ir.Expr.parts, List.count_append,
      List.cons_append, List.nil_append, List.count_cons]
    omega

/-- A loop over a collection knows the names of its body and its own. -/
theorem covers_forEntry {id : String} {body : List Source.Stmt} (henv : Covers K env)
    (hK : ∀ x ∈ Source.boundNames body, K x) (hid : K id) (hsource : isGenerated id = false) :
    Covers K (forEntry env id body) := by
  have hflow : Flow Host.builtin (fun _ _ => False) (id :: Source.boundNames body) env 0
      (forEntry env id body) 0 :=
    flow_forEntry (List.subset_cons_self _ _) List.mem_cons_self hsource
  exact hflow.covers (List.forall_mem_cons.mpr ⟨hid, hK⟩) henv

theorem covers_loopEntry {body : List Source.Stmt} (henv : Covers K env)
    (hK : ∀ x ∈ Source.boundNames body, K x) : Covers K (loopEntry env body) := by
  have hflow : Flow Host.builtin (fun _ _ => False) (Source.boundNames body) env 0
      (loopEntry env body) 0 := .forget (List.Subset.refl _)
  exact hflow.covers hK henv

end Statements

mutual

theorem wellNamed_stmt (r : Registry) {K B : String → Prop}
    (hbuiltin : ∀ x ∈ builtinFunctions, K x) : ∀ (s : Source.Stmt) {inLoop : Bool}
    {env env' : TypeEnv} {t t' : Trace} {code : List Ir.Stmt}, s.isMarked = true →
    (∀ x ∈ Source.boundNames [s], K x ∧ B x) → Covers K env →
    Yields (stmt r s inLoop env) t (code, env') t' →
    WellNamed r K B t.generated t'.generated (Ir.partsOfBlock code)
  | .assign span targets value, _, _, _, _, _, _, hm, hK, henv, h =>
    wellNamed_assign hm hK henv hbuiltin h
  | .annAssign span target annot value, _, _, _, _, _, _, hm, hK, henv, h =>
    wellNamed_annAssign hm hK henv hbuiltin h
  | .augAssign span target op value, _, _, _, _, _, _, hm, hK, henv, h =>
    wellNamed_augAssign hm hK henv hbuiltin h
  | .expr span value, _, _, _, _, _, _, _, _, henv, h => by
    unfold stmt at h
    split_ifs at h
    · exact wellNamed_partless rfl h
    · split at h
      · obtain ⟨e, t₁, he, h⟩ := yields_bind.mp h
        obtain ⟨heq, rfl⟩ := yields_pure.mp h
        obtain rfl := congrArg Prod.fst heq
        simpa [Ir.partsOfBlock, Ir.Stmt.parts] using wellNamed_expr r henv hbuiltin _ he
      · exact absurd h yields_refuseAt
  | .ifElse span test body orelse, _, _, _, _, _, _, hm, hK, henv, h => by
    simp only [Source.Stmt.isMarked, Bool.and_eq_true] at hm
    simp only [stmt, yields_bind, yields_pure] at h
    obtain ⟨c, t₁, hc, ⟨b, _⟩, t₂, hbody, ⟨o, _⟩, t₃, horelse, heq, rfl⟩ := h
    obtain rfl := congrArg Prod.fst heq
    have hb := wellNamed_block r hbuiltin body hm.1 (fun x hx => hK x (by
      simp [Source.mem_boundNames_singleton, Source.Stmt.levels, hx])) henv hbody
    have ho := wellNamed_block r hbuiltin orelse hm.2 (fun x hx => hK x (by
      simp [Source.mem_boundNames_singleton, Source.Stmt.levels, hx])) henv horelse
    simpa [Ir.partsOfBlock, Ir.Stmt.parts] using
      (wellNamed_expr r henv hbuiltin test hc).append (hb.append ho)
  | .whileDo span test body orelse, _, _, _, _, _, _, hm, hK, henv, h => by
    simp only [Source.Stmt.isMarked, Bool.and_eq_true] at hm
    unfold stmt at h
    obtain ⟨-, h⟩ := yields_check.mp h
    simp only [yields_bind, yields_pure] at h
    obtain ⟨c, t₁, hc, ⟨b, _⟩, t₂, hbody, heq, rfl⟩ := h
    obtain rfl := congrArg Prod.fst heq
    have hnames : ∀ x ∈ Source.boundNames body, K x ∧ B x := fun x hx => hK x (by
      simp [Source.mem_boundNames_singleton, Source.Stmt.levels, hx])
    have hentry := covers_loopEntry henv fun x hx => (hnames x hx).1
    have hb := wellNamed_block r hbuiltin body hm.1 hnames hentry hbody
    simpa [Ir.partsOfBlock, Ir.Stmt.parts] using
      (wellNamed_expr r hentry hbuiltin test hc).append hb
  | .forIn span target iter body orelse, _, _, _, _, _, _, hm, hK, henv, h => by
    simp only [Source.Stmt.isMarked, Bool.and_eq_true] at hm
    unfold stmt at h
    obtain ⟨-, h⟩ := yields_check.mp h
    split at h
    · next sp id use _ =>
      simp only [yields_bind, yields_pure] at h
      obtain ⟨_, t₀, hname, c, t₁, hc, ⟨b, _⟩, t₂, hbody, heq, rfl⟩ := h
      obtain ⟨hsource, rfl⟩ := yields_checkName hname
      obtain rfl := congrArg Prod.fst heq
      have hnames : ∀ x ∈ Source.boundNames body, K x ∧ B x := fun x hx => hK x (by
        simp [Source.mem_boundNames_singleton, Source.Stmt.levels, hx])
      have hid : K id ∧ B id := by
        have hmentions := Source.mentions_levels_of_isTarget hm.1.1
        exact hK id (by simp [Source.mem_boundNames_singleton, Source.Stmt.levels, hmentions])
      have hb := wellNamed_block r hbuiltin body hm.1.2 hnames
        (covers_forEntry henv (fun x hx => (hnames x hx).1) hid.1 hsource) hbody
      refine ((WellNamed.assigned hsource hid.1 hid.2).append
        ((wellNamed_expr r henv hbuiltin iter hc).append hb)).of_count_le fun p => ?_
      simp only [Ir.partsOfBlock, Ir.Stmt.parts, List.append_nil, List.count_append,
        List.cons_append, List.nil_append, List.count_cons]
      omega
    · exact absurd h yields_refuseAt
  | .matchOn span subject cases, inLoop, _, _, _, _, _, hm, hK, henv, h => by
    refine wellNamed_dispatch (fun x hx => hK x ?_) henv hbuiltin
      (wellNamed_builders r hbuiltin cases inLoop hm fun x hx => hK x ?_) h
    · simp [Source.mem_boundNames_singleton, Source.Stmt.levels, hx]
    · simp [Source.mem_boundNames_singleton, Source.Stmt.levels, hx]
  | .ret span value, _, _, _, _, _, _, _, _, henv, h => by
    simp only [stmt, yields_bind, yields_pure] at h
    obtain ⟨e, t₁, he, heq, rfl⟩ := h
    obtain rfl := congrArg Prod.fst heq
    simpa [Ir.partsOfBlock, Ir.Stmt.parts] using wellNamed_exprOption r henv hbuiltin he
  | .brk span, inLoop, _, _, _, _, _, _, _, _, h => by
    unfold stmt at h
    split_ifs at h
    · exact wellNamed_partless rfl h
    · exact absurd h yields_refuseAt
  | .cont span, inLoop, _, _, _, _, _, _, _, _, h => by
    unfold stmt at h
    split_ifs at h
    · exact wellNamed_partless rfl h
    · exact absurd h yields_refuseAt
  | .pass _, _, _, _, _, _, _, _, _, _, h => wellNamed_partless rfl h
  | .functionDef .., _, _, _, _, _, _, _, _, _, h => absurd h yields_refuseAt
  | .classDef .., _, _, _, _, _, _, _, _, _, h => absurd h yields_refuseAt
  | .form .., _, _, _, _, _, _, _, _, _, h => absurd h yields_refuseAt

/-- **Compiled blocks are well named.** -/
theorem wellNamed_block (r : Registry) {K B : String → Prop}
    (hbuiltin : ∀ x ∈ builtinFunctions, K x) : ∀ (stmts : List Source.Stmt) {inLoop : Bool}
    {env env' : TypeEnv} {t t' : Trace} {code : List Ir.Stmt}, Source.areMarked stmts = true →
    (∀ x ∈ Source.boundNames stmts, K x ∧ B x) → Covers K env →
    Yields (block r stmts inLoop env) t (code, env') t' →
    WellNamed r K B t.generated t'.generated (Ir.partsOfBlock code)
  | [], _, _, _, _, _, _, _, _, _, h => wellNamed_partless rfl h
  | s :: rest, _, _, _, _, _, _, hm, hK, henv, h => by
    simp only [Source.areMarked, Bool.and_eq_true] at hm
    simp only [block, yields_bind, yields_pure] at h
    obtain ⟨⟨first, env₁⟩, t₁, hs, ⟨code, env₂⟩, t₂, hrest, heq, rfl⟩ := h
    obtain rfl := congrArg Prod.fst heq
    have hKs : ∀ x ∈ Source.boundNames [s], K x ∧ B x := fun x hx =>
      hK x (Source.mem_boundNames_cons.mpr (.inl (Source.mem_boundNames_singleton.mp hx)))
    have hKrest : ∀ x ∈ Source.boundNames rest, K x ∧ B x := fun x hx =>
      hK x (Source.mem_boundNames_cons.mpr (.inr hx))
    have henv₁ := (flow_of_stmt r s hm.1 hs).covers (fun x hx => (hKs x hx).1) henv
    rw [Ir.partsOfBlock_append]
    exact (wellNamed_stmt r hbuiltin s hm.1 hKs henv hs).append
      (wellNamed_block r hbuiltin rest hm.2 hKrest henv₁ hrest)

theorem wellNamed_builders (r : Registry) {K B : String → Prop}
    (hbuiltin : ∀ x ∈ builtinFunctions, K x) : ∀ (cases : List Source.Case) (inLoop : Bool),
    Source.areMarkedCases cases = true → (∀ x ∈ Source.boundInCases cases, K x ∧ B x) →
    ∀ b ∈ builders r cases inLoop, ∀ env, Covers K env → BranchNamed r K B Ir.partsOfBlock b env
  | [], _, _, _, _, hb, _, _ => by simp [builders] at hb
  | .mk pattern guard body :: rest, inLoop, hm, hK, b, hb, env, henv => by
    simp only [Source.areMarkedCases, Bool.and_eq_true] at hm
    simp only [builders, List.mem_cons] at hb
    rcases hb with rfl | hb
    · intro t code t' h
      simp only [yields_bind, yields_pure] at h
      obtain ⟨⟨stmts, env'⟩, t₁, hbody, rfl, rfl⟩ := h
      refine wellNamed_block r hbuiltin body hm.1 (fun x hx => hK x ?_) henv hbody
      exact Source.mem_boundInCases.mpr
        ⟨_, List.mem_cons_self, by simp [Source.Case.levels, hx]⟩
    · refine wellNamed_builders r hbuiltin rest inLoop hm.2 (fun x hx => hK x ?_) b hb env henv
      rw [Source.mem_boundInCases] at hx ⊢
      obtain ⟨c, hc, hmentions⟩ := hx
      exact ⟨c, List.mem_cons_of_mem _ hc, hmentions⟩

end

end Compile

end Componentry
