import Componentry.Proofs.InStep

/-!
# Code that is compiled in step

All that the compiler does with expressions and statements is in step: the same source, at other
places and after other declarations, becomes the same code up to the numbers of generated names.

**Theorem (`inStep_expr`).** Expressions are compiled in step.

**Theorem (`inStep_block`).** So are blocks, and they leave environments that are alike.
-/

namespace Componentry

open CompileM

open Compile (isGenerated ReadsSource)

/-! ## Dispatches -/

section Dispatch

variable {d : Int} {r r' : Registry} {env env' : TypeEnv}

theorem resolveClauses_map_eq {α β : Type} (f : α → β) (clauses : List (String × α)) :
    resolveClauses r (clauses.map fun c => (c.1, f c.2)) =
      (resolveClauses r clauses).map (List.map (Clause.map f)) := by
  induction clauses with
  | nil => rfl
  | cons c rest ih =>
    simp only [List.map_cons, resolveClauses, ih]
    cases r.ensure c.1 <;> cases resolveClauses r rest <;> rfl

/-- Branches that are planned side by side are kept side by side. -/
theorem inStep_plan {α β : Type} (hr : r.Alike r') (place place' : Option Place)
    {value value' : Ir.Expr} (bindType : Option HostType)
    (hvalue : resolve r' env' value' = resolve r env value) (pairs : List (String × (α × β))) :
    InStep d
      (fun p q => ∃ plan : Plan (α × β), p = plan.map Prod.fst ∧ q = plan.map Prod.snd ∧
        ∀ c ∈ plan.clauses, ∃ designator, (designator, c.branch) ∈ pairs)
      (ofRegistry place (planDispatch r env value bindType (pairs.map fun c => (c.1, c.2.1))))
      (ofRegistry place' (planDispatch r' env' value' bindType
        (pairs.map fun c => (c.1, c.2.2)))) := by
  have hstatic : subjectType r' env' value' bindType = subjectType r env value bindType := by
    rw [subjectType, subjectType, hr.mostSpecific, hvalue]
  unfold planDispatch
  rw [hstatic, ← hr.resolveClauses, resolveClauses_map_eq Prod.fst, resolveClauses_map_eq Prod.snd]
  cases hcs : resolveClauses r pairs with
  | error e => exact inStep_refuse
  | ok cs =>
    refine inStep_pure ⟨Plan.make r (subjectType r env value bindType) cs, Plan.make_map .., ?_,
      fun c hc => ?_⟩
    · rw [← hr.make, Plan.make_map]
    · obtain ⟨designator, -, hmem⟩ :=
        of_mem_resolveClauses hcs c (Plan.make_clauses_subset r _ cs hc)
      exact ⟨designator, hmem⟩

variable {β γ : Type} {R : β → γ → Prop} {bind bind' : String}

/-- Branches that are in step wherever the subject has a type. -/
def BranchesInStep (d : Int) (R : β → γ → Prop) (bind bind' : String) (env env' : TypeEnv)
    (branches : Branch CompileM β × Branch CompileM γ) : Prop :=
  ∀ T, InStep d R (branches.1 (env.bind bind T)) (branches.2 (env'.bind bind' T))

theorem inStep_buildAll {cs : List (Clause (Branch CompileM β × Branch CompileM γ))}
    (hcs : ∀ c ∈ cs, BranchesInStep d R bind bind' env env' c.branch) :
    InStep d (List.Forall₂ fun b b' => b.1 = b'.1 ∧ R b.2 b'.2)
      (Dispatch.buildAll bind env (cs.map (Clause.map Prod.fst)))
      (Dispatch.buildAll bind' env' (cs.map (Clause.map Prod.snd))) := by
  induction cs with
  | nil => exact inStep_pure .nil
  | cons c rest ih =>
    obtain ⟨hc, hrest⟩ := List.forall_mem_cons.mp hcs
    exact (hc c.type).bind fun b b' hb => (ih hrest).bind fun bs bs' hbs =>
      inStep_pure (.cons ⟨rfl, hb⟩ hbs)

theorem inStep_buildDefault {absent : β} {absent' : γ} (habsent : R absent absent')
    {default : Option (Branch CompileM β × Branch CompileM γ)}
    (hdefault : ∀ b ∈ default, BranchesInStep d R bind bind' env env' b)
    (static : Option HostType) :
    InStep d R (Dispatch.buildDefault bind env static absent (default.map Prod.fst))
      (Dispatch.buildDefault bind' env' static absent' (default.map Prod.snd)) := by
  cases default with
  | none => exact inStep_pure habsent
  | some b => exact hdefault b rfl static

/-- A dispatch is built in step if its branches are, and if joining them corresponds. -/
theorem inStep_body {absent : β} {absent' : γ} (habsent : R absent absent')
    {chain : β → List (HostType × β) → β} {chain' : γ → List (HostType × γ) → γ}
    (hchain : ∀ {final final' bs bs'}, R final final' →
      List.Forall₂ (fun b b' => b.1 = b'.1 ∧ R b.2 b'.2) bs bs' →
      R (chain final bs) (chain' final' bs'))
    (default : Option (Branch CompileM β × Branch CompileM γ))
    (hdefault : ∀ b ∈ default, BranchesInStep d R bind bind' env env' b)
    {plan : Plan (Branch CompileM β × Branch CompileM γ)}
    (hplan : ∀ c ∈ plan.clauses, BranchesInStep d R bind bind' env env' c.branch) :
    InStep d R
      (Dispatch.body bind env absent chain (default.map Prod.fst) (plan.map Prod.fst))
      (Dispatch.body bind' env' absent' chain' (default.map Prod.snd) (plan.map Prod.snd)) := by
  cases plan with
  | exact T c => exact hplan c List.mem_cons_self c.type
  | fallback T => exact inStep_buildDefault habsent hdefault _
  | pruned T cs =>
    exact (inStep_buildDefault habsent hdefault _).bind fun final final' hfinal =>
      (inStep_buildAll hplan).bind fun bs bs' hbs => inStep_pure (hchain hfinal hbs)
  | full cs =>
    exact (inStep_buildDefault habsent hdefault _).bind fun final final' hfinal =>
      (inStep_buildAll hplan).bind fun bs bs' hbs => inStep_pure (hchain hfinal hbs)

theorem moved_exprChain {final final' : Ir.Expr} {bs bs' : List (HostType × Ir.Expr)}
    (hfinal : Moved d final final')
    (hbs : List.Forall₂ (fun b b' => b.1 = b'.1 ∧ Moved d b.2 b'.2) bs bs') :
    Moved d (Dispatch.exprChain bind final bs) (Dispatch.exprChain (moved d bind) final' bs') := by
  induction hbs with
  | nil => exact hfinal
  | @cons b b' bs bs' hb _ ih =>
    obtain ⟨htype, hbody⟩ := hb
    unfold Moved at hbody ih ⊢
    simp [Dispatch.exprChain, Dispatch.test, Ir.Expr.rename, htype, hbody, ih]

theorem moved_stmtChain {final final' : List Ir.Stmt} {bs bs' : List (HostType × List Ir.Stmt)}
    (hfinal : BlockMoved d final final')
    (hbs : List.Forall₂ (fun b b' => b.1 = b'.1 ∧ BlockMoved d b.2 b'.2) bs bs') :
    BlockMoved d (Dispatch.stmtChain bind final bs)
      (Dispatch.stmtChain (moved d bind) final' bs') := by
  induction hbs with
  | nil => exact hfinal
  | @cons b b' bs bs' hb _ ih =>
    obtain ⟨htype, hbody⟩ := hb
    unfold BlockMoved at hbody ih ⊢
    simp [Dispatch.stmtChain, Dispatch.test, Ir.renameBlock, Ir.Stmt.rename, Ir.Expr.rename, htype,
      hbody, ih]

end Dispatch

/-! ## Lookups -/

namespace Access

variable {d : Int} {r r' : Registry} {env env' : TypeEnv} {place place' : Option Place}

/-- A name that corresponds in two runs and has the same static type in both. -/
structure Names (d : Int) (env env' : TypeEnv) (x x' : String) : Prop where
  moved : x' = moved d x
  type : nameType env' x' = nameType env x

theorem Names.of_source {x : String} (henv : env.Alike env') (hx : isGenerated x = false) :
    Names d env env' x x :=
  ⟨(moved_of_source hx d).symm, (henv.nameType hx).symm⟩

/-- The next generated names get one type. -/
theorem Names.bind {x x' y y' stem : String} (h : Names d env env' x x') (hstem : stem ∈ stems)
    (hy : Next d stem y y') (T : Option HostType) :
    Names d (env.bind y T) (env'.bind y' T) x x' := by
  refine ⟨h.moved, ?_⟩
  rw [nameType_bind, nameType_bind, h.type]
  have hiff : x' = y' ↔ x = y := by rw [h.moved, hy.moved_eq_iff hstem]
  simp only [hiff]

theorem Names.next {y y' stem : String} (hstem : stem ∈ stems) (hy : Next d stem y y')
    (T : Option HostType) : Names d (env.bind y T) (env'.bind y' T) y y' :=
  ⟨hy.eq_moved hstem, by rw [nameType_bind, nameType_bind, if_pos rfl, if_pos rfl]⟩

theorem inStep_dispatchOn (hr : r.Alike r') {stem subject subject' : String} (hstem : stem ∈ stems)
    {types : List String} {build build' : String → Branch CompileM Ir.Expr}
    (hsubject : Names d env env' subject subject')
    (hbuild : ∀ bind bind', Next d stem bind bind' →
      BranchesInStep d (Moved d) bind bind' env env' (build bind, build' bind')) :
    InStep d (Moved d) (dispatchOn r place stem types subject env build)
      (dispatchOn r' place' stem types subject' env' build') := by
  unfold dispatchOn
  refine (inStep_fresh stem).bind fun bind bind' hbind => ?_
  have hresolve : resolve r' env' (.var subject') = resolve r env (.var subject) := hsubject.type
  have hplan := inStep_plan (d := d) hr place place' none hresolve
    (types.map fun type => (type, (build bind, build' bind')))
  simp only [List.map_map, Function.comp_def] at hplan
  refine hplan.bind ?_
  rintro _ _ ⟨plan, rfl, rfl, hclauses⟩
  refine (inStep_record _ _).bind fun _ _ _ => ?_
  unfold Dispatch.lowerExpr
  refine InStep.bind (R := Moved d) (inStep_body (by rfl) ?_ none (by simp) fun c hc => ?_)
    fun e e' he => ?_
  · intro final final' bs bs' hfinal hbs
    rw [hbind.eq_moved hstem]
    exact moved_exprChain hfinal hbs
  · obtain ⟨designator, hmem⟩ := hclauses c hc
    obtain ⟨type, -, heq⟩ := List.mem_map.mp hmem
    obtain ⟨-, hbranch⟩ := Prod.mk.inj heq
    rw [← hbranch]
    exact hbuild bind bind' hbind
  · refine inStep_pure ?_
    have hvar : (Ir.Expr.var subject').isVar bind' = (Ir.Expr.var subject).isVar bind := by
      rw [Bool.eq_iff_iff, Ir.Expr.isVar_iff, Ir.Expr.isVar_iff]
      simp only [Ir.Expr.var.injEq]
      rw [hsubject.moved, hbind.moved_eq_iff hstem]
    rw [hvar]
    split_ifs
    · exact he
    · simp [Moved, Ir.Expr.rename, Ir.renameBindings, hsubject.moved, hbind.eq_moved hstem,
        show e' = _ from he]

/-- The lookup on two variables. -/
theorem inStep_onVariables (hr : r.Alike r') {obj obj' target target' : String}
    (hobj : Names d env env' obj obj') (htarget : Names d env env' target target') :
    InStep d (Moved d) (onVariables r place obj target env)
      (onVariables r' place' obj' target' env') := by
  have hcall {o o' t t' : String} (ho : o' = moved d o) (ht : t' = moved d t) :
      InStep d (Moved d) (pure (directCall (.var o) (.var t)) : CompileM Ir.Expr)
        (pure (directCall (.var o') (.var t'))) :=
    inStep_pure (by simp [Moved, directCall, Ir.Expr.rename, Ir.renameList, ho, ht])
  have himplementer : isImplementer r' env' (.var obj') = isImplementer r env (.var obj) := by
    simp only [isImplementer, resolve, hobj.type, Registry.hasMethod, hr.ancestors]
  have hkind : targetKind? r' env' (.var target') = targetKind? r env (.var target) := by
    simp only [targetKind?, resolve, htarget.type, hr.ancestors]
  have hobjStem : "obj" ∈ stems := by simp [stems]
  have htargetStem : "target" ∈ stems := by simp [stems]
  unfold onVariables
  rw [himplementer, hkind]
  split
  · exact hcall hobj.moved htarget.moved
  · exact inStep_dispatchOn hr htargetStem htarget fun bind bind' hbind T =>
      hcall hobj.moved (hbind.eq_moved htargetStem)
  · exact inStep_dispatchOn hr hobjStem hobj fun bind bind' hbind T =>
      hcall (hbind.eq_moved hobjStem) htarget.moved
  · refine inStep_dispatchOn hr hobjStem hobj fun narrowed narrowed' hnarrowed T => ?_
    exact inStep_dispatchOn hr htargetStem (htarget.bind hobjStem hnarrowed T)
      fun bind bind' hbind T' => hcall (hnarrowed.eq_moved hobjStem) (hbind.eq_moved htargetStem)

theorem hoist_of_ne_var {outer inner : TypeEnv} {stem : String} {arg : Ir.Expr}
    (h : ∀ x, arg ≠ .var x) :
    hoist r outer stem arg inner = do
      let name ← fresh stem
      return (name, [(name, arg)], inner.bind name (resolve r outer arg)) := by
  cases arg with
  | var x => exact absurd rfl (h x)
  | _ => rfl

/-- An argument gets a name that corresponds, and the other names still do. -/
theorem inStep_hoist (hr : r.Alike r') {outer outer' inner inner' : TypeEnv}
    (houter : outer.Alike outer') (hinner : inner.Alike inner') {stem : String}
    (hstem : stem ∈ stems) {arg : Ir.Expr} (harg : ReadsSource arg) :
    InStep d
      (fun p q => Names d p.2.2 q.2.2 p.1 q.1 ∧
        q.2.1 = Ir.renameBindings (Componentry.moved d) p.2.1 ∧
        p.2.2.Alike q.2.2 ∧ ∀ x x', Names d inner inner' x x' → Names d p.2.2 q.2.2 x x')
      (hoist r outer stem arg inner)
      (hoist r' outer' stem (arg.rename (Componentry.moved d)) inner') := by
  by_cases hvar : ∃ x, arg = .var x
  · obtain ⟨x, rfl⟩ := hvar
    have hx : isGenerated x = false := harg
    simp only [Ir.Expr.rename, moved_of_source hx]
    exact inStep_pure ⟨.of_source hinner hx, rfl, hinner, fun _ _ h => h⟩
  · have hne : ∀ x, arg ≠ .var x := fun x hx => hvar ⟨x, hx⟩
    have hne' : ∀ x, arg.rename (Componentry.moved d) ≠ .var x := by
      cases arg with
      | var x => exact absurd rfl (hne x)
      | _ => simp [Ir.Expr.rename]
    rw [hoist_of_ne_var hne, hoist_of_ne_var hne', resolve_rename hr houter d harg]
    refine (inStep_fresh stem).bind fun name name' hname => inStep_pure ?_
    exact ⟨.next hstem hname _, by simp [Ir.renameBindings, hname.eq_moved hstem],
      hinner.bind_generated hname.isGenerated.1 hname.isGenerated.2 _ _,
      fun x x' hx => hx.bind hstem hname _⟩

theorem inStep_specialize (hr : r.Alike r') (henv : env.Alike env') {args : List Ir.Expr}
    (hargs : ∀ e ∈ args, ReadsSource e) :
    InStep d (Moved d) (specialize r place env args)
      (specialize r' place' env' (Ir.renameList (Componentry.moved d) args)) := by
  match args, hargs with
  | [obj, target], hargs =>
    obtain ⟨hobj, htarget⟩ : ReadsSource obj ∧ ReadsSource target := by simpa using hargs
    simp only [specialize, Ir.renameList]
    refine (inStep_hoist hr henv henv (by simp [stems]) hobj).bind ?_
    rintro ⟨o, objBinding, env₁⟩ ⟨o', objBinding', env₁'⟩ ⟨ho, rfl, henv₁, -⟩
    refine (inStep_hoist hr henv henv₁ (by simp [stems]) htarget).bind ?_
    rintro ⟨tg, targetBinding, env₂⟩ ⟨tg', targetBinding', env₂'⟩ ⟨htg, rfl, -, hkeeps⟩
    refine (inStep_onVariables hr (hkeeps o o' ho) htg).bind fun call call' hcall => ?_
    have happend (bs cs : List (String × Ir.Expr)) :
        Ir.renameBindings (Componentry.moved d) bs ++ Ir.renameBindings (Componentry.moved d) cs =
          Ir.renameBindings (Componentry.moved d) (bs ++ cs) := by
      induction bs with
      | nil => rfl
      | cons b rest ih => simp [Ir.renameBindings, ih]
    simp only [happend]
    cases objBinding ++ targetBinding with
    | nil => exact inStep_pure hcall
    | cons b bs => exact inStep_pure (by simp [Moved, Ir.Expr.rename, show call' = _ from hcall])
  | [], _ => exact inStep_refuse
  | [_], _ => exact inStep_refuse
  | _ :: _ :: _ :: _, _ => exact inStep_refuse

end Access

/-! ## Expressions -/

namespace Compile

section Expressions

variable {d : Int} {r r' : Registry} {env env' : TypeEnv}

theorem inStep_checkName {span span' : Source.Span} (id : String) :
    InStep d (fun _ _ => isGenerated id = false) (checkName span id) (checkName span' id) := by
  unfold checkName
  by_cases hgen : isGenerated id = true
  · simp only [hgen, if_true]
    exact inStep_refuseAt
  · rw [if_neg hgen, if_neg hgen]
    exact inStep_ite Iff.rfl inStep_refuseAt (inStep_pure (by simpa using hgen))

theorem inStep_annotType (hr : r.Alike r') {span span' : Source.Span} (annot : Option Source.Expr) :
    InStep d Eq (annotType r span annot) (annotType r' span' (annot.map Source.Expr.unplaced)) := by
  cases annot with
  | none => exact inStep_pure rfl
  | some e =>
    refine (inStep_ofExcept e.designator_unplaced.symm).bind ?_
    rintro designator _ rfl
    cases designator with
    | none => exact inStep_pure rfl
    | some name =>
      simp only [← hr.ensure]
      refine inStep_ofRegistry.bind ?_
      rintro T _ rfl
      exact inStep_pure rfl

theorem inStep_name (hr : r.Alike r') (henv : env.Alike env') {span span' : Source.Span}
    (id : String) : InStep d (Moved d) (name r env span id) (name r' env' span' id) := by
  unfold name
  by_cases hgen : isGenerated id = true
  · simp only [hgen, if_true]
    exact inStep_refuseAt
  · have hsource : isGenerated id = false := by simpa using hgen
    have hvar : InStep d (Moved d) (pure (.var id)) (pure (.var id)) :=
      inStep_pure (by simp [Moved, Ir.Expr.rename, moved_of_source hsource])
    rw [if_neg hgen, if_neg hgen, ← henv.knows hsource, ← hr.lookup]
    refine inStep_ite Iff.rfl hvar ?_
    cases r.lookup id with
    | some T => exact inStep_pure rfl
    | none => exact inStep_ite Iff.rfl hvar inStep_refuseAt

theorem isGenerated_dotted {e : Source.Expr} {dotted root : String} (hd : e.dotted? = some dotted)
    (hroot : e.root? = some root) (h : isGenerated root = true) : isGenerated dotted = true := by
  fun_induction Source.Expr.dotted? e generalizing dotted with
  | case1 span id use =>
    obtain rfl : id = dotted := by simpa using hd
    obtain rfl : id = root := by simpa [Source.Expr.root?] using hroot
    exact h
  | case2 span value member ih =>
    obtain ⟨owner, howner, rfl⟩ := Option.map_eq_some_iff.mp hd
    have howner' := ih howner (by simpa [Source.Expr.root?] using hroot)
    unfold isGenerated at howner' ⊢
    rw [List.isPrefixOf_iff_prefix] at howner' ⊢
    rw [String.toList_append, String.toList_append, List.append_assoc]
    exact howner'.trans (List.prefix_append _ _)
  | case3 => simp at hd

/-- A dotted name means the same type. One that starts with a generated name means none. -/
theorem hostType?_unplaced (hr : r.Alike r') (henv : env.Alike env') (e : Source.Expr) :
    hostType? r' env' e.unplaced = hostType? r env e := by
  unfold hostType?
  rw [Source.Expr.dotted?_unplaced, Source.Expr.root?_unplaced]
  cases hd : e.dotted? with
  | none => rfl
  | some dotted =>
    cases hroot : e.root? with
    | none => rfl
    | some root =>
      dsimp only
      rw [← hr.lookup]
      cases hgen : isGenerated root with
      | false => rw [henv.knows hgen]
      | true => simp [hr.source dotted (isGenerated_dotted hd hroot hgen)]

theorem construct?_unplaced (henv : env.Alike env') (e : Source.Expr) :
    construct? env' e.unplaced = construct? env e := by
  cases e with
  | name span id use =>
    simp only [Source.Expr.unplaced, construct?]
    cases hgen : isGenerated id with
    | false => rw [henv.knows hgen]
    | true =>
      have haccess : id ≠ accessorName := by rintro rfl; revert hgen; decide
      have hcast : id ≠ castName := by rintro rfl; revert hgen; decide
      simp [haccess, hcast]
  | _ => rfl

theorem inStep_checkArguments {span span' : Source.Span} (args keywords : List Source.Expr) :
    InStep d (fun _ _ => True) (checkArguments span args keywords)
      (checkArguments span' (Source.unplacedExprs args) (Source.unplacedExprs keywords)) := by
  have hempty : (Source.unplacedExprs keywords).isEmpty = keywords.isEmpty := by
    cases keywords <;> rfl
  have hany : (Source.unplacedExprs args).any (·.hasForm .starred) =
      args.any (·.hasForm .starred) := by
    rw [Source.unplacedExprs_eq_map, List.any_map]
    congr 1
    funext e
    exact e.hasForm_unplaced _
  unfold checkArguments
  rw [hempty, hany]
  split_ifs
  · exact inStep_refuseAt
  · exact inStep_refuseAt
  · exact inStep_pure trivial

theorem rename_joinLeft (ρ : String → String) (op : String) (es : List Ir.Expr) :
    (joinLeft op es).rename ρ = joinLeft op (Ir.renameList ρ es) := by
  cases es with
  | nil => rfl
  | cons first rest =>
    simp only [joinLeft, Ir.renameList]
    induction rest generalizing first with
    | nil => rfl
    | cons e rest ih => simp [ih, Ir.Expr.rename, Ir.renameList]

theorem inStep_exprs_of {es : List Source.Expr}
    (hes : ∀ e ∈ es, InStep d (Moved d) (expr r env e) (expr r' env' e.unplaced)) :
    InStep d (fun cs cs' => cs' = Ir.renameList (moved d) cs) (exprs r env es)
      (exprs r' env' (Source.unplacedExprs es)) := by
  induction es with
  | nil => exact inStep_pure rfl
  | cons e rest ih =>
    obtain ⟨he, hrest⟩ := List.forall_mem_cons.mp hes
    unfold exprs Source.unplacedExprs
    refine he.bind fun c c' hc => (ih hrest).bind fun cs cs' hcs => inStep_pure ?_
    rw [show c' = _ from hc, hcs, Ir.renameList]

mutual

/-- **Expressions are compiled in step.** -/
theorem inStep_expr (hr : r.Alike r') (henv : env.Alike env') :
    ∀ e : Source.Expr, InStep d (Moved d) (expr r env e) (expr r' env' e.unplaced)
  | .constant span value => by
    cases value with
    | literal v => exact inStep_pure rfl
    | _ => exact inStep_refuseAt
  | .name span id _ => inStep_name hr henv id
  | .attr span value member => by
    have hvalue := inStep_expr hr henv value
    have htype := hostType?_unplaced hr henv (.attr span value member)
    simp only [Source.Expr.unplaced] at htype ⊢
    unfold expr
    rw [htype]
    cases hostType? r env (.attr span value member) with
    | some T => exact inStep_pure rfl
    | none =>
      refine hvalue.bind fun c c' hc => inStep_pure ?_
      rw [show c' = _ from hc]
      rfl
  | .call span func args keywords => by
    have hargs := inStep_each hr henv args
    have hall := inStep_exprs_of hargs
    have hfunc := inStep_expr hr henv func
    simp only [Source.Expr.unplaced]
    unfold expr
    refine (inStep_checkArguments args keywords).bind fun _ _ _ => ?_
    rw [construct?_unplaced henv func]
    cases construct? env func with
    | none =>
      refine hfunc.bind fun f f' hf => hall.bind fun cs cs' hcs => inStep_pure ?_
      rw [show f' = _ from hf, hcs]
      rfl
    | some construct =>
      cases construct with
      | access =>
        refine (hall.and_ensures (ensures_exprs r env args)).bind ?_
        rintro cs _ ⟨rfl, hsource⟩
        exact Access.inStep_specialize hr henv hsource
      | cast =>
        match args, hargs with
        | [type, value], hargs =>
          refine (inStep_ofExcept (type.expectDotted_unplaced "type").symm).bind ?_
          rintro typeName _ rfl
          rw [← hr.ensure]
          refine inStep_ofRegistry.bind ?_
          rintro T _ rfl
          refine (hargs value (by simp)).bind fun c c' hc => inStep_pure ?_
          rw [show c' = _ from hc]
          rfl
        | [], _ => exact inStep_refuseAt
        | [_], _ => exact inStep_refuseAt
        | _ :: _ :: _ :: _, _ => exact inStep_refuseAt
  | .list _ items => by
    unfold expr Source.Expr.unplaced
    exact (inStep_exprs_of (inStep_each hr henv items)).bind fun cs cs' hcs =>
      inStep_pure (by rw [hcs]; rfl)
  | .tuple _ items => by
    unfold expr Source.Expr.unplaced
    exact (inStep_exprs_of (inStep_each hr henv items)).bind fun cs cs' hcs =>
      inStep_pure (by rw [hcs]; rfl)
  | .dict _ keys values => by
    unfold expr Source.Expr.unplaced
    refine (inStep_exprs_of (inStep_each hr henv keys)).bind fun ks ks' hks => ?_
    refine (inStep_exprs_of (inStep_each hr henv values)).bind fun vs vs' hvs => inStep_pure ?_
    rw [hks, hvs]
    rfl
  | .subscript span value index => by
    have hvalue := inStep_expr hr henv value
    have hindex := inStep_expr hr henv index
    simp only [Source.Expr.unplaced]
    unfold expr
    refine inStep_check (by rw [Source.Expr.hasForm_unplaced]) ?_
    refine hvalue.bind fun v v' hv => hindex.bind fun i i' hi => inStep_pure ?_
    rw [show v' = _ from hv, show i' = _ from hi]
    rfl
  | .binary span left op right => by
    have hleft := inStep_expr hr henv left
    have hright := inStep_expr hr henv right
    simp only [Source.Expr.unplaced]
    unfold expr
    cases op.sign? with
    | none => exact inStep_refuseAt
    | some sign =>
      refine hleft.bind fun l l' hl => hright.bind fun c c' hc => inStep_pure ?_
      rw [show l' = _ from hl, show c' = _ from hc]
      rfl
  | .connective _ op values => by
    unfold expr Source.Expr.unplaced
    refine (inStep_exprs_of (inStep_each hr henv values)).bind fun cs cs' hcs => inStep_pure ?_
    rw [Moved, rename_joinLeft, hcs]
  | .unary span op operand => by
    have hoperand := inStep_expr hr henv operand
    simp only [Source.Expr.unplaced]
    unfold expr
    cases op.sign? with
    | none => exact inStep_refuseAt
    | some sign =>
      refine hoperand.bind fun c c' hc => inStep_pure ?_
      rw [show c' = _ from hc]
      rfl
  | .compare span left ops comparators => by
    have hleft := inStep_expr hr henv left
    have hcomparators := inStep_each hr henv comparators
    simp only [Source.Expr.unplaced]
    unfold expr
    match ops, comparators, hcomparators with
    | [op], [right], hcomparators =>
      refine hleft.bind fun l l' hl => (hcomparators right (by simp)).bind fun c c' hc =>
        inStep_pure ?_
      rw [show l' = _ from hl, show c' = _ from hc]
      rfl
    | [], _, _ => exact inStep_refuseAt
    | [_], [], _ => exact inStep_refuseAt
    | [_], _ :: _ :: _, _ => exact inStep_refuseAt
    | _ :: _ :: _, _, _ => exact inStep_refuseAt
  | .ifExpr _ test body orelse => by
    have htest := inStep_expr hr henv test
    have hbody := inStep_expr hr henv body
    have horelse := inStep_expr hr henv orelse
    simp only [Source.Expr.unplaced]
    unfold expr
    refine htest.bind fun c c' hc => hbody.bind fun y y' hy => horelse.bind fun n n' hn =>
      inStep_pure ?_
    rw [show c' = _ from hc, show y' = _ from hy, show n' = _ from hn]
    rfl
  | .form span f _ => by
    cases f <;> exact inStep_refuseAt

theorem inStep_each (hr : r.Alike r') (henv : env.Alike env') :
    ∀ es : List Source.Expr, ∀ e ∈ es, InStep d (Moved d) (expr r env e) (expr r' env' e.unplaced)
  | [] => List.forall_mem_nil _
  | e :: rest => List.forall_mem_cons.mpr ⟨inStep_expr hr henv e, inStep_each hr henv rest⟩

end

theorem inStep_exprOption (hr : r.Alike r') (henv : env.Alike env') (e : Option Source.Expr) :
    InStep d (fun c c' => c' = c.map (Ir.Expr.rename (moved d))) (exprOption r env e)
      (exprOption r' env' (e.map Source.Expr.unplaced)) := by
  cases e with
  | none => exact inStep_pure rfl
  | some e =>
    refine (inStep_expr hr henv e).bind fun c c' hc => inStep_pure ?_
    rw [show c' = _ from hc]
    rfl

end Expressions

/-! ## Statements -/

section Statements

variable {d : Int} {r r' : Registry} {env env' : TypeEnv} {span span' : Source.Span}

/-- The code corresponds, and the environments after it are alike. -/
def StepMoved (d : Int) (p q : List Ir.Stmt × TypeEnv) : Prop :=
  BlockMoved d p.1 q.1 ∧ p.2.Alike q.2

theorem inStep_target (hr : r.Alike r') (henv : env.Alike env') (e : Source.Expr) :
    InStep d (Moved d) (target r env span e) (target r' env' span' e.unplaced) := by
  cases e with
  | name sp id use =>
    refine (inStep_checkName id).bind fun _ _ hsource => ?_
    refine inStep_ite (by rw [henv.isLocal hsource]) (inStep_pure ?_) inStep_refuseAt
    simp [Moved, Ir.Expr.rename, moved_of_source hsource]
  | attr sp value member =>
    refine (inStep_expr hr henv value).bind fun c c' hc => inStep_pure ?_
    rw [show c' = _ from hc]
    rfl
  | subscript sp value index =>
    refine inStep_check (by rw [Source.Expr.hasForm_unplaced]) ?_
    refine (inStep_expr hr henv value).bind fun v v' hv => ?_
    refine (inStep_expr hr henv index).bind fun i i' hi => inStep_pure ?_
    rw [show v' = _ from hv, show i' = _ from hi]
    rfl
  | _ => exact inStep_refuseAt

theorem inStep_assign (hr : r.Alike r') (henv : env.Alike env') (targets : List Source.Expr)
    (value : Source.Expr) :
    InStep d (StepMoved d) (assign r env span targets value)
      (assign r' env' span' (Source.unplacedExprs targets) value.unplaced) := by
  have hvalue := (inStep_expr (d := d) hr henv value).and_ensures (ensures_expr r env value)
  match targets with
  | [] => exact inStep_refuseAt
  | e :: _ :: _ => cases e <;> exact inStep_refuseAt
  | [e] =>
    have hplace : InStep d (StepMoved d)
        (do
          let value ← expr r env value
          return ([.assign (← target r env span e) value], env))
        (do
          let value ← expr r' env' value.unplaced
          return ([.assign (← target r' env' span' e.unplaced) value], env')) := by
      refine hvalue.bind ?_
      rintro c _ ⟨rfl, -⟩
      refine (inStep_target hr henv e).bind ?_
      rintro p _ rfl
      exact inStep_pure ⟨rfl, henv⟩
    cases e with
    | name sp id use =>
      refine hvalue.bind ?_
      rintro c _ ⟨rfl, hc⟩
      refine (inStep_checkName id).bind fun _ _ hsource => inStep_pure ⟨?_, ?_⟩
      · simp [BlockMoved, Ir.renameBlock, Ir.Stmt.rename, Ir.Expr.rename, moved_of_source hsource]
      · rw [resolve_rename hr henv d hc, ← henv.declared id hsource]
        split_ifs
        · exact henv
        · exact henv.bind id _
    | _ => exact hplace

theorem inStep_annAssign (hr : r.Alike r') (henv : env.Alike env') (t annot : Source.Expr)
    (value : Option Source.Expr) :
    InStep d (StepMoved d) (annAssign r env span t annot value)
      (annAssign r' env' span' t.unplaced annot.unplaced (value.map Source.Expr.unplaced)) := by
  cases t with
  | name sp id use =>
    refine (inStep_checkName id).bind fun _ _ hsource => ?_
    refine (inStep_annotType hr (some annot)).bind ?_
    rintro T _ rfl
    refine inStep_check (by rw [henv.declared id hsource, henv.declaredType hsource]) ?_
    refine (inStep_exprOption hr henv value).bind ?_
    rintro c _ rfl
    refine inStep_pure ⟨?_, ?_⟩
    · cases c with
      | none => rfl
      | some c =>
        simp [BlockMoved, Ir.renameBlock, Ir.Stmt.rename, Ir.Expr.rename, moved_of_source hsource]
    · dsimp only
      split_ifs
      · exact henv.bind id _
      · exact henv.declare id _
  | _ => exact inStep_refuseAt

theorem inStep_augAssign (hr : r.Alike r') (henv : env.Alike env') (t : Source.Expr)
    (op : Source.BinaryOp) (value : Source.Expr) :
    InStep d (StepMoved d) (augAssign r env span t op value)
      (augAssign r' env' span' t.unplaced op value.unplaced) := by
  unfold augAssign
  cases op.sign? with
  | none => exact inStep_refuseAt
  | some sign =>
    refine ((inStep_target hr henv t).and_ensures (ensures_target span t)).bind ?_
    rintro c _ ⟨rfl, hc⟩
    refine (inStep_expr hr henv value).bind ?_
    rintro v _ rfl
    refine inStep_pure ⟨rfl, ?_⟩
    cases c with
    | var id =>
      obtain ⟨hsource, -⟩ := hc id rfl
      simp only [Ir.Expr.rename, moved_of_source hsource]
      exact henv.forget [id]
    | _ => exact henv

theorem inStep_typeHead (heads : Heads) (pattern : Source.Pattern) (capture : Option String) :
    InStep d Eq (typeHead heads span pattern capture)
      (typeHead heads span' pattern.unplaced capture) := by
  cases pattern with
  | ofClass sp cls patterns keywords =>
    match patterns, keywords with
    | [], [] =>
      refine (inStep_ofExcept (cls.expectDotted_unplaced "type").symm).bind ?_
      rintro designator _ rfl
      cases capture with
      | none => exact inStep_pure rfl
      | some id =>
        dsimp only
        cases heads.capture with
        | none => exact (inStep_checkName id).bind fun _ _ _ => inStep_pure rfl
        | some first =>
          exact (inStep_checkName id).bind fun _ _ _ => inStep_check Iff.rfl (inStep_pure rfl)
    | _ :: _, _ => exact inStep_refuseAt
    | [], _ :: _ => exact inStep_refuseAt
  | _ => exact inStep_refuseAt

theorem inStep_caseHead (heads : Heads) (isLast : Bool) (pattern : Source.Pattern)
    (guard : Option Source.Expr) :
    InStep d Eq (caseHead heads isLast pattern guard)
      (caseHead heads isLast pattern.unplaced (guard.map Source.Expr.unplaced)) := by
  refine inStep_check (by rw [Option.isSome_map]) ?_
  cases pattern with
  | capture sp name => exact inStep_refuseAt
  | wildcard sp => exact inStep_check Iff.rfl (inStep_pure rfl)
  | bound sp inner id => exact inStep_typeHead heads inner (some id)
  | value sp v => exact inStep_typeHead heads (.value sp v) none
  | singleton sp => exact inStep_typeHead heads (.singleton sp) none
  | sequence sp ps => exact inStep_typeHead heads (.sequence sp ps) none
  | mapping sp ks ps => exact inStep_typeHead heads (.mapping sp ks ps) none
  | ofClass sp cls ps ks => exact inStep_typeHead heads (.ofClass sp cls ps ks) none
  | star sp => exact inStep_typeHead heads (.star sp) none
  | either sp ps => exact inStep_typeHead heads (.either sp ps) none

theorem inStep_caseHeads (cases : List Source.Case) (heads : Heads) :
    InStep d Eq (caseHeads heads cases) (caseHeads heads (Source.unplacedCases cases)) := by
  induction cases generalizing heads with
  | nil => exact inStep_pure rfl
  | cons c rest ih =>
    obtain ⟨pattern, guard, body⟩ := c
    have hempty : (Source.unplacedCases rest).isEmpty = rest.isEmpty := by cases rest <;> rfl
    simp only [Source.unplacedCases, Source.Case.unplaced, caseHeads, hempty]
    refine (inStep_caseHead heads _ pattern guard).bind ?_
    rintro heads' _ rfl
    exact ih heads'

/-- The names that hold the subject of a match: one captured name, or the next generated ones. -/
def Subjects (d : Int) (heads : Heads) (bind bind' : String) : Prop :=
  (heads.capture = some bind ∧ bind' = bind) ∨ Next d "cast" bind bind'

theorem inStep_subjectName (heads : Heads) :
    InStep d (Subjects d heads) (subjectName heads) (subjectName heads) := by
  unfold subjectName
  cases hcapture : heads.capture with
  | some id => exact inStep_pure (.inl ⟨hcapture, rfl⟩)
  | none => exact (inStep_fresh "cast").mono fun _ _ => .inr

namespace Subjects

variable {heads : Heads} {bind bind' : String}

theorem eq_moved (h : Subjects d heads bind bind')
    (hcapture : ∀ x ∈ heads.capture, isGenerated x = false) : bind' = moved d bind := by
  rcases h with ⟨hbind, rfl⟩ | hnext
  · exact (moved_of_source (hcapture bind' hbind) d).symm
  · exact hnext.eq_moved (by simp [stems])

theorem alike_bind (h : Subjects d heads bind bind') (henv : env.Alike env')
    (T : Option HostType) : (env.bind bind T).Alike (env'.bind bind' T) := by
  rcases h with ⟨-, rfl⟩ | hnext
  · exact henv.bind bind' T
  · exact henv.bind_generated hnext.isGenerated.1 hnext.isGenerated.2 T T

/-- A generated name that is declared or not makes no difference. -/
theorem alike_afterMatch (h : Subjects d heads bind bind')
    (hcapture : ∀ x ∈ heads.capture, isGenerated x = false) (henv : env.Alike env')
    (cases : List Source.Case) :
    (afterMatch env cases bind).Alike (afterMatch env' (Source.unplacedCases cases) bind') := by
  have hforget := henv.forget (Source.boundInCases cases)
  simp only [afterMatch, Source.boundInCases_unplaced]
  rcases h with ⟨hbind, rfl⟩ | hnext
  · rw [hforget.declared bind' (hcapture bind' hbind)]
    split_ifs
    · exact hforget
    · exact hforget.bind bind' none
  · obtain ⟨hgen, hgen'⟩ := hnext.isGenerated
    split_ifs
    · exact hforget
    · exact (hforget.symm.bind_left hgen' none).symm
    · exact hforget.bind_left hgen none
    · exact hforget.bind_generated hgen hgen' none none

/-- Whether the subject already has its name. -/
theorem isVar_rename (h : Subjects d heads bind bind') {value : Ir.Expr}
    (hvalue : ReadsSource value) :
    (value.rename (moved d)).isVar bind' = value.isVar bind := by
  cases value with
  | var x =>
    have hx : isGenerated x = false := hvalue
    rw [Bool.eq_iff_iff, Ir.Expr.isVar_iff, Ir.Expr.isVar_iff]
    simp only [Ir.Expr.rename, Ir.Expr.var.injEq]
    rcases h with ⟨hbind, rfl⟩ | hnext
    · rw [moved_of_source hx]
    · exact hnext.moved_eq_iff (by simp [stems])
  | _ => rfl

end Subjects

/-- Branches of a match that correspond in alike environments. -/
def CasesInStep (d : Int)
    (pair : Branch CompileM (List Ir.Stmt) × Branch CompileM (List Ir.Stmt)) : Prop :=
  ∀ env env', env.Alike env' → InStep d (BlockMoved d) (pair.1 env) (pair.2 env')

theorem inStep_lowerStmt (henv : env.Alike env') {heads : Heads}
    (hcapture : ∀ x ∈ heads.capture, isGenerated x = false) {bind bind' : String}
    (hbind : Subjects d heads bind bind') {value : Ir.Expr} (hvalue : ReadsSource value)
    {default : Option (Branch CompileM (List Ir.Stmt) × Branch CompileM (List Ir.Stmt))}
    (hdefault : ∀ p ∈ default, CasesInStep d p)
    {plan : Plan (Branch CompileM (List Ir.Stmt) × Branch CompileM (List Ir.Stmt))}
    (hplan : ∀ c ∈ plan.clauses, CasesInStep d c.branch) :
    InStep d (BlockMoved d)
      (Dispatch.lowerStmt bind env value (default.map Prod.fst) (plan.map Prod.fst))
      (Dispatch.lowerStmt bind' env' (value.rename (moved d)) (default.map Prod.snd)
        (plan.map Prod.snd)) := by
  have hmoved := hbind.eq_moved hcapture
  unfold Dispatch.lowerStmt
  refine InStep.bind (R := BlockMoved d) (inStep_body (by rfl) ?_ default
    (fun p hp T => hdefault p hp _ _ (hbind.alike_bind henv T))
    fun c hc T => hplan c hc _ _ (hbind.alike_bind henv T)) ?_
  · intro final final' bs bs' hfinal hbs
    rw [hmoved]
    exact moved_stmtChain hfinal hbs
  · rintro code _ rfl
    rw [hbind.isVar_rename hvalue]
    refine inStep_pure ?_
    split_ifs
    · rfl
    · simp [BlockMoved, Ir.renameBlock, Ir.Stmt.rename, Ir.Expr.rename, hmoved]

theorem inStep_dispatch (hr : r.Alike r') (henv : env.Alike env') (subject : Source.Expr)
    (cases : List Source.Case)
    {pairs : List (Branch CompileM (List Ir.Stmt) × Branch CompileM (List Ir.Stmt))}
    (hpairs : ∀ p ∈ pairs, CasesInStep d p) :
    InStep d (StepMoved d) (dispatch r env span subject cases (pairs.map Prod.fst))
      (dispatch r' env' span' subject.unplaced (Source.unplacedCases cases)
        (pairs.map Prod.snd)) := by
  rw [dispatch_eq, dispatch_eq]
  refine ((inStep_expr hr henv subject).and_ensures (ensures_expr r env subject)).bind ?_
  rintro value _ ⟨rfl, hvalue⟩
  refine ((inStep_caseHeads cases {}).and_ensures (ensures_caseHeads cases {})).bind ?_
  rintro heads _ ⟨rfl, hheads⟩
  have hcapture : ∀ x ∈ heads.capture, isGenerated x = false := by
    intro x hx
    obtain ⟨-, hsource⟩ : x ∈ Source.boundInCases cases ∧ isGenerated x = false := by
      simpa using hheads x hx
    exact hsource
  refine (inStep_subjectName heads).bind fun bind bind' hbind => ?_
  have hbindType : heads.capture.bind env'.declaredType = heads.capture.bind env.declaredType := by
    cases hcap : heads.capture with
    | none => rfl
    | some id => exact (henv.declaredType (hcapture id hcap)).symm
  have hzip (f : Branch CompileM (List Ir.Stmt) × Branch CompileM (List Ir.Stmt) →
      Branch CompileM (List Ir.Stmt)) :
      heads.designators.zip (pairs.map f) =
        (heads.designators.zip pairs).map fun c => (c.1, f c.2) := by
    rw [List.zip_map_right]
    rfl
  rw [hbindType, hzip Prod.fst, hzip Prod.snd]
  refine (inStep_plan hr _ _ _ (resolve_rename hr henv d hvalue) _).bind ?_
  rintro _ _ ⟨plan, rfl, rfl, hclauses⟩
  refine (inStep_record _ _).bind fun _ _ _ => ?_
  have hdefault (f : Branch CompileM (List Ir.Stmt) × Branch CompileM (List Ir.Stmt) →
      Branch CompileM (List Ir.Stmt)) :
      (if heads.hasDefault then (pairs.map f).getLast? else none) =
        (if heads.hasDefault then pairs.getLast? else none).map f := by
    split_ifs
    · exact List.getLast?_map
    · rfl
  rw [hdefault Prod.fst, hdefault Prod.snd]
  refine (inStep_lowerStmt henv hcapture hbind hvalue (fun p hp => ?_) fun c hc => ?_).bind ?_
  · split_ifs at hp
    · exact hpairs p (List.mem_of_getLast? hp)
    · simp at hp
  · obtain ⟨designator, hmem⟩ := hclauses c hc
    exact hpairs c.branch (List.of_mem_zip hmem).2
  · intro code code' hcode
    exact inStep_pure ⟨hcode, hbind.alike_afterMatch hcapture henv cases⟩

end Statements

mutual

theorem inStep_stmt {d : Int} {r r' : Registry} (hr : r.Alike r') : ∀ (s : Source.Stmt)
    (inLoop : Bool) {env env' : TypeEnv}, env.Alike env' →
    InStep d (StepMoved d) (stmt r s inLoop env) (stmt r' s.unplaced inLoop env')
  | .assign span targets value, _, _, _, henv => inStep_assign hr henv targets value
  | .annAssign span t annot value, _, _, _, henv => inStep_annAssign hr henv t annot value
  | .augAssign span t op value, _, _, _, henv => inStep_augAssign hr henv t op value
  | .expr span value, _, _, _, henv => by
    have hvalue := inStep_expr (d := d) hr henv value
    simp only [Source.Stmt.unplaced]
    unfold stmt
    refine inStep_ite (by rw [Source.Expr.text?_unplaced]) (inStep_pure ⟨rfl, henv⟩) ?_
    cases value with
    | call sp func args keywords =>
      refine hvalue.bind ?_
      rintro c _ rfl
      exact inStep_pure ⟨rfl, henv⟩
    | _ => exact inStep_refuseAt
  | .ifElse span test body orelse, inLoop, _, _, henv => by
    have hbody := inStep_block (d := d) hr body inLoop henv
    have horelse := inStep_block (d := d) hr orelse inLoop henv
    simp only [Source.Stmt.unplaced]
    unfold stmt
    refine (inStep_expr hr henv test).bind ?_
    rintro c _ rfl
    refine hbody.bind ?_
    rintro ⟨b, bodyEnv⟩ ⟨_, bodyEnv'⟩ ⟨rfl, hbodyEnv⟩
    refine horelse.bind ?_
    rintro ⟨o, orelseEnv⟩ ⟨_, orelseEnv'⟩ ⟨rfl, horelseEnv⟩
    exact inStep_pure ⟨rfl, henv.merge hbodyEnv horelseEnv⟩
  | .whileDo span test body orelse, _, env, env', henv => by
    have hempty : (Source.unplacedBlock orelse).isEmpty = orelse.isEmpty := by cases orelse <;> rfl
    have hloop := henv.forget (Source.boundNames body)
    have hbody := inStep_block (d := d) hr body true hloop
    simp only [Source.Stmt.unplaced]
    unfold stmt
    refine inStep_check (by rw [hempty]) ?_
    simp only [Source.boundNames_unplaced]
    refine (inStep_expr hr hloop test).bind ?_
    rintro c _ rfl
    refine hbody.bind ?_
    rintro ⟨b, bodyEnv⟩ ⟨_, bodyEnv'⟩ ⟨rfl, hbodyEnv⟩
    exact inStep_pure ⟨rfl, hloop.merge hloop hbodyEnv⟩
  | .forIn span t iter body orelse, _, env, env', henv => by
    have hempty : (Source.unplacedBlock orelse).isEmpty = orelse.isEmpty := by cases orelse <;> rfl
    have hforget := henv.forget (Source.boundNames body)
    have hbody {e e' : TypeEnv} (he : e.Alike e') :=
      inStep_block (d := d) hr body true he
    simp only [Source.Stmt.unplaced]
    unfold stmt
    refine inStep_check (by rw [hempty]) ?_
    cases t with
    | name sp id use =>
      refine (inStep_checkName id).bind fun _ _ hsource => ?_
      refine (inStep_expr hr henv iter).bind ?_
      rintro c _ rfl
      have hloop : (if (env.forget (Source.boundNames body)).isDeclared id then
            env.forget (Source.boundNames body)
          else (env.forget (Source.boundNames body)).bind id none).Alike
          (if (env'.forget (Source.boundNames body)).isDeclared id then
            env'.forget (Source.boundNames body)
          else (env'.forget (Source.boundNames body)).bind id none) := by
        rw [hforget.declared id hsource]
        split_ifs
        · exact hforget
        · exact hforget.bind id none
      simp only [Source.boundNames_unplaced]
      refine (hbody hloop).bind ?_
      rintro ⟨b, bodyEnv⟩ ⟨_, bodyEnv'⟩ ⟨rfl, hbodyEnv⟩
      refine inStep_pure ⟨?_, hloop.merge hloop hbodyEnv⟩
      simp [BlockMoved, Ir.renameBlock, Ir.Stmt.rename, moved_of_source hsource]
    | _ => exact inStep_refuseAt
  | .matchOn span subject cases, inLoop, _, _, henv => by
    obtain ⟨pairs, hfst, hsnd, hpairs⟩ := inStep_builders (d := d) hr cases inLoop
    simp only [Source.Stmt.unplaced]
    unfold stmt
    rw [hfst, hsnd]
    exact inStep_dispatch hr henv subject cases hpairs
  | .ret _ value, _, _, _, henv => by
    unfold stmt Source.Stmt.unplaced
    refine (inStep_exprOption hr henv value).bind ?_
    rintro c _ rfl
    exact inStep_pure ⟨rfl, henv⟩
  | .brk span, _, _, _, henv => by
    unfold stmt Source.Stmt.unplaced
    exact inStep_ite Iff.rfl (inStep_pure ⟨rfl, henv⟩) inStep_refuseAt
  | .cont span, _, _, _, henv => by
    unfold stmt Source.Stmt.unplaced
    exact inStep_ite Iff.rfl (inStep_pure ⟨rfl, henv⟩) inStep_refuseAt
  | .pass _, _, _, _, henv => inStep_pure ⟨rfl, henv⟩
  | .functionDef .., _, _, _, _ => inStep_refuseAt
  | .classDef .., _, _, _, _ => inStep_refuseAt
  | .form .., _, _, _, _ => inStep_refuseAt

/-- **Blocks are compiled in step.** -/
theorem inStep_block {d : Int} {r r' : Registry} (hr : r.Alike r') : ∀ (stmts : List Source.Stmt)
    (inLoop : Bool) {env env' : TypeEnv}, env.Alike env' →
    InStep d (StepMoved d) (block r stmts inLoop env)
      (block r' (Source.unplacedBlock stmts) inLoop env')
  | [], _, _, _, henv => inStep_pure ⟨rfl, henv⟩
  | s :: rest, inLoop, _, _, henv => by
    have hs := inStep_stmt (d := d) hr s inLoop henv
    have hrest {e e' : TypeEnv} (he : e.Alike e') :=
      inStep_block (d := d) hr rest inLoop he
    unfold block Source.unplacedBlock
    refine hs.bind ?_
    rintro ⟨first, env₁⟩ ⟨_, env₁'⟩ ⟨rfl, henv₁⟩
    refine (hrest henv₁).bind ?_
    rintro ⟨code, env₂⟩ ⟨_, env₂'⟩ ⟨rfl, henv₂⟩
    exact inStep_pure ⟨(Ir.renameBlock_append ..).symm, henv₂⟩

theorem inStep_builders {d : Int} {r r' : Registry} (hr : r.Alike r') :
    ∀ (cases : List Source.Case) (inLoop : Bool),
    ∃ pairs : List (Branch CompileM (List Ir.Stmt) × Branch CompileM (List Ir.Stmt)),
      builders r cases inLoop = pairs.map Prod.fst ∧
      builders r' (Source.unplacedCases cases) inLoop = pairs.map Prod.snd ∧
      ∀ p ∈ pairs, CasesInStep d p
  | [], _ => ⟨[], rfl, rfl, by simp⟩
  | .mk pattern guard body :: rest, inLoop => by
    obtain ⟨pairs, hfst, hsnd, hpairs⟩ := inStep_builders (d := d) hr rest inLoop
    have hbody {e e' : TypeEnv} (he : e.Alike e') :=
      inStep_block (d := d) hr body inLoop he
    simp only [builders, Source.unplacedCases, Source.Case.unplaced, hfst, hsnd]
    refine ⟨(_, _) :: pairs, rfl, rfl, List.forall_mem_cons.mpr ⟨fun env env' henv => ?_, hpairs⟩⟩
    refine (hbody henv).bind ?_
    rintro ⟨code, env₁⟩ ⟨_, env₁'⟩ ⟨rfl, -⟩
    exact inStep_pure rfl

end

end Compile

end Componentry
