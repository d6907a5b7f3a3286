import Componentry.Proofs.BlankTexts
import Componentry.Proofs.FirstPass
import Componentry.Proofs.InStepCode
import Componentry.Proofs.Refusals
import Componentry.Proofs.Visits

/-!
# Annotations that clash

An annotated assignment is refused if its name is declared and the annotation does not give the type
that is held for the name. A compilation that is refused for this reason has come to such an
assignment.

**Theorem (`refuses_block_iff`).** Compiling a body is refused for an annotation of a name exactly
if it comes to a point where an annotation of that name clashes.

**Theorem (`refuses_source_iff`).** A source is refused for an annotation of a name exactly if the
compilation begins a function or a method and is refused for the annotation in its body.
-/

namespace Componentry

open CompileM

/-! ## Plans and their arms -/

theorem planDispatch_map_eq {α β : Type} (r : Registry) (env : TypeEnv) (value : Ir.Expr)
    (bindType : Option HostType) (f : α → β) (clauses : List (String × α)) :
    planDispatch r env value bindType (clauses.map fun c => (c.1, f c.2)) =
      (planDispatch r env value bindType clauses).map (Plan.map f) := by
  rw [planDispatch, planDispatch, resolveClauses_map_eq]
  cases resolveClauses r clauses with
  | error e => rfl
  | ok cs => exact congrArg Except.ok (Plan.make_map r _ f cs)

theorem Plan.arms_map {α β : Type} (f : α → β) (default : Option α) (plan : Plan α) :
    (plan.map f).arms (default.map f) = (plan.arms default).map fun a => (a.1, f a.2) := by
  have hdefault (T : Option HostType) : (default.map f).toList.map (T, ·) =
      (default.toList.map (T, ·)).map fun a => (a.1, f a.2) := by
    cases default <;> rfl
  cases plan <;> simp [Plan.map, Plan.arms, hdefault, Clause.map, Function.comp_def]

section Arms

variable {α β γ : Type} {t : Trace} {c : Cause}

theorem refuses_mapM_append {g : γ → CompileM α} {ks ls : List γ} :
    Refuses ((ks ++ ls).mapM g) t c ↔
      Refuses (ks.mapM g) t c ∨ ∃ as t', Yields (ks.mapM g) t as t' ∧ Refuses (ls.mapM g) t' c := by
  simp [List.mapM_append]

/-- Rows of computations are refused alike if their members are refused and end alike. -/
theorem refuses_mapM_congr {g : γ → CompileM α} {g' : γ → CompileM β}
    (hrefuses : ∀ k t, Refuses (g k) t c ↔ Refuses (g' k) t c)
    (hends : ∀ k t t', (∃ a, Yields (g k) t a t') ↔ ∃ b, Yields (g' k) t b t') (ks : List γ) :
    Refuses (ks.mapM g) t c ↔ Refuses (ks.mapM g') t c := by
  induction ks generalizing t with
  | nil => simp
  | cons k rest ih =>
    simp only [List.mapM_cons, refuses_bind, refuses_pure, and_false, exists_false, or_false,
      hrefuses, ih]
    refine or_congr_right ⟨?_, ?_⟩
    · rintro ⟨a, t₁, ha, h⟩
      obtain ⟨b, hb⟩ := (hends k t t₁).mp ⟨a, ha⟩
      exact ⟨b, t₁, hb, h⟩
    · rintro ⟨b, t₁, hb, h⟩
      obtain ⟨a, ha⟩ := (hends k t t₁).mpr ⟨b, hb⟩
      exact ⟨a, t₁, ha, h⟩

/-- A dispatch is refused exactly if one of its arms is, built after those before it. -/
theorem refuses_lowerStmt {bind : String} {env : TypeEnv} {value : Ir.Expr}
    {default : Option (Branch CompileM (List Ir.Stmt))}
    {plan : Plan (Branch CompileM (List Ir.Stmt))} :
    Refuses (Dispatch.lowerStmt bind env value default plan) t c ↔
      Refuses ((plan.arms default).mapM fun a => a.2 (env.bind bind a.1)) t c := by
  have hfinal (T : Option HostType) (t : Trace) :
      (Refuses (Dispatch.buildDefault bind env T [] default) t c ↔
        Refuses ((default.toList.map (T, ·)).mapM fun a => a.2 (env.bind bind a.1)) t c) ∧
      ∀ t', (∃ a, Yields (Dispatch.buildDefault bind env T [] default) t a t') ↔
        ∃ as, Yields ((default.toList.map (T, ·)).mapM
          fun a => a.2 (env.bind bind a.1)) t as t' := by
    cases default with
    | none => simp [Dispatch.buildDefault]
    | some d => simp [Dispatch.buildDefault]
  have hall (cs : List (Clause (Branch CompileM (List Ir.Stmt)))) (t : Trace) :
      Refuses (Dispatch.buildAll bind env cs) t c ↔
        Refuses ((cs.map fun c => (some c.type, c.branch)).mapM
          fun a => a.2 (env.bind bind a.1)) t c := by
    induction cs generalizing t with
    | nil => simp [Dispatch.buildAll]
    | cons k rest ih =>
      simp only [Dispatch.buildAll, List.map_cons, List.mapM_cons, refuses_bind, refuses_pure,
        and_false, exists_false, or_false, ih]
  have hchain (T : Option HostType) (cs : List (Clause (Branch CompileM (List Ir.Stmt)))) :
      Refuses (do
        let final ← Dispatch.buildDefault bind env T [] default
        return Dispatch.stmtChain bind final (← Dispatch.buildAll bind env cs)) t c ↔
      Refuses ((default.toList.map (T, ·) ++ cs.map fun c => (some c.type, c.branch)).mapM
        fun a => a.2 (env.bind bind a.1)) t c := by
    rw [refuses_mapM_append]
    simp only [refuses_bind, refuses_pure, and_false, exists_false, or_false, (hfinal T t).1, hall]
    refine or_congr_right ⟨?_, ?_⟩
    · rintro ⟨a, t₁, ha, h⟩
      obtain ⟨as, has⟩ := ((hfinal T t).2 t₁).mp ⟨a, ha⟩
      exact ⟨as, t₁, has, h⟩
    · rintro ⟨as, t₁, has, h⟩
      obtain ⟨a, ha⟩ := ((hfinal T t).2 t₁).mpr ⟨as, has⟩
      exact ⟨a, t₁, ha, h⟩
  have hbody : Refuses (Dispatch.lowerStmt bind env value default plan) t c ↔
      Refuses (Dispatch.body bind env [] (Dispatch.stmtChain bind) default plan) t c := by
    simp [Dispatch.lowerStmt]
  rw [hbody]
  cases plan with
  | exact T k => simp [Dispatch.body, Plan.arms]
  | fallback T => exact (hfinal (some T) t).1
  | pruned T cs => exact hchain (some T) cs
  | full cs => exact hchain none cs

end Arms

namespace Compile

/-! ## Points where annotations clash -/

/-- An annotated assignment of the name comes next, and the name may be defined. -/
def Annotating (r : Registry) (x : String) (type : Option HostType) (q : Point) : Prop :=
  MayDefine x ∧ ∃ span sp use annot value rest,
    q.stmts = .annAssign span (.name sp x use) annot value :: rest ∧ annotated r annot = some type

/-- An annotation of the name comes next that does not give the type that is held for it. -/
def Clashes (r : Registry) (x : String) (q : Point) : Prop :=
  ∃ type, Annotating r x type q ∧ q.env.isDeclared x = true ∧ q.env.localType x ≠ type

section Bodies

variable {r : Registry} {x : String} {p q q' : Point} {ns ns' : List (String × Option HostType)}

theorem Visits.trans (h : Visits r p ns q) (h' : Visits r q ns' q') :
    Visits r p (ns' ++ ns) q' := by
  induction h' with
  | start => exact h
  | step _ hleads ih =>
    rw [List.append_assoc]
    exact ih.step hleads

/-- Compiling an annotated assignment is refused exactly if it clashes. -/
theorem refuses_annAssign_iff {env : TypeEnv} {t : Trace} {span : Source.Span}
    {target annot : Source.Expr} {value : Option Source.Expr} (inLoop : Bool)
    (rest : List Source.Stmt) :
    Refuses (annAssign r env span target annot value) t (.conflictingAnnot x) ↔
      Clashes r x ⟨.annAssign span target annot value :: rest, inLoop, env, t⟩ := by
  unfold annAssign
  cases target with
  | name sp id use =>
    simp only [refuses_bind, yields_checkName_iff, yields_annotType_iff]
    simp only [(spares_checkName span id).not_refuses, (spares_annotType r span _).not_refuses,
      (spares_exprOption r env value).not_refuses, refuses_check, refuses_bind, refuses_pure,
      false_or, and_false, exists_false, or_false]
    constructor
    · rintro ⟨_, t₁, ⟨hdefine, rfl⟩, type, t₂, ⟨hannot, rfl⟩, hclash, heq⟩
      obtain rfl : id = x := Cause.conflictingAnnot.inj heq
      have hd : env.isDeclared id = true := by simp_all
      refine ⟨type, ⟨hdefine, span, sp, use, annot, value, rest, rfl, hannot⟩, hd, ?_⟩
      simpa [hd, TypeEnv.declaredType] using hclash
    · rintro ⟨type, ⟨hdefine, _, _, _, _, _, _, heq, hannot⟩, hd, hne⟩
      obtain ⟨⟨rfl, ⟨rfl, rfl, rfl⟩, rfl, rfl⟩, rfl⟩ := by simpa using heq
      refine ⟨(), t, ⟨hdefine, rfl⟩, type, t, ⟨hannot, rfl⟩, ?_, rfl⟩
      have hd : env.isDeclared id = true := hd
      simpa [hd, TypeEnv.declaredType] using hne
  | _ =>
    simp only [refuses_refuseAt]
    refine iff_of_false (by simp) ?_
    rintro ⟨_, ⟨-, _, _, _, _, _, _, heq, -⟩, -⟩
    simp at heq

/-- The branch that compiles a body. -/
def branchOf (r : Registry) (inLoop : Bool) (body : List Source.Stmt) :
    Branch CompileM (List Ir.Stmt) := fun env => Prod.fst <$> block r body inLoop env

theorem builders_eq (r : Registry) (cases : List Source.Case) (inLoop : Bool) :
    builders r cases inLoop = (cases.map (·.body)).map (branchOf r inLoop) := by
  induction cases with
  | nil => rfl
  | cons c rest ih =>
    obtain ⟨pattern, guard, body⟩ := c
    rw [builders, ih]
    refine congrArg (· :: _) (funext fun env => ?_)
    simp only [branchOf, map_eq_pure_bind]
    rfl

/-- A match is refused for an annotation exactly if one of its arms is. -/
theorem refuses_matchOn_iff {env : TypeEnv} {t : Trace} {span : Source.Span} {subject : Source.Expr}
    {cases : List Source.Case} {inLoop : Bool} (rest : List Source.Stmt) :
    Refuses (stmt r (.matchOn span subject cases) inLoop env) t (.conflictingAnnot x) ↔
      ∃ label q, Leads r ⟨.matchOn span subject cases :: rest, inLoop, env, t⟩ (some label) q ∧
        Refuses (block r q.stmts q.inLoop q.env) q.trace (.conflictingAnnot x) := by
  have harms {bind : String} {t : Trace} (arms : List (Option HostType × List Source.Stmt)) :
      Refuses ((arms.map fun a => (a.1, branchOf r inLoop a.2)).mapM
        fun a => a.2 (env.bind bind a.1)) t (.conflictingAnnot x) ↔
      Refuses (arms.mapM fun a => block r a.2 inLoop (env.bind bind a.1)) t
        (.conflictingAnnot x) := by
    rw [List.mapM_map]
    refine refuses_mapM_congr (fun a t => ?_) (fun a t t' => ?_) arms
    · exact refuses_map
    · simp [branchOf]
  have hplan {value : Ir.Expr} {bindType : Option HostType} {designators : List String}
      {plan : Plan (Branch CompileM (List Ir.Stmt))} :
      planDispatch r env value bindType
          (designators.zip ((cases.map (·.body)).map (branchOf r inLoop))) = .ok plan ↔
        ∃ bodies, planDispatch r env value bindType (designators.zip (cases.map (·.body))) =
          .ok bodies ∧ bodies.map (branchOf r inLoop) = plan := by
    rw [List.zip_map_right]
    refine (Eq.congr_left (planDispatch_map_eq r env value bindType (branchOf r inLoop) _)).trans ?_
    cases planDispatch r env value bindType (designators.zip (cases.map (·.body))) <;>
      simp [Except.map]
  have hdefault (hasDefault : Bool) :
      (if hasDefault then ((cases.map (·.body)).map (branchOf r inLoop)).getLast? else none) =
        (if hasDefault then (cases.map (·.body)).getLast? else none).map (branchOf r inLoop) := by
    cases hasDefault
    · rfl
    · exact List.getLast?_map
  unfold stmt
  rw [dispatch_eq, builders_eq, (spares_expr r env subject).refuses_bind_iff]
  simp only [(spares_caseHeads cases {}).refuses_bind_iff, (spares_subjectName _).refuses_bind_iff,
    spares_ofRegistry.refuses_bind_iff, (spares_record _).refuses_bind_iff, hdefault, hplan,
    yields_ofRegistry, refuses_bind, refuses_lowerStmt, refuses_pure, and_false, exists_false,
    or_false]
  constructor
  · rintro ⟨value, t₁, hvalue, heads, t₂, hheads, bind, t₃, hbind, _, _,
      ⟨⟨bodies, hbodies, rfl⟩, rfl⟩, _, t₄, hrecord, h⟩
    rw [Plan.arms_map, harms] at h
    obtain ⟨before, ⟨T, body⟩, after, codes, t', hsplit, hbefore, h⟩ := refuses_mapM.mp h
    rw [Plan.staticType_map] at hrecord
    exact ⟨(bind, T), _, .arm hvalue hheads hbind hbodies hrecord hsplit hbefore, h⟩
  · rintro ⟨⟨bind, T⟩, q, hleads, h⟩
    cases hleads with
    | arm hvalue hheads hbind hbodies hrecord hsplit hbefore =>
      rw [← Plan.staticType_map (branchOf r inLoop)] at hrecord
      refine ⟨_, _, hvalue, _, _, hheads, _, _, hbind, _, _, ⟨⟨_, hbodies, rfl⟩, rfl⟩, _, _,
        hrecord, ?_⟩
      rw [Plan.arms_map, harms, hsplit]
      exact refuses_mapM.mpr ⟨_, _, _, _, _, rfl, hbefore, h⟩

/-! ## One step -/

/-- A refusal of the block in which a step ends is one of the block in which it starts. -/
theorem Leads.refuses {label : Option (String × Option HostType)} (h : Leads r p label q)
    (hq : Refuses (block r q.stmts q.inLoop q.env) q.trace (.conflictingAnnot x)) :
    Refuses (block r p.stmts p.inLoop p.env) p.trace (.conflictingAnnot x) := by
  have hstmt {s : Source.Stmt} {rest : List Source.Stmt} {inLoop : Bool} {env : TypeEnv} {t : Trace}
      (hs : Refuses (stmt r s inLoop env) t (.conflictingAnnot x)) :
      Refuses (block r (s :: rest) inLoop env) t (.conflictingAnnot x) := by
    rw [block]
    exact refuses_bind.mpr (.inl hs)
  cases h with
  | next hs =>
    rw [block]
    exact refuses_bind.mpr (.inr ⟨_, _, hs, refuses_bind.mpr (.inl hq)⟩)
  | thenBranch htest =>
    refine hstmt ?_
    rw [stmt]
    exact refuses_bind.mpr (.inr ⟨_, _, htest, refuses_bind.mpr (.inl hq)⟩)
  | elseBranch htest hbody =>
    refine hstmt ?_
    rw [stmt]
    exact refuses_bind.mpr (.inr ⟨_, _, htest, refuses_bind.mpr
      (.inr ⟨_, _, hbody, refuses_bind.mpr (.inl hq)⟩)⟩)
  | loopBody hloop =>
    cases hloop with
    | whileDo htest =>
      refine hstmt ?_
      rw [stmt]
      exact refuses_check.mpr (.inr ⟨by simp,
        refuses_bind.mpr (.inr ⟨_, _, htest, refuses_bind.mpr (.inl hq)⟩)⟩)
    | forIn hname hiter =>
      refine hstmt ?_
      rw [stmt]
      exact refuses_check.mpr (.inr ⟨by simp, refuses_bind.mpr (.inr ⟨_, _, hname,
        refuses_bind.mpr (.inr ⟨_, _, hiter, refuses_bind.mpr (.inl hq)⟩)⟩)⟩)
  | arm hvalue hheads hbind hplan hrecord harms hbefore =>
    exact hstmt ((refuses_matchOn_iff []).mpr
      ⟨_, _, .arm hvalue hheads hbind hplan hrecord harms hbefore, hq⟩)

theorem Leads.sizeOf_lt {label : Option (String × Option HostType)} (h : Leads r p label q) :
    sizeOf q.stmts < sizeOf p.stmts := by
  have hcase {c : Source.Case} {cases : List Source.Case} (hc : c ∈ cases) :
      sizeOf c.body < sizeOf cases := by
    have hlt := List.sizeOf_lt_of_mem hc
    obtain ⟨pattern, guard, body⟩ := c
    simp only [Source.Case.mk.sizeOf_spec, Source.Case.body] at hlt ⊢
    omega
  cases h with
  | loopBody hloop =>
    cases hloop
    all_goals
      simp only [List.cons.sizeOf_spec, Source.Stmt.whileDo.sizeOf_spec,
        Source.Stmt.forIn.sizeOf_spec]
      omega
  | arm _ _ _ hplan _ harms _ =>
    obtain ⟨c, hc, rfl⟩ :=
      exists_case_of_mem_arms hplan (harms ▸ List.mem_append_right _ List.mem_cons_self)
    have hlt := hcase hc
    simp only [List.cons.sizeOf_spec, Source.Stmt.matchOn.sizeOf_spec]
    omega
  | _ =>
    simp only [List.cons.sizeOf_spec, Source.Stmt.ifElse.sizeOf_spec]
    omega

/-- **A block is refused for an annotation exactly if its first statement clashes or a step leads to
a block that is refused.** -/
theorem refuses_block_step :
    Refuses (block r p.stmts p.inLoop p.env) p.trace (.conflictingAnnot x) ↔
      Clashes r x p ∨ ∃ label q, Leads r p label q ∧
        Refuses (block r q.stmts q.inLoop q.env) q.trace (.conflictingAnnot x) := by
  obtain ⟨stmts, inLoop, env, t⟩ := p
  refine ⟨fun h => ?_, ?_⟩
  · cases stmts with
    | nil => exact absurd h refuses_pure
    | cons s rest =>
      rw [block] at h
      simp only [refuses_bind, refuses_pure, and_false, exists_false, or_false] at h
      rcases h with h | ⟨⟨code, env'⟩, t', hs, h⟩
      · cases s with
        | annAssign span target annot value =>
          exact .inl ((refuses_annAssign_iff inLoop rest).mp h)
        | assign span targets value =>
          exact absurd h (spares_assign r env span targets value).not_refuses
        | augAssign span target op value =>
          exact absurd h (spares_augAssign r env span target op value).not_refuses
        | expr span value =>
          refine absurd h (Spares.not_refuses ?_)
          unfold stmt
          refine spares_ite (spares_pure _) ?_
          split
          · exact (spares_expr r env _).bind fun _ => spares_pure _
          · exact spares_refuseAt rfl
        | ifElse span test body orelse =>
          rw [stmt, (spares_expr r env test).refuses_bind_iff] at h
          simp only [refuses_bind, refuses_pure, and_false, exists_false, or_false] at h
          obtain ⟨c, t₁, htest, h | ⟨⟨code, bodyEnv⟩, t₂, hbody, h⟩⟩ := h
          · exact .inr ⟨_, _, .thenBranch htest, h⟩
          · exact .inr ⟨_, _, .elseBranch htest hbody, h⟩
        | whileDo span test body orelse =>
          rw [stmt, refuses_check] at h
          obtain ⟨-, h⟩ | ⟨horelse, h⟩ := h
          · simp at h
          · obtain rfl : orelse = [] := by simpa using horelse
            rw [(spares_expr r _ test).refuses_bind_iff] at h
            simp only [refuses_bind, refuses_pure, and_false, exists_false, or_false] at h
            obtain ⟨c, t₁, htest, h⟩ := h
            exact .inr ⟨_, _, .loopBody (.whileDo htest), h⟩
        | forIn span target iter body orelse =>
          unfold stmt at h
          rw [refuses_check] at h
          obtain ⟨-, h⟩ | ⟨horelse, h⟩ := h
          · simp at h
          · obtain rfl : orelse = [] := by simpa using horelse
            split at h
            · next sp id use =>
              rw [(spares_checkName span id).refuses_bind_iff] at h
              simp only [(spares_expr r env iter).refuses_bind_iff, refuses_bind, refuses_pure,
                and_false, exists_false, or_false] at h
              obtain ⟨_, t₁, hname, c, t₂, hiter, h⟩ := h
              exact .inr ⟨_, _, .loopBody (.forIn hname hiter), h⟩
            · simp at h
        | matchOn span subject cases =>
          obtain ⟨label, q, hleads, h⟩ := (refuses_matchOn_iff rest).mp h
          exact .inr ⟨_, q, hleads, h⟩
        | ret span value =>
          exact absurd h ((spares_exprOption r env value).bind fun _ => spares_pure _).not_refuses
        | brk span => exact absurd h (spares_ite (spares_pure _) (spares_refuseAt rfl)).not_refuses
        | cont span => exact absurd h (spares_ite (spares_pure _) (spares_refuseAt rfl)).not_refuses
        | pass span => exact absurd h refuses_pure
        | functionDef => exact absurd h (spares_refuseAt rfl).not_refuses
        | classDef => exact absurd h (spares_refuseAt rfl).not_refuses
        | form => exact absurd h (spares_refuseAt rfl).not_refuses
      · exact .inr ⟨_, _, .next hs, h⟩
  · rintro (hclash | ⟨label, q, hleads, h⟩)
    · obtain ⟨_, ⟨-, span, sp, use, annot, value, rest, rfl, -⟩, -⟩ := id hclash
      exact refuses_bind.mpr (.inl ((refuses_annAssign_iff inLoop rest).mpr hclash))
    · exact hleads.refuses h

/-! ## Whole bodies -/

theorem Visits.refuses (h : Visits r p ns q)
    (hq : Refuses (block r q.stmts q.inLoop q.env) q.trace (.conflictingAnnot x)) :
    Refuses (block r p.stmts p.inLoop p.env) p.trace (.conflictingAnnot x) := by
  induction h with
  | start => exact hq
  | step _ hleads ih => exact ih (hleads.refuses hq)

/-- **A body is refused for an annotation exactly if its compilation comes to a clash.** -/
theorem refuses_block_iff :
    Refuses (block r p.stmts p.inLoop p.env) p.trace (.conflictingAnnot x) ↔
      ∃ ns q, Visits r p ns q ∧ Clashes r x q := by
  constructor
  · -- Steps lead to smaller blocks, so the last of them is a clash.
    intro h
    generalize hn : sizeOf p.stmts = n
    induction n using Nat.strong_induction_on generalizing p with
    | _ n ih =>
      rcases refuses_block_step.mp h with hclash | ⟨label, q, hleads, h⟩
      · exact ⟨[], p, .start, hclash⟩
      · obtain ⟨ns, q', hvisits, hclash⟩ := ih _ (hn ▸ hleads.sizeOf_lt) h rfl
        exact ⟨_, q', Visits.trans (.step .start hleads) hvisits, hclash⟩
  · rintro ⟨ns, q, hvisits, hclash⟩
    exact hvisits.refuses (refuses_block_step.mpr (.inl hclash))

end Bodies

/-! ## Functions and methods -/

/-- Compiling a function, or a method of the given component, comes to its body at the point. -/
structure EntersBody (r : Registry) (env : TypeEnv) (fn : FunctionSource)
    (receiver : Option HostType) (t : Trace) (p : Point) : Prop where
  plain : fn.decorators = []
  named : receiver.isSome → ¬ ['_', '_'] <+: fn.name.toList
  enters : ∃ ps, Yields (params r fn receiver env) t (ps, p.env) p.trace
  stmts_eq : p.stmts = fn.body
  inLoop_eq : p.inLoop = false

section Functions

variable {r : Registry} {env : TypeEnv} {type : HostType} {t : Trace} {x : String}

theorem refuses_function_iff {fn : FunctionSource} :
    Refuses (function r env fn) t (.conflictingAnnot x) ↔ ∃ p, EntersBody r env fn none t p ∧
      Refuses (block r p.stmts p.inLoop p.env) p.trace (.conflictingAnnot x) := by
  unfold function
  rw [refuses_check, or_iff_right (by simp), (spares_params r env fn none).refuses_bind_iff]
  simp only [refuses_bind, refuses_pure, and_false, exists_false, or_false]
  constructor
  · rintro ⟨hplain, ⟨ps, env'⟩, t', hparams, h⟩
    exact ⟨⟨fn.body, false, env', t'⟩, ⟨by simpa using hplain, by simp, ⟨ps, hparams⟩, rfl, rfl⟩, h⟩
  · rintro ⟨⟨_, _, env', t'⟩, ⟨hplain, -, ⟨ps, hparams⟩, rfl, rfl⟩, h⟩
    exact ⟨by simp [hplain], _, _, hparams, h⟩

theorem refuses_method_iff {fn : FunctionSource} :
    Refuses (method r env type fn) t (.conflictingAnnot x) ↔
      ∃ p, EntersBody r env fn (some type) t p ∧
        Refuses (block r p.stmts p.inLoop p.env) p.trace (.conflictingAnnot x) := by
  unfold method
  rw [refuses_check, or_iff_right (by simp), refuses_check, or_iff_right (by simp),
    (spares_params r env fn (some type)).refuses_bind_iff]
  simp only [refuses_bind, refuses_pure, and_false, exists_false, or_false]
  constructor
  · rintro ⟨hplain, hnamed, ⟨ps, env'⟩, t', hparams, h⟩
    exact ⟨⟨fn.body, false, env', t'⟩,
      ⟨by simpa using hplain, fun _ => by simpa using hnamed, ⟨ps, hparams⟩, rfl, rfl⟩, h⟩
  · rintro ⟨⟨_, _, env', t'⟩, ⟨hplain, hnamed, ⟨ps, hparams⟩, rfl, rfl⟩, h⟩
    exact ⟨by simp [hplain], by simp [hnamed rfl], _, _, hparams, h⟩

/-! ## Class bodies -/

/-- The interface of a group of methods, which its base or else its name gives. -/
def interfaceOf (span : Source.Span) (name : String) : List Source.Expr → CompileM String
  | [] => pure name
  | [base] => ofExcept (base.expectDotted "interface")
  | _ => refuseAt span .groupBases

/-- Compiling the body of a group comes to the method, and all before it is compiled. -/
inductive ComesToMember (r : Registry) (env : TypeEnv) (type : HostType) :
    List Source.Stmt → Trace → FunctionSource → Trace → Prop
  | here {span name params body decorators returns rest t} :
      ComesToMember r env type (.functionDef span name params body decorators returns :: rest) t
        ⟨span, name, params, body, decorators, returns⟩ t
  | later {s rest t forms t₁ fn t'} : Yields (groupBody r env type [s]) t forms t₁ →
      ComesToMember r env type rest t₁ fn t' → ComesToMember r env type (s :: rest) t fn t'

/-- Compiling the body of a class comes to the method, and all before it is compiled. -/
inductive ComesToMethod (r : Registry) (env : TypeEnv) (type : HostType) :
    List Source.Stmt → Trace → FunctionSource → Trace → Prop
  | here {span name params body decorators returns rest t} :
      ComesToMethod r env type (.functionDef span name params body decorators returns :: rest) t
        ⟨span, name, params, body, decorators, returns⟩ t
  | inGroup {span name bases body rest t interface t₁ fn t'} :
      Yields (interfaceOf span name bases) t interface t₁ →
      ComesToMember r env type body t₁ fn t' →
      ComesToMethod r env type (.classDef span name bases [] body [] :: rest) t fn t'
  | later {s rest t parts t₁ fn t'} : Yields (componentBody r env type [s]) t parts t₁ →
      ComesToMethod r env type rest t₁ fn t' → ComesToMethod r env type (s :: rest) t fn t'

theorem spares_interfaceOf (span : Source.Span) (name : String) (bases : List Source.Expr) :
    Spares (interfaceOf span name bases) := by
  unfold interfaceOf
  split
  · exact spares_pure _
  · exact spares_expectDotted "interface" _
  · exact spares_refuseAt rfl

theorem refuses_groupBody_cons {s : Source.Stmt} {rest : List Source.Stmt} {c : Cause} :
    Refuses (groupBody r env type (s :: rest)) t c ↔ Refuses (groupBody r env type [s]) t c ∨
      ∃ forms t₁, Yields (groupBody r env type [s]) t forms t₁ ∧
        Refuses (groupBody r env type rest) t₁ c := by
  cases s with
  | functionDef =>
    simp only [groupBody, refuses_bind, refuses_pure, yields_bind, yields_pure]
    aesop
  | pass => simp [groupBody]
  | _ =>
    simp only [groupBody]
    split_ifs <;> simp

theorem refuses_groupBody_iff {body : List Source.Stmt} :
    Refuses (groupBody r env type body) t (.conflictingAnnot x) ↔
      ∃ fn t', ComesToMember r env type body t fn t' ∧
        Refuses (method r env type fn) t' (.conflictingAnnot x) := by
  induction body generalizing t with
  | nil =>
    refine iff_of_false refuses_pure ?_
    rintro ⟨_, _, h, -⟩
    cases h
  | cons s rest ih =>
    rw [refuses_groupBody_cons]
    simp only [ih]
    constructor
    · rintro (h | ⟨forms, t₁, hs, fn, t', hcomes, h⟩)
      · cases s with
        | functionDef span name params body decorators returns =>
          simp only [groupBody, refuses_bind, refuses_pure, and_false, exists_false, or_false] at h
          exact ⟨_, t, .here, h⟩
        | pass => exact absurd h refuses_pure
        | _ => exact absurd h (spares_ite (spares_pure _) (spares_refuseAt rfl)).not_refuses
      · exact ⟨fn, t', .later hs hcomes, h⟩
    · rintro ⟨fn, t', hcomes, h⟩
      cases hcomes with
      | here => exact .inl (refuses_bind.mpr (.inl h))
      | later hs hcomes => exact .inr ⟨_, _, hs, fn, t', hcomes, h⟩

theorem refuses_group_iff {span : Source.Span} {name : String} {bases keywords : List Source.Expr}
    {body : List Source.Stmt} {decorators : List Source.Expr} :
    Refuses (group r env type span name bases keywords body decorators) t (.conflictingAnnot x) ↔
      decorators = [] ∧ keywords = [] ∧
        ∃ interface t₁, Yields (interfaceOf span name bases) t interface t₁ ∧
          Refuses (groupBody r env type body) t₁ (.conflictingAnnot x) := by
  have heq : group r env type span name bases keywords body decorators = (do
      if !decorators.isEmpty || !keywords.isEmpty then refuseAt span .groupDecorators
      let interface ← interfaceOf span name bases
      let methods ← groupBody r env type body
      if methods.isEmpty then refuseAt span (.emptyGroup interface)
      return .group interface methods) := by
    rcases bases with _ | ⟨base, _ | ⟨base', rest⟩⟩ <;> rfl
  rw [heq, refuses_check, or_iff_right (by simp),
    (spares_interfaceOf span name bases).refuses_bind_iff]
  simp only [refuses_bind, refuses_check, refuses_pure]
  simp [and_assoc]

theorem refuses_componentBody_cons {s : Source.Stmt} {rest : List Source.Stmt} {c : Cause} :
    Refuses (componentBody r env type (s :: rest)) t c ↔
      Refuses (componentBody r env type [s]) t c ∨
        ∃ parts t₁, Yields (componentBody r env type [s]) t parts t₁ ∧
          Refuses (componentBody r env type rest) t₁ c := by
  cases s with
  | annAssign =>
    simp only [componentBody, refuses_bind, refuses_pure, yields_bind, yields_pure]
    aesop
  | functionDef =>
    simp only [componentBody, refuses_bind, refuses_pure, yields_bind, yields_pure]
    aesop
  | classDef =>
    simp only [componentBody, refuses_bind, refuses_pure, yields_bind, yields_pure]
    aesop
  | pass => simp [componentBody]
  | _ =>
    simp only [componentBody]
    split_ifs <;> simp

/-- The body of a class is refused for an annotation exactly if one of its methods is. -/
theorem refuses_componentBody_iff {body : List Source.Stmt} :
    Refuses (componentBody r env type body) t (.conflictingAnnot x) ↔
      ∃ fn t', ComesToMethod r env type body t fn t' ∧
        Refuses (method r env type fn) t' (.conflictingAnnot x) := by
  induction body generalizing t with
  | nil =>
    refine iff_of_false refuses_pure ?_
    rintro ⟨_, _, h, -⟩
    cases h
  | cons s rest ih =>
    rw [refuses_componentBody_cons]
    simp only [ih]
    constructor
    · rintro (h | ⟨forms, t₁, hs, fn, t', hcomes, h⟩)
      · cases s with
        | annAssign span target annot value =>
          exact absurd h ((spares_field r env span target annot value).bind fun _ =>
            (spares_pure _).bind fun _ => spares_pure _).not_refuses
        | functionDef span name params body decorators returns =>
          simp only [componentBody, refuses_bind, refuses_pure, and_false, exists_false,
            or_false] at h
          exact ⟨_, t, .here, h⟩
        | classDef span name bases keywords body decorators =>
          simp only [componentBody, refuses_bind, refuses_pure, and_false, exists_false, or_false,
            refuses_group_iff, refuses_groupBody_iff] at h
          obtain ⟨rfl, rfl, interface, t₁, hinterface, fn, t', hcomes, h⟩ := h
          exact ⟨fn, t', .inGroup hinterface hcomes, h⟩
        | pass => exact absurd h refuses_pure
        | _ => exact absurd h (spares_ite (spares_pure _) (spares_refuseAt rfl)).not_refuses
      · exact ⟨fn, t', .later hs hcomes, h⟩
    · rintro ⟨fn, t', hcomes, h⟩
      cases hcomes with
      | here => exact .inl (refuses_bind.mpr (.inl h))
      | inGroup hinterface hcomes =>
        refine .inl (refuses_bind.mpr (.inl (refuses_group_iff.mpr
          ⟨rfl, rfl, _, _, hinterface, ?_⟩)))
        exact refuses_groupBody_iff.mpr ⟨fn, t', hcomes, h⟩
      | later hs hcomes => exact .inr ⟨_, _, hs, fn, t', hcomes, h⟩

theorem refuses_component_iff {known : Messages} {policy : DuplicatePolicy}
    {moduleName : Option String} {c : ComponentSource} :
    Refuses (component r known policy moduleName env c) t (.conflictingAnnot x) ↔
      ∃ fn t', ComesToMethod r env c.type c.body t fn t' ∧
        Refuses (method r env c.type fn) t' (.conflictingAnnot x) := by
  have hrest (parts : List Ir.Field × List Declaration) (t : Trace) :
      ¬ Refuses (do
        if parts.2.isEmpty then warn ⟨.noMethods c.name, some (.ofSpan c.span)⟩
        Definition.compile known policy (some (.ofSpan c.span))
          { name := c.name, fields := parts.1, declarations := parts.2, constant := c.constant,
            moduleName }) t (.conflictingAnnot x) := by
    refine Spares.not_refuses (spares_ite ((spares_warn _).bind fun _ => ?_) ?_) <;>
      exact Definition.spares_compile known policy _ _
  unfold component
  rw [← refuses_componentBody_iff, refuses_bind]
  refine or_iff_left ?_
  rintro ⟨parts, t₁, -, h⟩
  exact hrest parts t₁ h

end Functions

/-! ## Sources -/

/-- Compiling the statements begins the body of a function, or of a method of the given component,
at the point. All that is compiled before has been accepted. -/
inductive Begins (known : Messages) (policy : DuplicatePolicy) (moduleName : Option String)
    (stmts : List Source.Stmt) : FunctionSource → Option HostType → Point → Prop
  | function {globals t₁ before fn after functions t₂ p} : Admissible stmts →
      Yields ((globalsIn stmts).mapM (global (registryOf stmts) (envOf stmts))) {} globals t₁ →
      functionsIn stmts = before ++ fn :: after →
      Yields (before.mapM (function (registryOf stmts) (envOf stmts))) t₁ functions t₂ →
      EntersBody (registryOf stmts) (envOf stmts) fn none t₂ p →
      Begins known policy moduleName stmts fn none p
  | method {globals t₁ functions t₂ before cls after components t₃ fn t₄ p} : Admissible stmts →
      Yields ((globalsIn stmts).mapM (global (registryOf stmts) (envOf stmts))) {} globals t₁ →
      Yields ((functionsIn stmts).mapM (function (registryOf stmts) (envOf stmts))) t₁ functions
        t₂ →
      classesIn stmts = before ++ cls :: after →
      Yields ((before.map ClassSource.component).mapM
        (component (registryOf stmts) known policy moduleName (envOf stmts))) t₂ components t₃ →
      ComesToMethod (registryOf stmts) (envOf stmts) cls.type cls.body t₃ fn t₄ →
      EntersBody (registryOf stmts) (envOf stmts) fn (some cls.type) t₄ p →
      Begins known policy moduleName stmts fn (some cls.type) p

section Sources

variable {known : Messages} {policy : DuplicatePolicy} {moduleName : Option String}
  {stmts : List Source.Stmt} {x : String}

theorem refuses_module_iff :
    Refuses (module known policy moduleName stmts) {} (.conflictingAnnot x) ↔
      Admissible stmts ∧
        Refuses (secondPass known policy moduleName stmts) {} (.conflictingAnnot x) := by
  unfold module secondPass
  rw [(spares_collect stmts []).refuses_bind_iff]
  simp only [(spares_registerAll _ _).refuses_bind_iff, (spares_globalTypes _ _).refuses_bind_iff,
    (spares_forM (fun k => spares_checkFieldTypes _ _) _).refuses_bind_iff, Prod.exists]
  exact firstPass_iff

/-- **A module is refused for an annotation exactly if a body that its compilation begins is.** -/
theorem refuses_module_iff_begins :
    Refuses (module known policy moduleName stmts) {} (.conflictingAnnot x) ↔
      ∃ fn receiver p, Begins known policy moduleName stmts fn receiver p ∧
        Refuses (block (registryOf stmts) p.stmts p.inLoop p.env) p.trace
          (.conflictingAnnot x) := by
  have hglobals := spares_mapM (spares_global (registryOf stmts) (envOf stmts)) (globalsIn stmts)
  have hunused (m : Ir.Module) (t : Trace) :
      ¬ Refuses (warnUnused (functionsIn stmts) m) t (.conflictingAnnot x) :=
    (spares_warnUnused (functionsIn stmts) m).not_refuses
  rw [refuses_module_iff, secondPass, hglobals.refuses_bind_iff]
  simp only [refuses_bind, refuses_pure, hunused, and_false, exists_false, or_false, refuses_mapM,
    refuses_function_iff]
  constructor
  · rintro ⟨hadmissible, globals, t₁, hglobals, h⟩
    rcases h with ⟨before, fn, after, functions, t₂, hsplit, hbefore, p, henters, h⟩ |
      ⟨functions, t₂, hfunctions, before, c, after, components, t₃, hsplit, hbefore, h⟩
    · exact ⟨fn, none, p, .function hadmissible hglobals hsplit hbefore henters, h⟩
    · obtain ⟨before, rest, hclasses, rfl, hmap⟩ := List.map_eq_append_iff.mp hsplit
      obtain ⟨cls, after, rfl, rfl, -⟩ := List.map_eq_cons_iff.mp hmap
      obtain ⟨fn, t₄, hcomes, h⟩ := refuses_component_iff.mp h
      obtain ⟨p, henters, h⟩ := refuses_method_iff.mp h
      exact ⟨fn, _, p, .method hadmissible hglobals hfunctions hclasses hbefore hcomes henters, h⟩
  · rintro ⟨fn, receiver, p, hbegins, h⟩
    cases hbegins with
    | function hadmissible hglobals hsplit hbefore henters =>
      exact ⟨hadmissible, _, _, hglobals, .inl ⟨_, fn, _, _, _, hsplit, hbefore, p, henters, h⟩⟩
    | @method _ _ _ _ before cls after _ _ _ _ _ hadmissible hglobals hfunctions hsplit hbefore
        hcomes henters =>
      refine ⟨hadmissible, _, _, hglobals, .inr ⟨_, _, hfunctions, _, cls.component,
        after.map ClassSource.component, _, _, ?_, hbefore,
        refuses_component_iff.mpr ⟨fn, _, hcomes, refuses_method_iff.mpr ⟨p, henters, h⟩⟩⟩⟩
      rw [hsplit, List.map_append, List.map_cons]

/-- **A source is refused for an annotation exactly if a body that its compilation begins is.** -/
theorem refused_source_iff {sourcePath : Option String} {text : String}
    (hparse : Source.parse text = some stmts) :
    (∃ place, (compile known policy sourcePath moduleName text).result =
        .error ⟨.conflictingAnnot x, place⟩) ↔
      ∃ fn receiver p,
        Begins known policy (moduleNameFor sourcePath moduleName) stmts fn receiver p ∧
        Refuses (block (registryOf stmts) p.stmts p.inLoop p.env) p.trace
          (.conflictingAnnot x) := by
  have hrun : (∃ place, (compile known policy sourcePath moduleName text).result =
        .error ⟨.conflictingAnnot x, place⟩) ↔
      Refuses (source known policy (moduleNameFor sourcePath moduleName) text) {}
        (.conflictingAnnot x) := by
    refine exists_congr fun place => ⟨fun h => ⟨_, Prod.ext h rfl⟩, ?_⟩
    rintro ⟨t', h⟩
    exact congrArg Prod.fst h
  rw [hrun, ← refuses_module_iff_begins]
  unfold source
  simp only [hparse]
  split_ifs with hblank
  · -- A blank text has no statements, and nothing is refused in a module without any.
    obtain rfl := Source.parse_of_isBlank hblank hparse
    refine iff_of_false (by simp) fun h => ?_
    obtain ⟨fn, receiver, p, hbegins, -⟩ := refuses_module_iff_begins.mp h
    cases hbegins with
    | function _ _ hsplit => simp [functionsIn] at hsplit
    | method _ _ _ hsplit => simp [classesIn] at hsplit
  · rfl

theorem ComesToMember.marked {r : Registry} {env : TypeEnv} {type : HostType}
    {body : List Source.Stmt} {t t' : Trace} {fn : FunctionSource}
    (h : ComesToMember r env type body t fn t') (hm : Source.areMarked body = true) :
    Source.areMarked fn.body = true := by
  induction h with
  | here =>
    simp only [Source.areMarked, Source.Stmt.isMarked, Bool.and_eq_true] at hm
    simpa using hm.1
  | later _ _ ih =>
    simp only [Source.areMarked, Bool.and_eq_true] at hm
    exact ih hm.2

theorem ComesToMethod.marked {r : Registry} {env : TypeEnv} {type : HostType}
    {body : List Source.Stmt} {t t' : Trace} {fn : FunctionSource}
    (h : ComesToMethod r env type body t fn t') (hm : Source.areMarked body = true) :
    Source.areMarked fn.body = true := by
  induction h with
  | here =>
    simp only [Source.areMarked, Source.Stmt.isMarked, Bool.and_eq_true] at hm
    simpa using hm.1
  | inGroup _ hmember =>
    simp only [Source.areMarked, Source.Stmt.isMarked, Bool.and_eq_true] at hm
    exact hmember.marked (by simpa using hm.1)
  | later _ _ ih =>
    simp only [Source.areMarked, Bool.and_eq_true] at hm
    exact ih hm.2

theorem Admissible.isModuleEnv (h : Admissible stmts) :
    IsModuleEnv (registryOf stmts) (envOf stmts) :=
  ⟨globalsIn stmts, {}, _, {}, _, yields_globalTypes.mpr ⟨h.values, rfl, rfl⟩, rfl⟩

theorem type_mem_registryOf {cls : ClassSource} (h : cls ∈ classesIn stmts) :
    cls.type ∈ (registryOf stmts).types := by
  have hadded (classes : List ClassSource) (r : Registry) : cls ∈ classes ∨ cls.type ∈ r.types →
      cls.type ∈ (withClasses r classes).types := by
    induction classes generalizing r with
    | nil => simp [withClasses]
    | cons c rest ih =>
      intro h
      refine ih (r.add c.type []) ?_
      rcases h with h | h
      · rcases List.mem_cons.mp h with rfl | h
        · exact .inr (List.mem_cons_self ..)
        · exact .inl h
      · exact .inr (List.mem_cons_of_mem _ h)
  exact hadded _ _ (.inl h)

/-- What a compilation begins starts as a function or a method does. -/
theorem Begins.starts {fn : FunctionSource} {receiver : Option HostType} {p : Point}
    (h : Begins known policy moduleName stmts fn receiver p) (hm : Source.areMarked stmts = true) :
    Starts (registryOf stmts) fn receiver p := by
  cases h with
  | function hadmissible _ hsplit _ henters =>
    refine ⟨marked_of_mem_functionsIn hm (by simp [hsplit]), by simp, ?_, henters.stmts_eq,
      henters.inLoop_eq⟩
    exact ⟨_, _, _, hadmissible.isModuleEnv, henters.enters.choose_spec⟩
  | @method _ _ _ _ _ cls _ _ _ _ _ _ hadmissible _ _ hsplit _ hcomes henters =>
    have hcls : cls ∈ classesIn stmts := by simp [hsplit]
    refine ⟨hcomes.marked (marked_of_mem_classesIn hm hcls), ?_, ?_, henters.stmts_eq,
      henters.inLoop_eq⟩
    · simpa using type_mem_registryOf hcls
    · exact ⟨_, _, _, hadmissible.isModuleEnv, henters.enters.choose_spec⟩

end Sources

end Compile

end Componentry
