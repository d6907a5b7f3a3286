import Componentry.Compile.Trace
import Componentry.Dispatch.Lower
import Componentry.Proofs.FreeNames
import Componentry.Proofs.Planning

/-!
# Running a type dispatch

The code of a dispatch evaluates its subject once into the bound name, tests types in order, and
goes on with one branch. `runFrom_exprChain` and `steps_stmtChain` say so for the two kinds of
chains, and `yields_body` says where the branch comes from: the clause that the plan picks, or
else the default.

**Theorem (`planned_dispatch_refines_dynamic`).** Whatever is known about the subject, both kinds
of code run the same branch, and it is the branch of a dispatch that knows nothing, unless a
clause names the subject's static type and an earlier clause accepts the subject.
-/

namespace Componentry

open Run

/-! ## Values and type tests -/

/-- The value `v` has the registered runtime type `R`: it passes the test against a registered type
exactly if `R` is a subtype of it. In particular it is not nothing. -/
structure Run.IsA (M : Machine) (r : Registry) (v : M.Value) (R : HostType) : Prop where
  registered : R ∈ r.types
  isInstance_eq : ∀ C ∈ r.types, M.isInstance v C.fullName = r.isSubtype R C

section Chains

variable {M : Machine} {ρ : Locals M} {m : Memory M} {v : M.Value} {bind : String}

/-- The type tests of one value. -/
def Run.testsOn (v : M.Value) (types : List HostType) : List (M.Value × String) :=
  types.map fun C => (v, C.fullName)

def Run.passes (v : M.Value) (C : HostType) : Bool := M.isInstance v C.fullName

theorem runFrom_test (h : ρ.read bind = some v) (C : HostType) :
    runFrom (eval M (Dispatch.test bind C) ρ) m =
      (.ok (M.constant (.bool (passes v C))), m.tested (testsOn v [C])) := by
  simp only [Dispatch.test, eval, runFrom_bind, runFrom_readName h]
  rfl

/-- The body of the first branch whose type passes, or else the default. -/
def picked {β : Type} (accepts : HostType → Bool) (default : β) (branches : List (HostType × β)) :
    β :=
  ((branches.find? (accepts ·.1)).map Prod.snd).getD default

theorem picked_congr {β : Type} {p q : HostType → Bool} {default : β}
    {branches : List (HostType × β)} (h : ∀ C ∈ branches.map Prod.fst, p C = q C) :
    picked p default branches = picked q default branches := by
  have hfind : branches.find? (p ·.1) = branches.find? (q ·.1) :=
    List.find?_congr fun b hb => h b.1 (List.mem_map_of_mem hb)
  rw [picked, picked, hfind]

/-- A chain of conditional expressions tests up to the first type that passes and is then its
branch. -/
theorem runFrom_exprChain (h : ρ.read bind = some v) (default : Ir.Expr)
    (branches : List (HostType × Ir.Expr)) :
    runFrom (eval M (Dispatch.exprChain bind default branches) ρ) m =
      runFrom (eval M (picked (passes v) default branches) ρ)
        (m.tested (testsOn v (upTo (passes v) (branches.map Prod.fst)))) := by
  induction branches generalizing m with
  | nil => simp [Dispatch.exprChain, picked, upTo, testsOn]
  | cons b rest ih =>
    obtain ⟨C, body⟩ := b
    simp only [Dispatch.exprChain, eval, runFrom_bind, runFrom_test h, runFrom_truth_bool]
    by_cases hC : passes v C = true
    · simp [hC, picked, upTo, testsOn]
    · simp [hC, picked, upTo, testsOn, ih]

/-- A chain of conditional statements tests up to the first type that passes and goes on with its
branch. -/
theorem steps_stmtChain (h : ρ.read bind = some v) (default : List Ir.Stmt)
    (branches : List (HostType × List Ir.Stmt)) (loops : List (Loop M)) (rest : List Ir.Stmt) :
    Steps M (⟨Dispatch.stmtChain bind default branches ++ rest, loops, ρ⟩, m)
      (⟨picked (passes v) default branches ++ rest, loops, ρ⟩,
        m.tested (testsOn v (upTo (passes v) (branches.map Prod.fst)))) := by
  induction branches generalizing m with
  | nil => simpa [Dispatch.stmtChain, picked, upTo, testsOn] using Steps.refl _
  | cons b more ih =>
    obtain ⟨C, body⟩ := b
    -- The first test decides whether the run enters this branch or the rest of the chain.
    have hstep : Step M (⟨Dispatch.stmtChain bind default ((C, body) :: more) ++ rest, loops, ρ⟩, m)
        (⟨(if passes v C then body else Dispatch.stmtChain bind default more) ++ rest, loops, ρ⟩,
          m.tested (testsOn v [C])) := by
      simp only [Step, Yields, Dispatch.stmtChain, List.singleton_append, advance, runFrom_bind,
        runFrom_test h, runFrom_truth_bool]
      split_ifs <;> rfl
    refine Steps.head hstep ?_
    by_cases hC : passes v C = true
    · simpa [hC, picked, upTo, testsOn] using Steps.refl _
    · simpa [hC, picked, upTo, testsOn] using ih (m := m.tested (testsOn v [C]))

end Chains

/-! ## Where branches come from -/

section Branches

variable {β : Type} {bind : String} {env : TypeEnv} {absent : β}
  {default : Option (Branch CompileM β)} {t t' : Trace}

/-- `b` was built by the branch of a clause, in the environment where the bound name has the
clause's type, or without a clause by the default, where the bound name has the static type of the
subject. -/
def Built (bind : String) (env : TypeEnv) (static : Option HostType) (absent : β)
    (default : Option (Branch CompileM β)) (clause : Option (Clause (Branch CompileM β))) (b : β) :
    Prop :=
  match clause, default with
  | some c, _ => ∃ t t', Yields (c.branch (env.bind bind c.type)) t b t'
  | none, some d => ∃ t t', Yields (d (env.bind bind static)) t b t'
  | none, none => b = absent

theorem built_of_buildDefault {static : Option HostType} {b : β}
    (h : Yields (Dispatch.buildDefault bind env static absent default) t b t') :
    Built bind env static absent default none b := by
  cases default with
  | none => exact (yields_pure.mp h).1.symm
  | some d => exact ⟨t, t', h⟩

/-- The first branch that passes belongs to the first clause that does. -/
theorem built_of_buildAll {static : Option HostType} {cs : List (Clause (Branch CompileM β))}
    {bs : List (HostType × β)} {final : β} (h : Yields (Dispatch.buildAll bind env cs) t bs t')
    (hfinal : Built bind env static absent default none final) (accepts : HostType → Bool) :
    bs.map Prod.fst = cs.map Clause.type ∧
      Built bind env static absent default (cs.find? (accepts ·.type))
        (picked accepts final bs) := by
  induction cs generalizing t bs with
  | nil =>
    obtain ⟨rfl, -⟩ := yields_pure.mp h
    exact ⟨rfl, hfinal⟩
  | cons c rest ih =>
    simp only [Dispatch.buildAll, yields_bind, yields_pure] at h
    obtain ⟨body, t₁, hbody, bodies, t₂, hrest, rfl, rfl⟩ := h
    obtain ⟨htypes, hpicked⟩ := ih hrest
    refine ⟨by simp [htypes], ?_⟩
    by_cases hc : accepts c.type = true
    · simpa [hc, picked, Built] using ⟨t, t₁, hbody⟩
    · simpa [hc, picked] using hpicked

/-- The code of a dispatch goes on with the clause that its plan picks. `Takes code b tests`
stands for what it means that `code` makes tests and goes on with `b`. -/
theorem yields_body {chain : β → List (HostType × β) → β} {plan : Plan (Branch CompileM β)}
    {code : β} (h : Yields (Dispatch.body bind env absent chain default plan) t code t')
    (accepts : HostType → Bool) (Takes : β → β → List HostType → Prop)
    (hrefl : ∀ b, Takes b b [])
    (hchain : ∀ final bs, bs.map Prod.fst = plan.clauses.map Clause.type →
      Takes (chain final bs) (picked accepts final bs) (upTo accepts (bs.map Prod.fst))) :
    ∃ b, Built bind env plan.staticType absent default (plan.pick accepts) b ∧
      Takes code b (plan.tried accepts) := by
  cases plan with
  | exact T c => exact ⟨code, ⟨t, t', h⟩, hrefl code⟩
  | fallback T => exact ⟨code, built_of_buildDefault h, hrefl code⟩
  | pruned _ cs | full cs =>
    simp only [Dispatch.body, yields_bind, yields_pure] at h
    obtain ⟨final, t₁, hfinal, bs, t₂, hbs, rfl, rfl⟩ := h
    obtain ⟨htypes, hbuilt⟩ := built_of_buildAll hbs (built_of_buildDefault hfinal) accepts
    exact ⟨_, hbuilt, by simpa [Plan.tried, ← htypes] using hchain final bs htypes⟩

end Branches

/-! ## The subject -/

section Subject

variable {M : Machine} {ρ : Locals M} {m m' : Memory M} {v : M.Value} {bind : String}
  {value : Ir.Expr} {env : TypeEnv} {t t' : Trace}

/-- Local names after the subject went into the bound name, unless it already is that name. -/
def bound (bind : String) (value : Ir.Expr) (ρ : Locals M) (v : M.Value) : Locals M :=
  if value.isVar bind then ρ else ρ.set bind v

theorem read_bound (hv : Yields (eval M value ρ) m v m') :
    (bound bind value ρ v).read bind = some v := by
  unfold bound
  split_ifs with hvar
  · obtain rfl := Ir.Expr.isVar_iff.mp hvar
    simp only [eval, readName] at hv
    split at hv
    · next w hw => rw [hw, (yields_pure.mp hv).1]
    · simp at hv
  · exact ρ.read_set_self bind v

theorem read_bound_var {x : String} (h : ρ.read x = some v) :
    (bound bind (.var x) ρ v).read bind = some v := by
  unfold bound
  split_ifs with hvar
  · obtain rfl : x = bind := by simpa using Ir.Expr.isVar_iff.mp hvar
    exact h
  · exact ρ.read_set_self bind v

theorem read_bound_of_ne {x : String} (h : x ≠ bind) :
    (bound bind value ρ v).read x = ρ.read x := by
  unfold bound
  split_ifs
  · rfl
  · exact ρ.read_set_of_ne v h

theorem memory_of_isVar (hv : Yields (eval M value ρ) m v m') (hvar : value.isVar bind = true) :
    m = m' := by
  obtain rfl := Ir.Expr.isVar_iff.mp hvar
  simp only [eval, readName] at hv
  split at hv
  · exact (yields_pure.mp hv).2
  · simp at hv

/-- **A dispatch as an expression** evaluates its subject once, makes the tests of its plan and is
the branch that the plan picks. -/
theorem lowerExpr_takes {default : Option (Branch CompileM Ir.Expr)}
    {plan : Plan (Branch CompileM Ir.Expr)} {code : Ir.Expr}
    (h : Yields (Dispatch.lowerExpr bind env value default plan) t code t')
    (accepts : HostType → Bool) :
    ∃ b, Built bind env plan.staticType (.const .none) default (plan.pick accepts) b ∧
      ∀ (M : Machine) (ρ : Locals M) (m m' : Memory M) (v : M.Value),
        Yields (eval M value ρ) m v m' →
        (∀ c ∈ plan.clauses, passes v c.type = accepts c.type) →
        runFrom (eval M code ρ) m = runFrom (eval M b (bound bind value ρ v))
          (m'.tested (testsOn v (plan.tried accepts))) := by
  simp only [Dispatch.lowerExpr, yields_bind, yields_pure] at h
  obtain ⟨body, t₁, hbody, rfl, rfl⟩ := h
  obtain ⟨b, hb, htakes⟩ := yields_body hbody accepts
    (fun code b tests => ∀ (M : Machine) (ρ : Locals M) (m : Memory M) (v : M.Value),
      ρ.read bind = some v → (∀ c ∈ plan.clauses, passes v c.type = accepts c.type) →
      runFrom (eval M code ρ) m = runFrom (eval M b ρ) (m.tested (testsOn v tests)))
    (fun b M ρ m v _ _ => by simp [testsOn])
    (fun final bs htypes M ρ m v hread hagree => by
      have hagree : ∀ C ∈ bs.map Prod.fst, passes v C = accepts C := by
        simpa [htypes] using hagree
      rw [runFrom_exprChain hread, picked_congr hagree, upTo_congr hagree])
  refine ⟨b, hb, fun M ρ m m' v hv hagree => ?_⟩
  rw [← htakes M _ _ v (read_bound hv) hagree]
  by_cases hvar : value.isVar bind = true
  · simp [bound, hvar, memory_of_isVar hv hvar]
  · have hv' : runFrom (eval M value ρ) m = (.ok v, m') := hv
    simp [bound, hvar, eval, evalBindings, runFrom_bind, hv']

/-- **A dispatch as statements** evaluates its subject once, makes the tests of its plan and goes on
with the branch that the plan picks. -/
theorem lowerStmt_takes {default : Option (Branch CompileM (List Ir.Stmt))}
    {plan : Plan (Branch CompileM (List Ir.Stmt))} {code : List Ir.Stmt}
    (h : Yields (Dispatch.lowerStmt bind env value default plan) t code t')
    (accepts : HostType → Bool) :
    ∃ b, Built bind env plan.staticType [] default (plan.pick accepts) b ∧
      ∀ (M : Machine) (ρ : Locals M) (m m' : Memory M) (v : M.Value) (loops : List (Loop M))
        (rest : List Ir.Stmt), Yields (eval M value ρ) m v m' →
        (∀ c ∈ plan.clauses, passes v c.type = accepts c.type) →
        Steps M (⟨code ++ rest, loops, ρ⟩, m) (⟨b ++ rest, loops, bound bind value ρ v⟩,
          m'.tested (testsOn v (plan.tried accepts))) := by
  simp only [Dispatch.lowerStmt, yields_bind, yields_pure] at h
  obtain ⟨body, t₁, hbody, rfl, rfl⟩ := h
  obtain ⟨b, hb, htakes⟩ := yields_body hbody accepts
    (fun code b tests => ∀ (M : Machine) (ρ : Locals M) (m : Memory M) (v : M.Value)
      (loops : List (Loop M)) (rest : List Ir.Stmt),
      ρ.read bind = some v → (∀ c ∈ plan.clauses, passes v c.type = accepts c.type) →
      Steps M (⟨code ++ rest, loops, ρ⟩, m) (⟨b ++ rest, loops, ρ⟩, m.tested (testsOn v tests)))
    (fun b M ρ m v loops rest _ _ => by simpa [testsOn] using Steps.refl _)
    (fun final bs htypes M ρ m v loops rest hread hagree => by
      have hagree : ∀ C ∈ bs.map Prod.fst, passes v C = accepts C := by
        simpa [htypes] using hagree
      rw [← picked_congr hagree, ← upTo_congr hagree]
      exact steps_stmtChain hread final bs loops rest)
  refine ⟨b, hb, fun M ρ m m' v loops rest hv hagree => ?_⟩
  have hsteps := htakes M _ m' v loops rest (read_bound hv) hagree
  by_cases hvar : value.isVar bind = true
  · simpa [bound, hvar, memory_of_isVar hv hvar] using hsteps
  · -- The head of the code assigns the subject to the bound name.
    rw [bound, if_neg hvar] at hsteps ⊢
    rw [if_neg hvar]
    refine Steps.head ?_ hsteps
    exact yields_bind.mpr ⟨v, m', hv, yields_pure.mpr ⟨rfl, rfl⟩⟩

end Subject

/-! ## Plans on values -/

section Values

variable {M : Machine} {r : Registry} {v : M.Value} {static : Option HostType}

/-- Where the static type is known, the value is an instance of it. -/
def Run.HasType (M : Machine) (r : Registry) (v : M.Value) (static : Option HostType) : Prop :=
  ∀ T ∈ static, ∃ R, IsA M r v R ∧ r.isSubtype R T = true

/-- A value passes the tests against all supertypes of its static type. -/
theorem Run.HasType.isInstance (h : HasType M r v static) (hf : Registry.Forest r.types)
    {T C : HostType} (hT : T ∈ static) (hmem : T ∈ r.types) (hC : C ∈ r.types)
    (hTC : r.isSubtype T C = true) : M.isInstance v C.fullName = true := by
  obtain ⟨R, hR, hRT⟩ := h T hT
  rw [hR.isInstance_eq C hC]
  exact Registry.isSubtype_trans hf hR.registered hmem hC hRT hTC

/-- A plan without a clause for the static type picks the first clause that accepts the value,
after no more tests than a plan that knows nothing. -/
theorem Plan.make_on_value {α : Type} {cs : List (Clause α)} (hf : Registry.Forest r.types)
    (hstatic : ∀ T ∈ static, T ∈ r.types) (hv : HasType M r v static)
    (hcs : ∀ c ∈ cs, c.type ∈ r.types)
    (hinexact : ∀ T ∈ static, ∀ c ∈ cs, c.type.fullName ≠ T.fullName) :
    (make r static cs).pick (passes v) = cs.find? (passes v ·.type) ∧
      ((make r static cs).tried (passes v)).length ≤ (upTo (passes v) (cs.map Clause.type)).length ∧
      (static = none →
        (make r static cs).tried (passes v) = upTo (passes v) (cs.map Clause.type)) := by
  cases hsome : static with
  | none => exact ⟨rfl, le_refl _, fun _ => rfl⟩
  | some T =>
    obtain ⟨R, hR, hRT⟩ := hv T hsome
    have hagree : ∀ c ∈ cs, passes v c.type = r.isSubtype R c.type :=
      fun c hc => hR.isInstance_eq c.type (hcs c hc)
    have hknown : ∀ T ∈ static, T ∈ r.types ∧ r.isSubtype R T = true := by
      intro T' hT'
      obtain rfl : T = T' := Option.some.inj (hsome.symm.trans hT')
      exact ⟨hstatic T hsome, hRT⟩
    obtain ⟨hpick, htried⟩ := pick_congr fun c hc => hagree c (make_clauses_subset r static cs hc)
    rw [← hsome, hpick, htried]
    refine ⟨?_, ?_, fun hnone => by simp [hsome] at hnone⟩
    · rw [make_pick hf hR.registered hknown hcs, choice_of_forall_ne hinexact, dynamicChoice,
        ← List.find?_eq_bind_findIdx?_getElem?]
      exact (List.find?_congr hagree).symm
    · rw [upTo_congr (by simpa using hagree)]
      exact make_tried_length_le hf hR.registered hknown hcs

end Values

/-! ## Refinement -/

/-- Statements that run on a subject of type `R` as a dispatch does: they evaluate `value` once into
`bind`, make the given type tests on it and go on with `body`. A fault of `value` is theirs. -/
def StmtsTake (r : Registry) (R : HostType) (bind : String) (value : Ir.Expr)
    (code body : List Ir.Stmt) (tests : List HostType) : Prop :=
  ∀ (M : Machine) (ρ : Locals M) (m m' : Memory M) (loops : List (Loop M)) (rest : List Ir.Stmt),
    (∀ v, Yields (eval M value ρ) m v m' → IsA M r v R →
      Steps M (⟨code ++ rest, loops, ρ⟩, m)
        (⟨body ++ rest, loops, bound bind value ρ v⟩, m'.tested (testsOn v tests))) ∧
    (∀ fault, value.isVar bind = false → runFrom (eval M value ρ) m = (.error fault, m') →
      runFrom (advance M ⟨code ++ rest, loops, ρ⟩) m = (.error fault, m'))

/-- An expression that runs on a subject of type `R` as a dispatch does. -/
def ExprTakes (r : Registry) (R : HostType) (bind : String) (value code body : Ir.Expr)
    (tests : List HostType) : Prop :=
  ∀ (M : Machine) (ρ : Locals M) (m m' : Memory M),
    (∀ v, Yields (eval M value ρ) m v m' → IsA M r v R →
      runFrom (eval M code ρ) m =
        runFrom (eval M body (bound bind value ρ v)) (m'.tested (testsOn v tests))) ∧
    (∀ fault, value.isVar bind = false → runFrom (eval M value ρ) m = (.error fault, m') →
      runFrom (eval M code ρ) m = (.error fault, m'))

section Refinement

variable {r : Registry} {R : HostType} {bind : String} {value : Ir.Expr} {env : TypeEnv}
  {t t' : Trace}

theorem stmtsTake_of_lowerStmt {default : Option (Branch CompileM (List Ir.Stmt))}
    {plan : Plan (Branch CompileM (List Ir.Stmt))} {code : List Ir.Stmt}
    (hplan : ∀ c ∈ plan.clauses, c.type ∈ r.types)
    (h : Yields (Dispatch.lowerStmt bind env value default plan) t code t') :
    ∃ body, Built bind env plan.staticType [] default (plan.pick (r.isSubtype R)) body ∧
      StmtsTake r R bind value code body (plan.tried (r.isSubtype R)) := by
  obtain ⟨body, hbuilt, htakes⟩ := lowerStmt_takes h (r.isSubtype R)
  refine ⟨body, hbuilt, fun M ρ m m' loops rest =>
    ⟨fun v hv hisA => ?_, fun fault hvar hfault => ?_⟩⟩
  · exact htakes M ρ m m' v loops rest hv fun c hc => hisA.isInstance_eq c.type (hplan c hc)
  · simp only [Dispatch.lowerStmt, yields_bind, yields_pure] at h
    obtain ⟨stmts, t₁, -, rfl, -⟩ := h
    simp [hvar, advance, runFrom_bind, hfault]

theorem exprTakes_of_lowerExpr {default : Option (Branch CompileM Ir.Expr)}
    {plan : Plan (Branch CompileM Ir.Expr)} {code : Ir.Expr}
    (hplan : ∀ c ∈ plan.clauses, c.type ∈ r.types)
    (h : Yields (Dispatch.lowerExpr bind env value default plan) t code t') :
    ∃ body, Built bind env plan.staticType (.const .none) default (plan.pick (r.isSubtype R)) body ∧
      ExprTakes r R bind value code body (plan.tried (r.isSubtype R)) := by
  obtain ⟨body, hbuilt, htakes⟩ := lowerExpr_takes h (r.isSubtype R)
  refine ⟨body, hbuilt, fun M ρ m m' => ⟨fun v hv hisA => ?_, fun fault hvar hfault => ?_⟩⟩
  · exact htakes M ρ m m' v hv fun c hc => hisA.isInstance_eq c.type (hplan c hc)
  · simp only [Dispatch.lowerExpr, yields_bind, yields_pure] at h
    obtain ⟨e, t₁, -, rfl, -⟩ := h
    simp [hvar, eval, evalBindings, runFrom_bind, hfault]

/-- What one plan does on a subject of type `R`: both kinds of code run the branch at one position
`i` (none is the default), after the same type tests. The position is the dynamic one unless the
plan is exact; then it is that of the first clause for the static type. -/
def RefinesDynamic (r : Registry) (env : TypeEnv) (static : Option HostType) (bind : String)
    (value : Ir.Expr)
    (cs : List (Clause (Branch CompileM (List Ir.Stmt) × Branch CompileM Ir.Expr)))
    (default : Option (Branch CompileM (List Ir.Stmt) × Branch CompileM Ir.Expr))
    (plan : Plan (Branch CompileM (List Ir.Stmt) × Branch CompileM Ir.Expr))
    (R : HostType) : Prop :=
  ∃ (i : Option Nat) (tests : List HostType),
    (plan.isExact = false → i = Plan.dynamicChoice r R cs) ∧
    (plan.isExact = true → ∃ T k, static = some T ∧ Plan.exactChoice T cs = some k ∧ i = some k ∧
      (i = Plan.dynamicChoice r R cs ↔
        ∀ j < k, ∀ c, cs[j]? = some c → r.isSubtype R c.type = false)) ∧
    tests.length ≤ plan.typeTests ∧
    tests.length ≤ ((Plan.full cs).tried (r.isSubtype R)).length ∧
    (∀ t code t',
      Yields (Dispatch.lowerStmt bind env value (default.map Prod.fst) (plan.map Prod.fst))
          t code t' →
      ∃ body, Built bind env static [] (default.map Prod.fst)
          ((i.bind (cs[·]?)).map (Clause.map Prod.fst)) body ∧
        StmtsTake r R bind value code body tests) ∧
    (∀ t code t',
      Yields (Dispatch.lowerExpr bind env value (default.map Prod.snd) (plan.map Prod.snd))
          t code t' →
      ∃ body, Built bind env static (.const .none) (default.map Prod.snd)
          ((i.bind (cs[·]?)).map (Clause.map Prod.snd)) body ∧
        ExprTakes r R bind value code body tests)

/-- **Planned dispatch refines dynamic dispatch.** For clauses whose designators resolve, planning
succeeds for statements and for expressions, with one plan for both, and on a subject whose
runtime type is a subtype of the static type the plan runs the branch of a dispatch that knows
nothing, except that an exact plan prefers the clause for the static type. -/
theorem planned_dispatch_refines_dynamic (hr : r.Reachable) (env : TypeEnv) (value : Ir.Expr)
    (bindType : Option HostType) (bind : String)
    (hstatic : ∀ T ∈ subjectType r env value bindType, T ∈ r.types)
    (clauses : List (String × Branch CompileM (List Ir.Stmt) × Branch CompileM Ir.Expr))
    (default : Option (Branch CompileM (List Ir.Stmt) × Branch CompileM Ir.Expr))
    (hclauses : ∀ c ∈ clauses, (r.lookup c.1).isSome) :
    ∃ cs plan, resolveClauses r clauses = .ok cs ∧
      planDispatch r env value bindType (clauses.map fun c => (c.1, c.2.1)) =
        .ok (plan.map Prod.fst) ∧
      planDispatch r env value bindType (clauses.map fun c => (c.1, c.2.2)) =
        .ok (plan.map Prod.snd) ∧
      ∀ R ∈ r.types, (∀ T ∈ subjectType r env value bindType, r.isSubtype R T = true) →
        RefinesDynamic r env (subjectType r env value bindType) bind value cs default plan R := by
  obtain ⟨cs, hcs⟩ := exists_resolveClauses hclauses
  refine ⟨cs, _, hcs, planDispatch_map Prod.fst hcs env value bindType,
    planDispatch_map Prod.snd hcs env value bindType, fun R hR hRT => ?_⟩
  have hf := hr.forest
  have htypes := mem_of_resolveClauses hcs
  have hknown : ∀ T ∈ subjectType r env value bindType, T ∈ r.types ∧ r.isSubtype R T = true :=
    fun T hT => ⟨hstatic T hT, hRT T hT⟩
  set static := subjectType r env value bindType
  set plan := Plan.make r static cs
  have hstaticType : plan.staticType = static := Plan.make_staticType r static cs
  have hkept : ∀ c ∈ plan.clauses, c.type ∈ r.types :=
    fun c hc => htypes c (Plan.make_clauses_subset r static cs hc)
  have hpick : plan.pick (r.isSubtype R) = (Plan.choice r static R cs).bind (cs[·]?) :=
    Plan.make_pick hf hR hknown htypes
  refine ⟨Plan.choice r static R cs, plan.tried (r.isSubtype R), Plan.choice_eq_dynamicChoice,
    fun hexact => ?_, plan.tried_length_le (r.isSubtype R),
    Plan.make_tried_length_le hf hR hknown htypes, fun t code t' hcode => ?_,
    fun t code t' hcode => ?_⟩
  · obtain ⟨T, k, hT, hk, hchoice⟩ := Plan.choice_of_isExact (R := R) hexact
    refine ⟨T, k, hT, hk, hchoice, ?_⟩
    rw [hchoice, ← hk]
    exact Plan.exactChoice_eq_dynamicChoice_iff (hknown T hT).2 hk
  · have hkept' : ∀ c ∈ (plan.map Prod.fst).clauses, c.type ∈ r.types := by
      simpa [Clause.map] using fun c hc => hkept c hc
    simpa [hpick, hstaticType] using stmtsTake_of_lowerStmt (R := R) hkept' hcode
  · have hkept' : ∀ c ∈ (plan.map Prod.snd).clauses, c.type ∈ r.types := by
      simpa [Clause.map] using fun c hc => hkept c hc
    simpa [hpick, hstaticType] using exprTakes_of_lowerExpr (R := R) hkept' hcode

end Refinement

/-- A subject that is known to be a component. -/
def componentSubject : TypeEnv :=
  ({} : TypeEnv).bind "value" (Host.builtin.lookup "Component")

/-- Clauses for an unrelated type, two subtypes and a supertype of a component. -/
def componentClauses : List (String × Branch CompileM (List Ir.Stmt) × Branch CompileM Ir.Expr) :=
  ["GameObject", "Rigidbody", "Behaviour", "UnityObject"].map fun d =>
    (d, fun _ => pure [.ret (some (.const (.str d)))], fun _ => pure (.const (.str d)))

/-- On a transform, which is neither a rigid body nor a behaviour, the dispatch on a component
refines the dynamic one. -/
theorem component_dispatch_refines_dynamic :
    ∃ cs plan, resolveClauses Host.builtin componentClauses = .ok cs ∧
      ∃ R ∈ Host.builtin.types, R.fullName = "UnityEngine.Transform" ∧
        RefinesDynamic Host.builtin componentSubject
          (subjectType Host.builtin componentSubject (.var "value") none) "v" (.var "value") cs none
          plan R := by
  have htransform : ∃ R ∈ Host.builtin.types, R.fullName = "UnityEngine.Transform" ∧
      ∀ T ∈ subjectType Host.builtin componentSubject (.var "value") none,
        Host.builtin.isSubtype R T = true := by
    decide +kernel
  obtain ⟨R, hR, hname, hRT⟩ := htransform
  obtain ⟨cs, plan, hcs, -, -, hrefines⟩ := planned_dispatch_refines_dynamic
    Registry.builtin_reachable componentSubject (.var "value") none "v" (by decide +kernel)
    componentClauses none (by decide +kernel)
  exact ⟨cs, plan, hcs, R, hR, hname, hrefines R hR hRT⟩

end Componentry
