import Componentry.Compile.Module
import Componentry.Proofs.Flow

/-!
# Places that a compilation visits

A compilation goes through the statements of a body and into the blocks inside them. A `Point` is
where it stands: the statements that are left of a block, and the environment and the trace that
hold there. `Leads` says how it gets from one point to the next, `Visits` collects such steps, and
`Starts` is the point at which a function or a method starts.

Every step but one is a flow. Going into an arm of a match binds the name that holds the subject
to the arm's type, whether or not that name is declared; `Visits` keeps a list of the declared
names that the arms around a point narrow in this way, the innermost first.

**Theorem (`Visited.of_visits`).** At every point that is visited, types are registered, only
numbered generated names have types of their own, and the type of a declared name is the one that
the innermost arm gave it, or else the one that an annotation writes.
-/

namespace Componentry

open CompileM

/-- The branches that a plan builds in order, each with the type of the bound name there. -/
def Plan.arms {β : Type} (default : Option β) : Plan β → List (Option HostType × β)
  | .exact _ c => [(some c.type, c.branch)]
  | .full cs => default.toList.map (none, ·) ++ cs.map fun c => (some c.type, c.branch)
  | .pruned T cs => default.toList.map (some T, ·) ++ cs.map fun c => (some c.type, c.branch)
  | .fallback T => default.toList.map (some T, ·)

/-- The type of an arm is that of a clause or the static type of the subject. -/
theorem Plan.of_mem_arms {β : Type} {default : Option β} {plan : Plan β} {a : Option HostType × β}
    (h : a ∈ plan.arms default) :
    (∃ c ∈ plan.clauses, a = (some c.type, c.branch)) ∨
      (a.1 = plan.staticType ∧ default = some a.2) := by
  cases plan with
  | exact T c => exact .inl ⟨c, by simp [clauses], by simpa [arms] using h⟩
  | fallback T =>
    obtain ⟨b, hb, rfl⟩ := List.mem_map.mp h
    exact .inr ⟨rfl, by simpa using hb⟩
  | full cs | pruned _ cs =>
    rcases List.mem_append.mp h with h | h
    · obtain ⟨b, hb, rfl⟩ := List.mem_map.mp h
      exact .inr ⟨rfl, by simpa using hb⟩
    · obtain ⟨c, hc, rfl⟩ := List.mem_map.mp h
      exact .inl ⟨c, hc, rfl⟩

def Source.Case.body : Source.Case → List Source.Stmt
  | .mk _ _ body => body

namespace Compile

/-! ## Points -/

/-- Where a compilation stands in a body. -/
structure Point where
  stmts : List Source.Stmt
  inLoop : Bool
  env : TypeEnv
  trace : Trace

/-- The compilation goes from a loop into its body. -/
inductive EntersLoop (r : Registry) : Point → Point → Prop
  | whileDo {span test body rest inLoop env t c t'} :
      Yields (expr r (loopEntry env body) test) t c t' →
      EntersLoop r ⟨.whileDo span test body [] :: rest, inLoop, env, t⟩
        ⟨body, true, loopEntry env body, t'⟩
  | forIn {span sp id use iter body rest inLoop env t t₁ c t'} :
      Yields (checkName span id) t () t₁ → Yields (expr r env iter) t₁ c t' →
      EntersLoop r ⟨.forIn span (.name sp id use) iter body [] :: rest, inLoop, env, t⟩
        ⟨body, true, forEntry env id body, t'⟩

/-- The compilation gets from one point to another. A step into an arm of a match is labelled with
the name that it binds and the type of the arm. -/
inductive Leads (r : Registry) : Point → Option (String × Option HostType) → Point → Prop
  | next {s rest inLoop env t code env' t'} : Yields (stmt r s inLoop env) t (code, env') t' →
      Leads r ⟨s :: rest, inLoop, env, t⟩ none ⟨rest, inLoop, env', t'⟩
  | thenBranch {span test body orelse rest inLoop env t c t'} : Yields (expr r env test) t c t' →
      Leads r ⟨.ifElse span test body orelse :: rest, inLoop, env, t⟩ none ⟨body, inLoop, env, t'⟩
  | elseBranch {span test body orelse rest inLoop env t c t₁ code bodyEnv t'} :
      Yields (expr r env test) t c t₁ → Yields (block r body inLoop env) t₁ (code, bodyEnv) t' →
      Leads r ⟨.ifElse span test body orelse :: rest, inLoop, env, t⟩ none ⟨orelse, inLoop, env, t'⟩
  | loopBody {p q} : EntersLoop r p q → Leads r p none q
  /-- The arms of a match are built in order, each in the environment that holds before it. -/
  | arm {span subject cases rest inLoop env t value t₁ heads t₂ bind t₃ plan t₄ before T body after
      codes t'} :
      Yields (expr r env subject) t value t₁ → Yields (caseHeads {} cases) t₁ heads t₂ →
      Yields (subjectName heads) t₂ bind t₃ →
      planDispatch r env value (heads.capture.bind env.declaredType)
        (heads.designators.zip (cases.map (·.body))) = .ok plan →
      Yields (record plan.staticType) t₃ () t₄ →
      plan.arms (if heads.hasDefault then (cases.map (·.body)).getLast? else none) =
        before ++ (T, body) :: after →
      Yields (before.mapM fun a => block r a.2 inLoop (env.bind bind a.1)) t₄ codes t' →
      Leads r ⟨.matchOn span subject cases :: rest, inLoop, env, t⟩ (some (bind, T))
        ⟨body, inLoop, env.bind bind T, t'⟩

/-- The declared name that a step narrows. -/
def narrowing (env : TypeEnv) : Option (String × Option HostType) → List (String × Option HostType)
  | none => []
  | some (x, T) => if env.isDeclared x then [(x, T)] else []

/-- The compilation gets from one point to another in any number of steps. The list holds the
names that the arms around the second point narrow, the innermost first. -/
inductive Visits (r : Registry) (p : Point) : List (String × Option HostType) → Point → Prop
  | start : Visits r p [] p
  | step {ns q label q'} : Visits r p ns q → Leads r q label q' →
      Visits r p (narrowing q.env label ++ ns) q'

/-- The type to which the innermost of the arms narrows a name. -/
def narrowedTo (ns : List (String × Option HostType)) (x : String) : Option (Option HostType) :=
  (ns.find? (·.1 == x)).map Prod.snd

/-- Going into an arm narrows the name that it binds if that is declared. -/
theorem narrowedTo_narrowing (env : TypeEnv) (ns : List (String × Option HostType)) (x y : String)
    (T : Option HostType) :
    narrowedTo (narrowing env (some (y, T)) ++ ns) x =
      if x = y ∧ env.isDeclared y = true then some T else narrowedTo ns x := by
  by_cases hd : env.isDeclared y = true
  · by_cases hxy : x = y
    · simp [narrowing, narrowedTo, hd, hxy]
    · simp [narrowing, narrowedTo, hd, hxy, Ne.symm hxy]
  · simp [narrowing, hd]

/-! ## What a step does -/

section Steps

variable {r : Registry} {p q : Point}

theorem mem_annotationsOfCases {cases : List Source.Case} {c : Source.Case} (hc : c ∈ cases) :
    Source.annotationsOf c.body ⊆ Source.annotationsOfCases cases := by
  induction cases with
  | nil => simp at hc
  | cons c' rest ih =>
    obtain ⟨pattern, guard, body⟩ := c'
    rcases List.mem_cons.mp hc with rfl | hc
    · simp [Source.annotationsOfCases, Source.Case.body]
    · exact fun note hnote => List.mem_append_right _ (ih hc hnote)

theorem exists_case_of_mem_arms {env : TypeEnv} {value : Ir.Expr} {bindType : Option HostType}
    {designators : List String} {cases : List Source.Case} {plan : Plan (List Source.Stmt)}
    {hasDefault : Bool} {a : Option HostType × List Source.Stmt}
    (hplan : planDispatch r env value bindType (designators.zip (cases.map (·.body))) = .ok plan)
    (ha : a ∈ plan.arms (if hasDefault then (cases.map (·.body)).getLast? else none)) :
    ∃ c ∈ cases, c.body = a.2 := by
  have hmem : a.2 ∈ cases.map (·.body) := by
    rcases Plan.of_mem_arms ha with ⟨c, hc, rfl⟩ | ⟨-, hlast⟩
    · obtain ⟨d, -, hzip⟩ := (of_mem_planDispatch hplan).2 c hc
      exact (List.of_mem_zip hzip).2
    · split_ifs at hlast
      exact List.mem_of_getLast? hlast
  exact List.mem_map.mp hmem

theorem Leads.inside {label : Option (String × Option HostType)} (h : Leads r p label q)
    (hm : Source.areMarked p.stmts = true) :
    Source.areMarked q.stmts = true ∧
      Source.annotationsOf q.stmts ⊆ Source.annotationsOf p.stmts ∧
      Source.boundNames q.stmts ⊆ Source.boundNames p.stmts := by
  cases h with
  | next h =>
    simp only [Source.areMarked, Bool.and_eq_true] at hm
    exact ⟨hm.2, by simp [Source.annotationsOf],
      fun x hx => Source.mem_boundNames_cons.mpr (.inr hx)⟩
  | arm _ _ _ hplan _ harms _ =>
    simp only [Source.areMarked, Source.Stmt.isMarked, Bool.and_eq_true] at hm
    obtain ⟨⟨pattern, guard, body⟩, hc, rfl⟩ :=
      exists_case_of_mem_arms hplan (harms ▸ List.mem_append_right _ List.mem_cons_self)
    refine ⟨Source.areMarkedCases_iff.mp hm.1 pattern guard body hc, fun note hnote => ?_,
      fun x hx => ?_⟩
    · exact List.mem_append_left _ (mem_annotationsOfCases hc hnote)
    · have hx : x ∈ Source.boundNames body := hx
      have hcase : x ∈ Source.boundInCases _ :=
        Source.mem_boundInCases.mpr ⟨_, hc, by simp [Source.Case.levels, hx]⟩
      simp [Source.mem_boundNames_cons, Source.Stmt.levels, hcase]
  | loopBody h =>
    cases h <;> simp only [Source.areMarked, Source.Stmt.isMarked, Bool.and_eq_true] at hm
    all_goals
      refine ⟨by simp [hm], fun note hnote => ?_, fun x hx => ?_⟩
      · simp [Source.annotationsOf, Source.Stmt.annotations, hnote]
      · simp [Source.mem_boundNames_cons, Source.Stmt.levels, hx]
  | _ =>
    simp only [Source.areMarked, Source.Stmt.isMarked, Bool.and_eq_true] at hm
    refine ⟨by simp [hm], fun note hnote => ?_, fun x hx => ?_⟩
    · simp [Source.annotationsOf, Source.Stmt.annotations, hnote]
    · simp [Source.mem_boundNames_cons, Source.Stmt.levels, hx]

theorem EntersLoop.flow (h : EntersLoop r p q) (hm : Source.areMarked p.stmts = true) :
    Flow r (Annotates r (Source.annotationsOf p.stmts)) (Source.boundNames p.stmts) p.env
      p.trace.generated q.env q.trace.generated := by
  cases h with
  | whileDo h =>
    refine .seq (.forget fun x hx => ?_) (.keep (ensures_expr r _ _ _ _ _ h).1)
    simp [Source.mem_boundNames_cons, Source.Stmt.levels, hx]
  | forIn hname h =>
    obtain ⟨hsource, rfl⟩ := yields_checkName hname
    simp only [Source.areMarked, Source.Stmt.isMarked, Bool.and_eq_true] at hm
    have hmentions := Source.mentions_levels_of_isTarget hm.1.1.1
    refine .seq (flow_forEntry (fun x hx => ?_) ?_ hsource) (.keep (ensures_expr r _ _ _ _ _ h).1)
    · simp [Source.mem_boundNames_cons, Source.Stmt.levels, hx]
    · simp [Source.mem_boundNames_cons, Source.Stmt.levels, hmentions]

/-- Every step but that into an arm is a flow. -/
theorem Leads.flow (h : Leads r p none q) (hm : Source.areMarked p.stmts = true) :
    Flow r (Annotates r (Source.annotationsOf p.stmts)) (Source.boundNames p.stmts) p.env
      p.trace.generated q.env q.trace.generated := by
  cases h with
  | @next s rest inLoop env t code env' t' h =>
    simp only [Source.areMarked, Bool.and_eq_true] at hm
    refine (flow_of_stmt r s hm.1 h).mono (fun x hx => ?_)
      (Annotates.mono (by simp [Source.annotationsOf]))
    exact Source.mem_boundNames_cons.mpr (.inl (Source.mem_boundNames_singleton.mp hx))
  | thenBranch h => exact .keep (ensures_expr r _ _ _ _ _ h).1
  | @elseBranch span test body orelse rest inLoop env t c t₁ code bodyEnv t' h hbody =>
    simp only [Source.areMarked, Source.Stmt.isMarked, Bool.and_eq_true] at hm
    exact .keep ((ensures_expr r _ _ _ _ _ h).1.trans (flow_of_block r body hm.1.1 hbody).le)
  | loopBody h => exact h.flow hm

/-- A step into an arm binds one name to a registered type: a name that the match binds, or a new
generated one. -/
theorem Leads.arm_spec {x : String} {T : Option HostType} (h : Leads r p (some (x, T)) q)
    (hm : Source.areMarked p.stmts = true) :
    q.env = p.env.bind x T ∧ p.trace.generated ≤ q.trace.generated ∧
      ((isGenerated x = false ∧ x ∈ Source.boundNames p.stmts) ∨
        ∃ k, p.trace.generated < k ∧ k ≤ q.trace.generated ∧ x = generatedName "cast" k) ∧
      (p.env.Within r → ∀ U ∈ T, U ∈ r.types) := by
  cases h with
  | @arm span subject cases rest inLoop env t value t₁ heads t₂ _ t₃ plan t₄ before _ body after
      codes t'
      hvalue hheads hbind hplan hrecord harms hbefore =>
    simp only [Source.areMarked, Source.Stmt.isMarked, Bool.and_eq_true] at hm
    obtain ⟨hle₂, hcapture⟩ := ensures_caseHeads cases {} t₁ heads t₂ hheads
    have hle₁ := (ensures_expr r env subject t value t₁ hvalue).1
    have hle₃ : t₃.generated ≤ t'.generated := by
      refine (ensures_record plan.staticType t₃ () t₄ hrecord).1.trans ?_
      refine (ensures_mapM (P := fun _ => True) (fun a ha => ?_) t₄ codes t' hbefore).1
      obtain ⟨⟨pattern, guard, stmts⟩, hc, hbody⟩ :=
        exists_case_of_mem_arms hplan (harms ▸ List.mem_append_left _ ha)
      intro τ result τ' hblock
      have hmarked : Source.areMarked a.2 = true :=
        hbody ▸ Source.areMarkedCases_iff.mp hm.1 pattern guard stmts hc
      exact ⟨(flow_of_block r a.2 hmarked hblock).le, trivial⟩
    refine ⟨rfl, ?_, ?_, fun henv U hU => ?_⟩
    · rcases yields_subjectName hbind with ⟨-, rfl⟩ | ⟨-, -, hnext⟩
      · exact (hle₁.trans hle₂).trans hle₃
      · rw [hnext] at hle₃
        exact (hle₁.trans hle₂).trans (Nat.le_of_succ_le hle₃)
    · rcases yields_subjectName hbind with ⟨hcap, -⟩ | ⟨-, rfl, hnext⟩
      · obtain ⟨hmem, hsource⟩ : x ∈ Source.boundInCases cases ∧ isGenerated x = false := by
          simpa using hcapture x hcap
        exact .inl ⟨hsource, by simp [Source.mem_boundNames_cons, Source.Stmt.levels, hmem]⟩
      · refine .inr ⟨t₂.generated + 1, Nat.lt_succ_of_le (hle₁.trans hle₂), ?_, rfl⟩
        rwa [hnext] at hle₃
    · -- An arm's type is that of a clause, or the static type of the subject.
      have hmem : (T, body) ∈
          plan.arms (if heads.hasDefault then (cases.map (·.body)).getLast? else none) :=
        harms ▸ List.mem_append_right _ List.mem_cons_self
      obtain ⟨hstatic, hclauses⟩ := of_mem_planDispatch hplan
      rcases Plan.of_mem_arms hmem with ⟨c, hc, heq⟩ | ⟨heq, -⟩
      · obtain ⟨d, hd, -⟩ := hclauses c hc
        obtain rfl : c.type = U := by simpa [(Prod.mk.inj heq).1] using hU
        exact Registry.mem_of_lookup hd
      · have heq : T = subjectType r env value (heads.capture.bind env.declaredType) :=
          Eq.trans heq hstatic
        refine subjectType_mem henv (fun V hV => ?_) U (heq ▸ hU)
        obtain ⟨id, -, hid⟩ := Option.bind_eq_some_iff.mp hV
        unfold TypeEnv.declaredType at hid
        split_ifs at hid
        exact henv.locals id V ((env.localType_eq_some id).mp hid)

end Steps

/-! ## The invariant -/

/-- What holds wherever a compilation comes to: `declares` tells the types that annotations write,
and `ns` the names that arms around the point narrow. -/
structure Visited (r : Registry) (declares : String → HostType → Prop)
    (ns : List (String × Option HostType)) (p : Point) : Prop where
  marked : Source.areMarked p.stmts = true
  annotations : ∀ x T, Annotates r (Source.annotationsOf p.stmts) x T → declares x T
  within : p.env.Within r
  /-- A generated name that has a type without being declared has a number that is in use. -/
  numbered : ∀ x U, isGenerated x = true → p.env.isDeclared x = false →
    p.env.locals.get? x = some (some U) → ∃ k ≤ p.trace.generated, x = generatedName "cast" k
  narrowed : ∀ x T, narrowedTo ns x = some T →
    p.env.isDeclared x = true ∧ p.env.localType x = T
  justified : p.env.Justified fun x U => narrowedTo ns x = none → declares x U

namespace Visited

variable {r : Registry} {declares : String → HostType → Prop} {ns : List (String × Option HostType)}
  {p q : Point}

theorem flow (hp : Visited r declares ns p) (h : Leads r p none q) : Visited r declares ns q := by
  have hflow := h.flow hp.marked
  obtain ⟨hmarked, hnotes, -⟩ := h.inside hp.marked
  refine ⟨hmarked, fun x T hT => hp.annotations x T (Annotates.mono hnotes x T hT),
    hflow.within hp.within, fun x U hgen hd hget => ?_, fun x T hT => ?_,
    hflow.justified (fun x T hT _ => hp.annotations x T hT) hp.justified⟩
  · -- The type was there before the step.
    have hget' : p.env.locals.get? x = some (some U) := by
      rcases hflow.generated hgen with h | h
      · rw [← h, hget]
      · simp [hget] at h
    have hd' : p.env.isDeclared x = false := by
      by_contra hd'
      have hdq := (hflow.declared (by simpa using hd')).1
      simp [hd] at hdq
    obtain ⟨k, hk, rfl⟩ := hp.numbered x U hgen hd' hget'
    exact ⟨k, hk.trans hflow.le, rfl⟩
  · obtain ⟨hd, htype⟩ := hp.narrowed x T hT
    obtain ⟨hd', htype'⟩ := hflow.declared hd
    exact ⟨hd', htype'.trans htype⟩

theorem arm (hp : Visited r declares ns p) {y : String} {T : Option HostType}
    (h : Leads r p (some (y, T)) q) :
    Visited r declares (narrowing p.env (some (y, T)) ++ ns) q := by
  obtain ⟨henv, hle, hname, hT⟩ := h.arm_spec hp.marked
  obtain ⟨hmarked, hnotes, -⟩ := h.inside hp.marked
  refine ⟨hmarked, fun x T hT => hp.annotations x T (Annotates.mono hnotes x T hT),
    henv ▸ hp.within.bind (hT hp.within), fun x U hgen hd hget => ?_, fun x S hS => ?_,
    fun x U hd hU hnone => ?_⟩
  · rw [henv] at hd hget
    by_cases hxy : x = y
    · subst hxy
      rcases hname with ⟨hsource, -⟩ | ⟨k, -, hk, rfl⟩
      · simp [hgen] at hsource
      · exact ⟨k, hk, rfl⟩
    · obtain ⟨k, hk, rfl⟩ := hp.numbered x U hgen hd (by simpa [hxy] using hget)
      exact ⟨k, hk.trans hle, rfl⟩
  · rw [narrowedTo_narrowing] at hS
    rw [henv]
    split_ifs at hS with hnarrow
    · obtain ⟨rfl, hd⟩ := hnarrow
      exact ⟨hd, by simpa using hS⟩
    · obtain ⟨hd, htype⟩ := hp.narrowed x S hS
      have hxy : x ≠ y := by rintro rfl; exact hnarrow ⟨rfl, hd⟩
      exact ⟨hd, by simpa [hxy] using htype⟩
  · rw [narrowedTo_narrowing] at hnone
    rw [henv] at hd hU
    have hd : p.env.isDeclared x = true := hd
    split_ifs at hnone with hnarrow
    have hxy : x ≠ y := by rintro rfl; exact hnarrow ⟨rfl, hd⟩
    exact hp.justified x U hd (by simpa [hxy] using hU) hnone

/-- **The invariant holds wherever a compilation comes to.** -/
theorem of_visits (hp : Visited r declares [] p) (h : Visits r p ns q) :
    Visited r declares ns q := by
  induction h with
  | start => exact hp
  | @step ns q label q' _ hleads ih =>
    cases label with
    | none => exact ih.flow hleads
    | some l => exact ih.arm hleads

end Visited

/-! ## Where functions start -/

/-- An environment in which a module is compiled: it knows module-level values and helper
functions. -/
def IsModuleEnv (r : Registry) (env : TypeEnv) : Prop :=
  ∃ globals t table t' callables, Yields (globalTypes r globals) t table t' ∧
    env = { globals := table, callables }

/-- A function, or a method of the given component, starts to be compiled at the point. -/
structure Starts (r : Registry) (fn : FunctionSource) (receiver : Option HostType) (p : Point) :
    Prop where
  marked : Source.areMarked fn.body = true
  registered : ∀ T ∈ receiver, T ∈ r.types
  enters : ∃ env t ps, IsModuleEnv r env ∧ Yields (params r fn receiver env) t (ps, p.env) p.trace
  stmts_eq : p.stmts = fn.body
  inLoop_eq : p.inLoop = false

/-- An annotation in the function gives the name the type: that of a parameter, or of an
assignment in its body. The first parameter of a method counts as annotated with its component. -/
inductive Declares (r : Registry) (fn : FunctionSource) (receiver : Option HostType) :
    String → HostType → Prop
  | param {p annot T} : p ∈ fn.params.regular → p.annot = some annot → Writes r annot T →
      Declares r fn receiver p.name T
  | receiver {p rest T} : fn.params.regular = p :: rest → receiver = some T →
      Declares r fn receiver p.name T
  | inBody {x T} : Annotates r (Source.annotationsOf fn.body) x T → Declares r fn receiver x T

/-- An environment that a compilation reaches, at module level or inside a body. -/
def ReachedEnv (r : Registry) (env : TypeEnv) : Prop :=
  IsModuleEnv r env ∨
    ∃ fn receiver p ns q, Starts r fn receiver p ∧ Visits r p ns q ∧ q.env = env

section Start

variable {r : Registry} {fn : FunctionSource} {receiver : Option HostType} {p : Point}

theorem globalTypes_mem {globals : List GlobalSource} {t t' : Trace}
    {table : Table (Option HostType)}
    (h : Yields (globalTypes r globals) t table t') :
    ∀ x U, table.get? x = some (some U) → U ∈ r.types := by
  induction globals generalizing t table with
  | nil =>
    obtain ⟨rfl, -⟩ := yields_pure.mp h
    simp
  | cons g rest ih =>
    simp only [globalTypes, yields_bind, yields_pure] at h
    obtain ⟨T, t₁, hT, table', t₂, hrest, rfl, rfl⟩ := h
    intro x U hx
    obtain ⟨-, hwrites⟩ := yields_annotType hT
    simp only [Table.get?, Table.findEntry] at hx
    split_ifs at hx
    · obtain ⟨e, -, hU⟩ := hwrites U (Option.some.inj hx)
      exact hU.mem
    · exact ih hrest x U hx

theorem IsModuleEnv.within {env : TypeEnv} (h : IsModuleEnv r env) : env.Within r := by
  obtain ⟨globals, t, table, t', callables, htypes, rfl⟩ := h
  exact ⟨by simp, globalTypes_mem htypes⟩

/-- What parameters leave in the environment: registered types, all of them declared and written by
annotations. -/
theorem paramList_spec {P : String → HostType → Prop} {ps : List Source.Param} {env env' : TypeEnv}
    {t t' : Trace} {params : List Ir.Param} (h : Yields (paramList r ps env) t (params, env') t')
    (hP : ∀ p ∈ ps, ∀ annot T, p.annot = some annot → Writes r annot T → P p.name T)
    (henv : env.Within r)
    (hknown : ∀ x U, env.locals.get? x = some (some U) → env.isDeclared x = true)
    (hjust : env.Justified P) :
    env'.Within r ∧ (∀ x U, env'.locals.get? x = some (some U) → env'.isDeclared x = true) ∧
      env'.Justified P := by
  induction ps generalizing env t params with
  | nil =>
    obtain ⟨heq, -⟩ := yields_pure.mp h
    obtain rfl := congrArg Prod.snd heq
    exact ⟨henv, hknown, hjust⟩
  | cons p rest ih =>
    obtain ⟨hp, hrest⟩ := List.forall_mem_cons.mp hP
    simp only [paramList, yields_bind, yields_pure] at h
    obtain ⟨_, t₁, -, T, t₂, hT, ⟨params', env₂⟩, t₃, hps, heq, rfl⟩ := h
    obtain rfl := congrArg Prod.snd heq
    obtain ⟨-, hwrites⟩ := yields_annotType hT
    cases T with
    | none =>
      refine ih hps hrest (henv.bind (by simp)) (fun x U hx => ?_) (fun x U hd hU => ?_)
      · by_cases hxp : x = p.name
        · simp [hxp] at hx
        · exact hknown x U (by simpa [hxp] using hx)
      · by_cases hxp : x = p.name
        · simp [hxp] at hU
        · exact hjust x U hd (by simpa [hxp] using hU)
    | some S =>
      obtain ⟨e, he, hS⟩ := hwrites S rfl
      refine ih hps hrest (henv.declare (by simpa using hS.mem)) (fun x U hx => ?_)
        (fun x U hd hU => ?_)
      · by_cases hxp : x = p.name
        · simp [hxp]
        · simpa [hxp] using hknown x U (by simpa [hxp] using hx)
      · by_cases hxp : x = p.name
        · obtain rfl : S = U := by simpa [hxp] using hU
          exact hxp ▸ hp e S he hS
        · exact hjust x U (by simpa [hxp] using hd) (by simpa [hxp] using hU)

theorem params_spec {env env' : TypeEnv} {t t' : Trace} {ps : List Ir.Param}
    (hmodule : IsModuleEnv r env) (hreceiver : ∀ T ∈ receiver, T ∈ r.types)
    (h : Yields (params r fn receiver env) t (ps, env') t') :
    env'.Within r ∧ (∀ x U, env'.locals.get? x = some (some U) → env'.isDeclared x = true) ∧
      env'.Justified (Declares r fn receiver) := by
  have hwithin := hmodule.within
  have hempty : ∀ x, env.locals.get? x = none := by
    obtain ⟨_, _, _, _, _, -, rfl⟩ := hmodule
    simp
  obtain ⟨-, h⟩ := yields_check.mp h
  obtain ⟨-, h⟩ := yields_check.mp h
  obtain ⟨-, h⟩ := yields_check.mp h
  cases receiver with
  | none =>
    refine paramList_spec h (fun p hp annot T hannot hT => .param hp hannot hT) hwithin ?_ ?_
    · simp [hempty]
    · intro x U _ hU
      simp [TypeEnv.localType, hempty] at hU
  | some T =>
    cases hregular : fn.params.regular with
    | nil => simp [hregular] at h
    | cons p rest =>
      simp only [hregular] at h
      obtain ⟨-, h⟩ := yields_check.mp h
      simp only [yields_bind, yields_pure] at h
      obtain ⟨⟨ps', env₁⟩, t₁, hps, heq, rfl⟩ := h
      obtain rfl := congrArg Prod.snd heq
      have hmem : ∀ q ∈ rest, q ∈ fn.params.regular := fun q hq => by simp [hregular, hq]
      refine paramList_spec hps (fun q hq annot S hannot hS => .param (hmem q hq) hannot hS)
        (hwithin.declare hreceiver) (fun x U hx => ?_) (fun x U hd hU => ?_)
      · by_cases hxp : x = p.name
        · simp [hxp]
        · simp [hxp, hempty] at hx
      · by_cases hxp : x = p.name
        · obtain rfl : T = U := by simpa [hxp] using hU
          exact hxp ▸ .receiver hregular rfl
        · simp [hxp, TypeEnv.localType, hempty] at hU

/-- The invariant holds where a function starts. -/
theorem Starts.visited (h : Starts r fn receiver p) : Visited r (Declares r fn receiver) [] p := by
  obtain ⟨env, t, ps, hmodule, hparams⟩ := h.enters
  obtain ⟨hwithin, hknown, hjust⟩ := params_spec hmodule h.registered hparams
  refine ⟨by simpa [h.stmts_eq] using h.marked, fun x T hT => .inBody (h.stmts_eq ▸ hT), hwithin,
    fun x U _ hd hget => ?_, fun x T hT => by simp [narrowedTo] at hT,
    fun x U hd hU _ => hjust x U hd hU⟩
  simp [hknown x U hget] at hd

/-- **Reached environments know only registered types.** -/
theorem ReachedEnv.within {env : TypeEnv} (h : ReachedEnv r env) : env.Within r := by
  rcases h with hmodule | ⟨fn, receiver, p, ns, q, hstarts, hvisits, rfl⟩
  · exact hmodule.within
  · exact (hstarts.visited.of_visits hvisits).within

end Start

end Compile

end Componentry
