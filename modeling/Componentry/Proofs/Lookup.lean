import Componentry.Proofs.Dispatch
import Componentry.Proofs.Engine
import Componentry.Proofs.Visits

/-!
# Component lookups

A lookup `get_component(obj, target)` is specialized by what is known about its arguments. Four
shapes of code come out of that: the call itself, a dispatch on the target, a dispatch on the
object, and one in the other.

**Theorem (`specialized_lookup_refines_reference`).** Whatever is known, the code first evaluates
the arguments that are no variables, once and in order, and then answers as a lookup that knows
nothing: it calls the object's own method if object and target have the right shapes, and is
nothing otherwise. It makes no more type tests than the code for arguments of unknown types.

That the call may be made without a test rests on a fact about the host: only game objects and
components have the method (`Host.Engine.shape_of_hasMethod`).
-/

namespace Componentry

open CompileM Run

/-! ## Dispatch on a variable -/

namespace Access

variable {M : Machine} {r : Registry} {place : Option Place} {env : TypeEnv} {t t' : Trace}

/-- A dispatch of a lookup on a value goes on with a branch that was built for one of the types, if
the value has one of them, and else is nothing. -/
theorem runFrom_dispatchOn {stem subject : String} {types : List String}
    {build : String → Branch CompileM Ir.Expr} {code : Ir.Expr}
    (h : Yields (dispatchOn r place stem types subject env build) t code t')
    (hf : Registry.Forest r.types)
    (htypes : ∀ d ∈ types, ∃ C, r.lookup d = some C ∧ C.fullName = d)
    (hstatic : ∀ T ∈ nameType env subject, T ∈ r.types ∧ T.fullName ∉ types)
    {ρ : Locals M} {v : M.Value} (hread : ρ.read subject = some v)
    (hv : HasType M r v (nameType env subject)) :
    ∃ k tests b, tests.length ≤ (upTo (M.isInstance v) types).length ∧
      (nameType env subject = none → tests = upTo (M.isInstance v) types) ∧
      (types.any (M.isInstance v) = true → ∃ C ∈ r.types, ∃ τ τ',
        Yields (build (generatedName stem k) (env.bind (generatedName stem k) (some C))) τ b τ') ∧
      (types.any (M.isInstance v) = false → b = .const .none) ∧
      ∀ m, runFrom (eval M code ρ) m =
        runFrom (eval M b (bound (generatedName stem k) (.var subject) ρ v))
          (m.tested (tests.map (v, ·))) := by
  simp only [dispatchOn, yields_bind, yields_fresh, yields_ofRegistry, yields_record,
    planDispatch_eq_ok] at h
  obtain ⟨bind, t₁, ⟨rfl, rfl⟩, plan, t₂, ⟨⟨cs, hcs, rfl⟩, rfl⟩, -, t₃, rfl, hcode⟩ := h
  obtain ⟨hnames, hbranches⟩ := fullNames_of_resolveClauses hcs htypes
  have hsubject : subjectType r env (.var subject) none = nameType env subject := by
    cases h : nameType env subject <;> simp [subjectType, mostSpecific, challenge, resolve, h]
  rw [hsubject] at hcode
  have hinexact : ∀ T ∈ nameType env subject, ∀ c ∈ cs, c.type.fullName ≠ T.fullName := by
    intro T hT c hc heq
    refine (hstatic T hT).2 ?_
    rw [← hnames, ← heq]
    exact List.mem_map_of_mem (List.mem_map_of_mem hc)
  obtain ⟨hpick, hlength, hfull⟩ := Plan.make_on_value hf (fun T hT => (hstatic T hT).1) hv
    (mem_of_resolveClauses hcs) hinexact
  have hupTo : (upTo (passes v) (cs.map Clause.type)).map HostType.fullName =
      upTo (M.isInstance v) types := by
    rw [← hnames]
    exact (upTo_map HostType.fullName (M.isInstance v) _).symm
  have hany : types.any (M.isInstance v) = (cs.find? (passes v ·.type)).isSome := by
    rw [← hnames, List.any_map, List.any_map, List.isSome_find?]
    rfl
  obtain ⟨b, hbuilt, htakes⟩ := lowerExpr_takes hcode (passes v)
  rw [hpick] at hbuilt
  refine ⟨t.generated + 1,
    ((Plan.make r (nameType env subject) cs).tried (passes v)).map HostType.fullName, b,
    ?_, ?_, ?_, ?_,
    fun m => ?_⟩
  · rw [← hupTo, List.length_map, List.length_map]
    exact hlength
  · intro hnone
    rw [hfull hnone, hupTo]
  · intro hsome
    obtain ⟨c, hc⟩ := Option.isSome_iff_exists.mp (hany ▸ hsome)
    rw [hc] at hbuilt
    obtain ⟨τ, τ', hyields⟩ := hbuilt
    rw [hbranches c (List.mem_of_find?_eq_some hc)] at hyields
    exact ⟨c.type, mem_of_resolveClauses hcs c (List.mem_of_find?_eq_some hc), τ, τ', hyields⟩
  · intro hnone
    rw [hany, Option.isSome_eq_false_iff, Option.isNone_iff_eq_none] at hnone
    rw [hnone] at hbuilt
    exact hbuilt
  · rw [htakes M ρ m m v (runFrom_readName hread) fun _ _ => rfl, testsOn, List.map_map]
    rfl

/-- Code for branches that can be built can be built. -/
theorem total_lowerExpr {bind : String} {value : Ir.Expr} {plan : Plan (Branch CompileM Ir.Expr)}
    (hclauses : ∀ c ∈ plan.clauses, ∀ e, Total (c.branch e)) :
    Total (Dispatch.lowerExpr bind env value none plan) := by
  have hall (cs : List (Clause (Branch CompileM Ir.Expr)))
      (hcs : ∀ c ∈ cs, ∀ e, Total (c.branch e)) : Total (Dispatch.buildAll bind env cs) := by
    induction cs with
    | nil => exact total_pure _
    | cons c rest ih =>
      obtain ⟨hc, hrest⟩ := List.forall_mem_cons.mp hcs
      exact (hc _).bind fun _ _ _ _ => (ih hrest).bind fun _ _ _ _ => total_pure _
  refine Total.bind ?_ fun _ _ _ _ => total_pure _
  cases plan with
  | exact T c => exact hclauses c List.mem_cons_self _
  | fallback T => exact total_pure _
  | pruned T cs =>
    exact (total_pure _).bind fun _ _ _ _ => (hall cs hclauses).bind fun _ _ _ _ => total_pure _
  | full cs =>
    exact (total_pure _).bind fun _ _ _ _ => (hall cs hclauses).bind fun _ _ _ _ => total_pure _

theorem total_dispatchOn {build : String → Branch CompileM Ir.Expr}
    (hbuild : ∀ bind e, Total (build bind e)) {types : List String}
    (htypes : ∀ d ∈ types, ∃ C, r.lookup d = some C ∧ C.fullName = d) (stem subject : String) :
    Total (dispatchOn r place stem types subject env build) := by
  refine (total_fresh stem).bind fun bind _ _ _ => ?_
  obtain ⟨cs, hcs⟩ :
      ∃ cs, resolveClauses r (types.map fun type => (type, build bind)) = .ok cs := by
    refine exists_resolveClauses fun c hc => ?_
    obtain ⟨d, hd, rfl⟩ := List.mem_map.mp hc
    obtain ⟨C, hC, -⟩ := htypes d hd
    exact Option.isSome_of_eq_some hC
  have hplan : planDispatch r env (.var subject) none (types.map fun type => (type, build bind)) =
      .ok (.make r (subjectType r env (.var subject) none) cs) :=
    planDispatch_eq_ok.mpr ⟨cs, hcs, rfl⟩
  refine (total_ofRegistry hplan).bind fun plan _ _ hyields => ?_
  obtain ⟨hok, -⟩ := yields_ofRegistry.mp hyields
  refine (total_record _).bind fun _ _ _ _ => total_lowerExpr fun c hc e => ?_
  rw [branch_of_mem_planDispatch hok c hc]
  exact hbuild bind e

/-! ## Lookups on variables -/

/-- The call of an object's own method. -/
def callOn (M : Machine) (o v : M.Value) : Action M M.Value := do
  let method ← perform (M.attr o Host.accessMethod)
  perform (M.call method [v])

theorem runFrom_directCall {ρ : Locals M} {obj target : String} {o v : M.Value} {m : Memory M}
    (ho : ρ.read obj = some o) (hv : ρ.read target = some v) :
    runFrom (eval M (directCall (.var obj) (.var target)) ρ) m = runFrom (callOn M o v) m := by
  simp only [directCall, eval, evalEach, inOrder, callOn, runFrom_bind, runFrom_readName ho]
  rcases runFrom (perform (M.attr o Host.accessMethod)) m with ⟨_ | method, m'⟩
  · rfl
  · simp only [runFrom_readName hv]
    rfl

/-- Whether a value has the shape of an object that answers lookups. -/
def isObject (M : Machine) (o : M.Value) : Bool :=
  (Host.ObjectShape.all.map (·.fullName)).any (M.isInstance o)

/-- Whether a value can be looked up. -/
def isTarget (M : Machine) (v : M.Value) : Bool :=
  (Host.TargetKind.all.map (·.fullName)).any (M.isInstance v)

/-- **The reference.** A lookup that knows nothing about its arguments. -/
def reference (M : Machine) (o v : M.Value) : Action M M.Value :=
  if isObject M o && isTarget M v then callOn M o v else pure (M.constant .none)

/-- The tests on an object, up to the first shape that it has. -/
def objectTests (M : Machine) (o : M.Value) : List (M.Value × String) :=
  (upTo (M.isInstance o) (Host.ObjectShape.all.map (·.fullName))).map (o, ·)

/-- The tests on a target, up to the first kind that it is of. -/
def targetTests (M : Machine) (v : M.Value) : List (M.Value × String) :=
  (upTo (M.isInstance v) (Host.TargetKind.all.map (·.fullName))).map (v, ·)

/-- The type tests of a lookup that knows nothing: a target is tested only for an object that has
one of the shapes. -/
def nestedTests (M : Machine) (o v : M.Value) : List (M.Value × String) :=
  objectTests M o ++ if isObject M o then targetTests M v else []

section Knowledge

variable {o v : M.Value} {obj target : String}

theorem isObject_of_isImplementer (hr : Host.Engine r) (henv : env.Within r)
    (ho : HasType M r o (nameType env obj)) (h : isImplementer r env (.var obj) = true) :
    isObject M o = true := by
  simp only [isImplementer, resolve] at h
  split at h
  · simp at h
  · next T hT =>
    have hmem := nameType_mem henv hT
    obtain ⟨s, hs, habove⟩ := hr.shape_of_hasMethod hmem h
    obtain ⟨C, hC, hname, -⟩ := hr.shape s
    have hTC : r.isSubtype T C = true := by rwa [Registry.isSubtype, hname]
    refine List.any_eq_true.mpr ⟨s.fullName, List.mem_map_of_mem hs, ?_⟩
    rw [← hname]
    exact ho.isInstance hr.reachable.forest hT hmem (Registry.mem_of_lookup hC) hTC

theorem isTarget_of_targetKind? (hr : Host.Engine r) (henv : env.Within r)
    (hv : HasType M r v (nameType env target)) {k : Host.TargetKind}
    (h : targetKind? r env (.var target) = some k) : isTarget M v = true := by
  obtain ⟨T, hT, hk⟩ := Option.bind_eq_some_iff.mp h
  obtain ⟨C, hC, hname⟩ := hr.kind k
  have habove := List.find?_some hk
  have hTC : r.isSubtype T C = true := by rwa [Registry.isSubtype, hname]
  refine List.any_eq_true.mpr ⟨k.fullName, List.mem_map_of_mem (List.mem_of_find?_eq_some hk), ?_⟩
  rw [← hname]
  exact hv.isInstance hr.reachable.forest hT (nameType_mem henv hT) (Registry.mem_of_lookup hC) hTC

/-- The static type of an object that may not answer lookups is none of the shapes. -/
theorem not_shape_of_isImplementer (hr : Host.Engine r) (henv : env.Within r)
    (h : isImplementer r env (.var obj) = false) :
    ∀ T ∈ nameType env obj, T ∈ r.types ∧ T.fullName ∉ Host.ObjectShape.all.map (·.fullName) := by
  intro T hT
  have hmem := nameType_mem henv hT
  refine ⟨hmem, fun hshape => ?_⟩
  obtain ⟨s, -, hs⟩ := List.mem_map.mp hshape
  obtain ⟨C, hC, hname, hmethod⟩ := hr.shape s
  obtain rfl : C = T := hr.reachable.forest.eq_of_fullName (Registry.mem_of_lookup hC) hmem
    (hname.trans hs)
  have hresolve : resolve r env (.var obj) = some C := hT
  rw [isImplementer, hresolve] at h
  exact Bool.false_ne_true (h.symm.trans hmethod)

/-- The static type of a target of unknown kind is none of the kinds. -/
theorem not_kind_of_targetKind? (henv : env.Within r)
    (h : targetKind? r env (.var target) = none) :
    ∀ T ∈ nameType env target, T ∈ r.types ∧ T.fullName ∉ Host.TargetKind.all.map (·.fullName) := by
  intro T hT
  refine ⟨nameType_mem henv hT, fun hkind => ?_⟩
  obtain ⟨k, hk, hname⟩ := List.mem_map.mp hkind
  have hresolve : resolve r env (.var target) = some T := hT
  rw [targetKind?, hresolve, Option.bind_some, List.find?_eq_none] at h
  exact h k hk (by simp [Registry.ancestors, hname])

end Knowledge

/-- A run answers a lookup of `v` on `o` as the reference does, after no more tests than `full`, and
after just these if nothing is known. -/
def Answers (M : Machine) (o v : M.Value) (full : List (M.Value × String)) (known : Bool)
    (run : Action M M.Value) : Prop :=
  ∃ tests, tests.length ≤ full.length ∧ (known = false → tests = full) ∧
    ∀ m, runFrom run m = runFrom (reference M o v) (m.tested tests)

theorem Answers.weaken {o v : M.Value} {full full' : List (M.Value × String)} {known : Bool}
    {run : Action M M.Value} (h : Answers M o v full known run)
    (hle : full.length ≤ full'.length) : Answers M o v full' true run := by
  obtain ⟨tests, hlength, -, hruns⟩ := h
  exact ⟨tests, hlength.trans hle, by simp, hruns⟩

theorem shapes_resolve (hr : Host.Engine r) :
    ∀ d ∈ Host.ObjectShape.all.map (·.fullName), ∃ C, r.lookup d = some C ∧ C.fullName = d := by
  intro d hd
  obtain ⟨s, -, rfl⟩ := List.mem_map.mp hd
  obtain ⟨C, hC, hname, -⟩ := hr.shape s
  exact ⟨C, hC, hname⟩

theorem kinds_resolve (hr : Host.Engine r) :
    ∀ d ∈ Host.TargetKind.all.map (·.fullName), ∃ C, r.lookup d = some C ∧ C.fullName = d := by
  intro d hd
  obtain ⟨k, -, rfl⟩ := List.mem_map.mp hd
  exact hr.kind k

theorem total_onVariables (hr : Host.Engine r) (obj target : String) :
    Total (onVariables r place obj target env) := by
  have hcall (o t : String) :
      Total (pure (directCall (.var o) (.var t)) : CompileM Ir.Expr) := total_pure _
  unfold onVariables
  split
  · exact hcall _ _
  · exact total_dispatchOn (fun _ _ => hcall _ _) (kinds_resolve hr) _ _
  · exact total_dispatchOn (fun _ _ => hcall _ _) (shapes_resolve hr) _ _
  · refine total_dispatchOn (fun _ _ => ?_) (shapes_resolve hr) _ _
    exact total_dispatchOn (fun _ _ => hcall _ _) (kinds_resolve hr) _ _

section Variables

variable {o v : M.Value} {obj target : String} {ρ : Locals M} {code : Ir.Expr}

theorem answers_directCall (ho : ρ.read obj = some o) (hv : ρ.read target = some v)
    (hshape : isObject M o = true) (hlook : isTarget M v = true) :
    Answers M o v [] false (eval M (directCall (.var obj) (.var target)) ρ) := by
  refine ⟨[], Nat.le_refl _, fun _ => rfl, fun m => ?_⟩
  rw [runFrom_directCall ho hv, reference, hshape, hlook, Memory.tested_nil]
  rfl

/-- A dispatch on the target answers for an object that has one of the shapes. -/
theorem answers_dispatchOnTarget (hr : Host.Engine r) (henv : env.Within r)
    (hobj : ∀ k, obj ≠ generatedName "target" k) (ho : ρ.read obj = some o)
    (hv : ρ.read target = some v) (hvtype : HasType M r v (nameType env target))
    (hkind : targetKind? r env (.var target) = none) (hshape : isObject M o = true)
    (h : Yields (dispatchOnTarget r place target env fun narrowed _ =>
      pure (directCall (.var obj) (.var narrowed))) t code t') :
    Answers M o v (targetTests M v) (nameType env target).isSome (eval M code ρ) := by
  obtain ⟨k, tests, b, hlength, hfull, hsome, hnone, hruns⟩ := runFrom_dispatchOn h
    hr.reachable.forest (kinds_resolve hr) (not_kind_of_targetKind? henv hkind) hv hvtype
  refine ⟨tests.map (v, ·), by simpa [targetTests] using hlength, ?_, fun m => ?_⟩
  · intro hunknown
    rw [hfull (by simpa using hunknown), targetTests]
  · rw [hruns m, reference, hshape, Bool.true_and]
    by_cases hlook : isTarget M v = true
    · obtain ⟨C, -, τ, τ', hyields⟩ := hsome hlook
      obtain ⟨rfl, -⟩ := yields_pure.mp hyields
      rw [if_pos hlook]
      exact runFrom_directCall ((read_bound_of_ne (hobj k)).trans ho) (read_bound_var hv)
    · obtain rfl := hnone (Bool.eq_false_iff.mpr hlook)
      rw [if_neg hlook]
      rfl

/-- A dispatch on the object answers if each of its branches does. -/
theorem answers_dispatchOnShape (hr : Host.Engine r) (henv : env.Within r)
    (htarget : ∀ k, target ≠ generatedName "obj" k) (ho : ρ.read obj = some o)
    (hv : ρ.read target = some v) (hotype : HasType M r o (nameType env obj))
    (himpl : isImplementer r env (.var obj) = false) {known : Bool}
    {build : String → Branch CompileM Ir.Expr}
    (h : Yields (dispatchOnShape r place obj env build) t code t')
    (hbuild : isObject M o = true → ∀ k, ∀ C ∈ r.types, ∀ τ b τ' (ρ' : Locals M),
      Yields (build (generatedName "obj" k) (env.bind (generatedName "obj" k) (some C))) τ b τ' →
      ρ'.read (generatedName "obj" k) = some o → ρ'.read target = some v →
      Answers M o v (targetTests M v) known (eval M b ρ')) :
    Answers M o v (nestedTests M o v) ((nameType env obj).isSome || known) (eval M code ρ) := by
  obtain ⟨k, tests, b, hlength, hfull, hsome, hnone, hruns⟩ := runFrom_dispatchOn h
    hr.reachable.forest (shapes_resolve hr) (not_shape_of_isImplementer hr henv himpl) ho hotype
  have hlength : (tests.map (o, ·)).length ≤ (objectTests M o).length := by
    simpa [objectTests] using hlength
  have hfull : nameType env obj = none → tests.map (o, ·) = objectTests M o :=
    fun hunknown => by rw [hfull hunknown, objectTests]
  by_cases hshape : isObject M o = true
  · obtain ⟨C, hC, τ, τ', hyields⟩ := hsome hshape
    obtain ⟨more, hmore, hmoreFull, hanswers⟩ := hbuild hshape k C hC τ b τ' _ hyields
      (read_bound_var ho) ((read_bound_of_ne (htarget k)).trans hv)
    refine ⟨tests.map (o, ·) ++ more, ?_, fun hunknown => ?_, fun m => ?_⟩
    · rw [nestedTests, if_pos hshape, List.length_append, List.length_append]
      exact Nat.add_le_add hlength hmore
    · obtain ⟨hobj, hknown⟩ := Bool.or_eq_false_iff.mp hunknown
      rw [nestedTests, if_pos hshape, hfull (by simpa using hobj), hmoreFull hknown]
    · rw [hruns m, hanswers, Memory.tested_tested]
  · -- No shape, no answer: the target is not looked at.
    obtain rfl := hnone (Bool.eq_false_iff.mpr hshape)
    refine ⟨tests.map (o, ·), ?_, fun hunknown => ?_, fun m => ?_⟩
    · rw [nestedTests, if_neg hshape, List.append_nil]
      exact hlength
    · rw [nestedTests, if_neg hshape, List.append_nil]
      exact hfull (by simpa using (Bool.or_eq_false_iff.mp hunknown).1)
    · rw [hruns m, reference, Bool.eq_false_iff.mpr hshape]
      rfl

/-- **Lookups on two variables** answer as the reference. -/
theorem answers_onVariables (hr : Host.Engine r) (henv : env.Within r)
    (hobj : ∀ k, obj ≠ generatedName "target" k) (htarget : ∀ k, target ≠ generatedName "obj" k)
    (ho : ρ.read obj = some o) (hv : ρ.read target = some v)
    (hotype : HasType M r o (nameType env obj)) (hvtype : HasType M r v (nameType env target))
    (h : Yields (onVariables r place obj target env) t code t') :
    Answers M o v (nestedTests M o v) ((nameType env obj).isSome || (nameType env target).isSome)
      (eval M code ρ) := by
  have hsomeObj (himpl : isImplementer r env (.var obj) = true) :
      (nameType env obj).isSome = true := by
    cases hT : nameType env obj <;> simp [isImplementer, resolve, hT] at himpl ⊢
  have hsomeTarget {k : Host.TargetKind} (hkind : targetKind? r env (.var target) = some k) :
      (nameType env target).isSome = true := by
    cases hT : nameType env target <;> simp [targetKind?, resolve, hT] at hkind ⊢
  unfold onVariables at h
  split at h
  · next himpl hkind =>
    obtain ⟨rfl, -⟩ := yields_pure.mp h
    have hshape := isObject_of_isImplementer hr henv hotype himpl
    have hlook := isTarget_of_targetKind? hr henv hvtype hkind
    rw [hsomeObj himpl, Bool.true_or]
    exact (answers_directCall ho hv hshape hlook).weaken (Nat.zero_le _)
  · next himpl hkind =>
    have hshape := isObject_of_isImplementer hr henv hotype himpl
    rw [hsomeObj himpl, Bool.true_or]
    refine (answers_dispatchOnTarget hr henv hobj ho hv hvtype hkind hshape h).weaken ?_
    rw [nestedTests, if_pos hshape, List.length_append]
    exact Nat.le_add_left _ _
  · next himpl hkind =>
    have hlook := isTarget_of_targetKind? hr henv hvtype hkind
    rw [hsomeTarget hkind]
    refine answers_dispatchOnShape hr henv htarget ho hv hotype himpl h ?_
    intro hshape k C hC τ b τ' ρ' hyields ho' hv'
    obtain ⟨rfl, -⟩ := yields_pure.mp hyields
    exact (answers_directCall ho' hv' hshape hlook).weaken (Nat.zero_le _)
  · next himpl hkind =>
    refine answers_dispatchOnShape hr henv htarget ho hv hotype himpl h ?_
    intro hshape k C hC τ b τ' ρ' hyields ho' hv'
    -- What the first dispatch learns is about its own name, not about the target.
    have hsame : nameType (env.bind (generatedName "obj" k) (some C)) target =
        nameType env target := by
      rw [nameType_bind, if_neg (htarget k)]
    have hkind' :
        targetKind? r (env.bind (generatedName "obj" k) (some C)) (.var target) = none := by
      rwa [targetKind?, resolve, hsame]
    have henv' : (env.bind (generatedName "obj" k) (some C)).Within r :=
      henv.bind (by simpa using hC)
    rw [← hsame] at hvtype ⊢
    exact answers_dispatchOnTarget hr henv' (generatedName_obj_ne_target k) ho' hv' hvtype
      hkind' hshape
      hyields

end Variables

/-! ## Arguments -/

section Arguments

variable {ρ : Locals M} {m m' : Memory M} {v : M.Value} {arg : Ir.Expr} {name : String}

/-- Where an argument goes: a variable of the source stays, anything else gets a generated name with
the type that it has. -/
theorem of_yields_hoist {outer inner env' : TypeEnv} {stem : String}
    {bindings : List (String × Ir.Expr)} (hsource : Compile.ReadsSource arg)
    (h : Yields (hoist r outer stem arg inner) t (name, bindings, env') t') :
    bindings = (if arg.isVar name then [] else [(name, arg)]) ∧
      ((arg = .var name ∧ Compile.isGenerated name = false ∧ env' = inner) ∨
        ((∃ n, generatedName stem n = name) ∧ (∀ x, arg ≠ .var x) ∧
          env' = inner.bind name (resolve r outer arg))) := by
  obtain ⟨-, ⟨rfl, rfl, rfl⟩ | ⟨hvar, rfl, rfl, hname⟩⟩ :=
    ensures_hoist outer stem arg inner t _ t' h
  · exact ⟨by rw [if_pos (Ir.Expr.isVar_iff.mpr rfl)], .inl ⟨rfl, hsource, rfl⟩⟩
  · exact ⟨by rw [if_neg (mt Ir.Expr.isVar_iff.mp (hvar name))], .inr ⟨hname, hvar, rfl⟩⟩

theorem runFrom_evalBindings (name : String) (hv : Yields (eval M arg ρ) m v m')
    (rest : List (String × Ir.Expr)) (k : Locals M → Action M M.Value) :
    runFrom (evalBindings M ((if arg.isVar name then [] else [(name, arg)]) ++ rest) ρ >>= k) m =
      runFrom (evalBindings M rest (bound name arg ρ v) >>= k) m' := by
  by_cases hvar : arg.isVar name = true
  · simp [bound, hvar, memory_of_isVar hv hvar]
  · have hv : runFrom (eval M arg ρ) m = (.ok v, m') := hv
    simp [bound, hvar, evalBindings, runFrom_bind, hv]

theorem runFrom_evalBindings_error {fault : M.Fault} (hvar : arg.isVar name = false)
    (hfault : runFrom (eval M arg ρ) m = (.error fault, m')) (rest : List (String × Ir.Expr))
    (k : Locals M → Action M M.Value) :
    runFrom (evalBindings M ((if arg.isVar name then [] else [(name, arg)]) ++ rest) ρ >>= k) m =
      (.error fault, m') := by
  simp [hvar, evalBindings, runFrom_bind, hfault]

/-- Names of the source are read as before. -/
theorem agree_bound {stem : String}
    (h : arg = .var name ∨ ∃ n, generatedName stem n = name) :
    Agree (Compile.isGenerated · = false) (bound name arg ρ v) ρ := by
  intro x hx
  by_cases hvar : arg.isVar name = true
  · rw [bound, if_pos hvar]
  · obtain rfl | ⟨n, rfl⟩ := h
    · exact absurd (Ir.Expr.isVar_iff.mpr rfl) hvar
    · refine read_bound_of_ne ?_
      rintro rfl
      simp [Compile.isGenerated_generatedName] at hx

end Arguments

/-! ## Specialized lookups -/

section Specialize

variable {obj target code : Ir.Expr}

theorem total_hoist (outer : TypeEnv) (stem : String) (arg : Ir.Expr) (inner : TypeEnv) :
    Total (hoist r outer stem arg inner) := by
  unfold hoist
  split
  · exact total_pure _
  · exact (total_fresh stem).bind fun _ _ _ _ => total_pure _

theorem total_specialize (hr : Host.Engine r) : Total (specialize r place env [obj, target]) := by
  refine (total_hoist env "obj" obj env).bind fun (_, _, inner) _ _ _ => ?_
  refine (total_hoist env "target" target inner).bind fun _ _ _ _ => ?_
  refine (total_onVariables hr _ _).bind fun _ _ _ _ => ?_
  split
  · exact total_pure _
  · exact total_pure _

/-- A specialized lookup binds its arguments and is then a lookup on variables. -/
theorem of_yields_specialize (h : Yields (specialize r place env [obj, target]) t code t') :
    ∃ o ob env₁ t₁ v tb env₂ t₂ call, Yields (hoist r env "obj" obj env) t (o, ob, env₁) t₁ ∧
      Yields (hoist r env "target" target env₁) t₁ (v, tb, env₂) t₂ ∧
      Yields (onVariables r place o v env₂) t₂ call t' ∧
      ∀ (M : Machine) (ρ : Locals M) (m : Memory M),
        runFrom (eval M code ρ) m = runFrom (evalBindings M (ob ++ tb) ρ >>= eval M call) m := by
  simp only [specialize, yields_bind] at h
  obtain ⟨⟨o, ob, env₁⟩, t₁, hobj, ⟨v, tb, env₂⟩, t₂, htarget, call, t₃, hcall, h⟩ := h
  refine ⟨o, ob, env₁, t₁, v, tb, env₂, t₂, call, hobj, htarget, ?_⟩
  split at h
  · next hnil =>
    obtain ⟨rfl, rfl⟩ := yields_pure.mp h
    refine ⟨hcall, fun M ρ m => ?_⟩
    rw [hnil, evalBindings, pure_bind]
  · obtain ⟨rfl, rfl⟩ := yields_pure.mp h
    exact ⟨hcall, fun M ρ m => by rw [eval]⟩

/-- **Specialized lookups** evaluate their arguments in order and answer as the reference. -/
theorem answers_specialize (hr : Host.Engine r) (henv : env.Within r)
    (hobj : Compile.ReadsSource obj) (htarget : Compile.ReadsSource target)
    (h : Yields (specialize r place env [obj, target]) t code t')
    {ρ : Locals M} {m m₁ m₂ : Memory M} {o v : M.Value} (ho : Yields (eval M obj ρ) m o m₁)
    (hv : Yields (eval M target ρ) m₁ v m₂) (hotype : HasType M r o (resolve r env obj))
    (hvtype : HasType M r v (resolve r env target)) :
    ∃ run, Answers M o v (nestedTests M o v)
        ((resolve r env obj).isSome || (resolve r env target).isSome) run ∧
      runFrom (eval M code ρ) m = runFrom run m₂ := by
  obtain ⟨x, _, env₁, t₁, y, _, env₂, t₂, call, hhoist, hhoist', hcall, hcode⟩ :=
    of_yields_specialize h
  obtain ⟨rfl, hx⟩ := of_yields_hoist hobj hhoist
  obtain ⟨rfl, hy⟩ := of_yields_hoist htarget hhoist'
  have hxy : ∀ k, x ≠ generatedName "target" k := by
    rintro k rfl
    rcases hx with ⟨-, hsource, -⟩ | ⟨⟨n, hn⟩, -⟩
    · simp [Compile.isGenerated_generatedName] at hsource
    · exact generatedName_obj_ne_target n k hn
  have hyx : ∀ k, y ≠ generatedName "obj" k := by
    rintro k rfl
    rcases hy with ⟨-, hsource, -⟩ | ⟨⟨n, hn⟩, -⟩
    · simp [Compile.isGenerated_generatedName] at hsource
    · exact generatedName_obj_ne_target k n hn.symm
  -- The name of the object is bound first, and the target does not read it.
  have hagree : Agree (Compile.isGenerated · = false) (bound x obj ρ o) ρ :=
    agree_bound (hx.imp And.left And.left)
  have hv' : Yields (eval M target (bound x obj ρ o)) m₁ v m₂ := by
    rwa [eval_congr target hagree htarget]
  have hreadx : (bound y target (bound x obj ρ o) v).read x = some o := by
    rcases hy with ⟨rfl, -⟩ | ⟨⟨n, rfl⟩, -⟩
    · rw [bound, if_pos (Ir.Expr.isVar_iff.mpr rfl)]
      exact read_bound ho
    · rw [read_bound_of_ne (hxy n)]
      exact read_bound ho
  -- In the inner environment the two names have the types of the arguments.
  have henv₁ : env₁.Within r ∧ nameType env₁ x = resolve r env obj ∧
      ∀ z, (∀ k, z ≠ generatedName "obj" k) → nameType env₁ z = nameType env z := by
    rcases hx with ⟨rfl, -, rfl⟩ | ⟨⟨n, rfl⟩, -, rfl⟩
    · exact ⟨henv, rfl, fun _ _ => rfl⟩
    · refine ⟨henv.bind fun U hU => resolve_mem henv hU, ?_, fun z hz => ?_⟩
      · rw [nameType_bind, if_pos rfl]
      · rw [nameType_bind, if_neg (hz n)]
  obtain ⟨hwithin₁, hxtype, hothers⟩ := henv₁
  have henv₂ : env₂.Within r ∧ nameType env₂ x = resolve r env obj ∧
      nameType env₂ y = resolve r env target := by
    rcases hy with ⟨rfl, -, rfl⟩ | ⟨⟨n, rfl⟩, -, rfl⟩
    · exact ⟨hwithin₁, hxtype, hothers y hyx⟩
    · refine ⟨hwithin₁.bind fun U hU => resolve_mem henv hU, ?_, ?_⟩
      · rw [nameType_bind, if_neg (hxy n), hxtype]
      · rw [nameType_bind, if_pos rfl]
  obtain ⟨hwithin₂, hxtype₂, hytype₂⟩ := henv₂
  refine ⟨eval M call (bound y target (bound x obj ρ o) v), ?_, ?_⟩
  · rw [← hxtype₂] at hotype ⊢
    rw [← hytype₂] at hvtype ⊢
    exact answers_onVariables hr hwithin₂ hxy hyx hreadx (read_bound hv') hotype hvtype hcall
  · rw [hcode, runFrom_evalBindings x ho]
    have hbindings := runFrom_evalBindings y hv' [] (eval M call)
    rw [List.append_nil] at hbindings
    rw [hbindings, evalBindings, pure_bind]

/-- A fault of an argument that is no variable is the lookup's. -/
theorem specialize_faults (hobj : Compile.ReadsSource obj) (htarget : Compile.ReadsSource target)
    (h : Yields (specialize r place env [obj, target]) t code t') (ρ : Locals M) (m m' : Memory M)
    (fault : M.Fault) :
    ((∀ x, obj ≠ .var x) → runFrom (eval M obj ρ) m = (.error fault, m') →
      runFrom (eval M code ρ) m = (.error fault, m')) ∧
    ∀ m₁ o, Yields (eval M obj ρ) m o m₁ → (∀ x, target ≠ .var x) →
      runFrom (eval M target ρ) m₁ = (.error fault, m') →
      runFrom (eval M code ρ) m = (.error fault, m') := by
  obtain ⟨x, _, env₁, t₁, y, _, env₂, t₂, call, hhoist, hhoist', hcall, hcode⟩ :=
    of_yields_specialize h
  obtain ⟨rfl, hx⟩ := of_yields_hoist hobj hhoist
  obtain ⟨rfl, -⟩ := of_yields_hoist htarget hhoist'
  have hisVar {e : Ir.Expr} (hvar : ∀ x, e ≠ .var x) (x : String) : e.isVar x = false :=
    Bool.eq_false_iff.mpr (mt Ir.Expr.isVar_iff.mp (hvar x))
  refine ⟨fun hvar hfault => ?_, fun m₁ o ho hvar hfault => ?_⟩
  · rw [hcode]
    exact runFrom_evalBindings_error (hisVar hvar x) hfault _ _
  · have hagree : Agree (Compile.isGenerated · = false) (bound x obj ρ o) ρ :=
      agree_bound (hx.imp And.left And.left)
    rw [← eval_congr target hagree htarget] at hfault
    rw [hcode, runFrom_evalBindings x ho]
    simpa using runFrom_evalBindings_error (hisVar hvar y) hfault [] (eval M call)

end Specialize

end Access

/-- **Specialized lookups refine the reference.** In every environment that a compilation reaches,
a lookup on two compiled arguments has code, and on every host the code evaluates its arguments
once and in order, faults included. Where the known types of the arguments are right, it then
gives what the reference gives, after no more type tests than a lookup makes about whose arguments
nothing is known. -/
theorem specialized_lookup_refines_reference {r : Registry} (hr : Host.Engine r) {env : TypeEnv}
    (henv : Compile.ReachedEnv r env) {args : List Source.Expr} {t₀ t₁ : Trace}
    {obj target : Ir.Expr}
    (hargs : Yields (Compile.exprs r env args) t₀ [obj, target] t₁)
    (place : Option Place) (t : Trace) :
    ∃ code t', Yields (Access.specialize r place env [obj, target]) t code t' ∧
      ∀ (M : Machine) (ρ : Locals M) (m m₁ m₂ : Memory M) (o v : M.Value) (fault : M.Fault),
        (Yields (eval M obj ρ) m o m₁ → Yields (eval M target ρ) m₁ v m₂ →
          HasType M r o (resolve r env obj) → HasType M r v (resolve r env target) →
          ∃ tests, tests.length ≤ (Access.nestedTests M o v).length ∧
            (resolve r env obj = none → resolve r env target = none →
              tests = Access.nestedTests M o v) ∧
            runFrom (eval M code ρ) m = runFrom (Access.reference M o v) (m₂.tested tests)) ∧
        ((∀ x, obj ≠ .var x) → runFrom (eval M obj ρ) m = (.error fault, m₁) →
          runFrom (eval M code ρ) m = (.error fault, m₁)) ∧
        (Yields (eval M obj ρ) m o m₁ → (∀ x, target ≠ .var x) →
          runFrom (eval M target ρ) m₁ = (.error fault, m₂) →
          runFrom (eval M code ρ) m = (.error fault, m₂)) := by
  have hsource := (Compile.ensures_exprs r env args t₀ _ t₁ hargs).2
  have hobj : Compile.ReadsSource obj := hsource obj (by simp)
  have htarget : Compile.ReadsSource target := hsource target (by simp)
  obtain ⟨code, t', hcode⟩ := Access.total_specialize hr t
  refine ⟨code, t', hcode, fun M ρ m m₁ m₂ o v fault => ⟨fun ho hv hotype hvtype => ?_, ?_, ?_⟩⟩
  · obtain ⟨run, ⟨tests, hlength, hfull, hanswers⟩, hruns⟩ :=
      Access.answers_specialize hr henv.within hobj htarget hcode ho hv hotype hvtype
    refine ⟨tests, hlength, fun hobj htarget => hfull (by simp [hobj, htarget]), ?_⟩
    rw [hruns, hanswers]
  · exact (Access.specialize_faults hobj htarget hcode ρ m m₁ fault).1
  · exact (Access.specialize_faults hobj htarget hcode ρ m m₂ fault).2 m₁ o

/-- A host whose values are full names of built-in types, each standing for an instance of its
type. The world counts what the host was asked; all it gives are transforms. -/
def namedHost : Machine :=
  let answer (w : Nat) : Except String String × Nat := (.ok "UnityEngine.Transform", w + 1)
  { Value := String
    World := Nat
    Fault := String
    isInstance := fun v typeName =>
      match Host.builtin.find? v with
      | some R => (Host.builtin.ancestors R).any (·.fullName == typeName)
      | none => false
    constant := fun
      | .bool b => toString b
      | .str _ => Host.stringName
      | _ => ""
    typeValue := fun _ => Host.typeName
    global := some
    unbound := id
    malformed := ""
    truth := fun v w => (.ok (v == "true"), w)
    attr := fun _ _ => answer
    item := fun _ _ => answer
    call := fun _ _ => answer
    unary := fun _ _ => answer
    binary := fun _ _ _ => answer
    augment := fun _ _ _ => answer
    list := fun _ => answer
    tuple := fun _ => answer
    dict := fun _ => answer
    setAttr := fun _ _ _ w => (.ok (), w + 1)
    setItem := fun _ _ _ w => (.ok (), w + 1)
    iterator := fun _ => answer
    next := fun _ w => (.ok none, w + 1)
    truth_bool := fun b w => by cases b <;> rfl }

theorem namedHost_isA {R : HostType} (hR : Host.builtin.find? R.fullName = some R) :
    IsA namedHost Host.builtin R.fullName R :=
  ⟨(Registry.mem_of_find? hR).1, fun C _ => by simp [namedHost, hR, Registry.isSubtype]⟩

/-- In `get_component(find(), "Camera")` nothing is known about the object. The code calls `find`
once, and as that gives a transform it answers as the reference, after no more than four tests. -/
theorem found_object_lookup_refines_reference :
    ∃ code t',
      Yields (Access.specialize Host.builtin none { callables := ["find"] }
        [.call (.var "find") [], .const (.str "Camera")]) {} code t' ∧
      ∃ tests, tests.length ≤ 4 ∧
        runFrom (eval namedHost code fun _ => none) ⟨(0 : Nat), []⟩ =
          runFrom (Access.reference namedHost "UnityEngine.Transform" Host.stringName)
            ⟨(1 : Nat), tests⟩ := by
  let span : Source.Span := ⟨.start, .start⟩
  have hargs : Yields (Compile.exprs Host.builtin { callables := ["find"] }
      [.call span (.name span "find" .load) [] [], .constant span (.literal (.str "Camera"))])
      {} [.call (.var "find") [], .const (.str "Camera")] {} := by
    rfl
  have henv : Compile.ReachedEnv Host.builtin { callables := ["find"] } :=
    .inl ⟨[], {}, _, {}, ["find"], yields_pure.mpr ⟨rfl, rfl⟩, rfl⟩
  obtain ⟨code, t', hcode, hruns⟩ :=
    specialized_lookup_refines_reference .builtin henv hargs none {}
  refine ⟨code, t', hcode, ?_⟩
  obtain ⟨S, hS⟩ : ∃ S, Host.builtin.find? Host.stringName = some S :=
    Option.isSome_iff_exists.mp (by decide +kernel)
  have hname := (Registry.mem_of_find? hS).2
  have hlookup : Host.builtin.lookup Host.stringName = some S := by simp [Registry.lookup, hS]
  obtain ⟨tests, hlength, -, heq⟩ :=
    (hruns namedHost (fun _ => none) ⟨(0 : Nat), []⟩ ⟨(1 : Nat), []⟩
    ⟨(1 : Nat), []⟩ "UnityEngine.Transform" Host.stringName "").1 rfl rfl
      (by simp [HasType, resolve])
    (by
      intro T hT
      obtain rfl : S = T := by simpa [resolve, literalType, hlookup] using hT
      have hisA := namedHost_isA (hname.symm ▸ hS)
      rw [hname] at hisA
      exact ⟨S, hisA, Registry.isSubtype_refl Host.builtin S⟩)
  exact ⟨tests, hlength, heq⟩

end Componentry
