import Componentry.Proofs.ClosedCode
import Componentry.Proofs.Grammar
import Componentry.Proofs.Methods
import Componentry.Proofs.RelatedLists

/-!
# Accepted sources become closed modules

A module consists of values, functions and components, and each of them is compiled from a
declaration of the source. The numbers of generated names run through the whole module.

**Theorem (`accepted_is_closed`).** Every function and method of an accepted source becomes a body
that names only its parameters, what it binds itself, what the module declares and built-in
functions. Values and defaults of fields name nothing local. Generated names are bound once in the
whole module and read only in their scopes, jumps stay inside loops, and every type is registered.

The methods of a component are those that its class declares and the defaults. Some load the module
first, which is the only code that is added to a compiled body.
-/

namespace Componentry

open CompileM

/-! ## Methods of a definition -/

namespace Definition

open Ir (Part)

open Compile (partsOfForms)

theorem ensures_settle {policy : DuplicatePolicy} {component : String} {ambient : Option Place}
    {declarations : List Declaration} {methods : List Ir.Method} :
    Ensures (settle policy component ambient declarations methods) fun _ => True := by
  unfold settle
  refine (ensures_forIn _ _ fun entry _ => ?_).bind fun _ _ => ensures_pure trivial
  cases policy with
  | refuse => exact ensures_refuse.bind fun _ h => h
  | keepFirst => exact (ensures_warn _).bind fun _ _ => ensures_pure trivial
  | keepLast => exact (ensures_warn _).bind fun _ _ => ensures_pure trivial

/-- A definition takes its name and its fields over, and it generates no names. -/
theorem ensures_compile (known : Messages) (policy : DuplicatePolicy) (ambient : Option Place)
    (d : Input) :
    Ensures (compile known policy ambient d) fun c =>
      c.name = d.name ∧ c.fields = completeFields d.constant d.fields := by
  unfold compile
  refine (ensures_ofExcept (P := fun _ => True) fun _ _ => trivial).bind fun _ _ => ?_
  refine ensures_settle.bind fun _ _ => ?_
  refine (ensures_ofExcept (P := fun _ => True) fun _ _ => trivial).bind fun _ _ => ?_
  refine (ensures_ofExcept (P := fun _ => True) fun _ _ => trivial).bind fun _ _ => ?_
  exact ensures_pure ⟨rfl, rfl⟩

theorem exists_form_of_mem_declared {known : Messages} {declarations : List Declaration}
    {m : Ir.Method} (h : m ∈ declared known declarations) :
    ∃ form ∈ declarations.flatMap Declaration.forms, ∃ interface,
      m = form.under interface := by
  rcases List.mem_append.mp h with h | h
  · obtain ⟨form, hform, rfl⟩ := List.mem_map.mp h
    obtain ⟨declaration, hd, hmem⟩ := List.mem_flatMap.mp hform
    refine ⟨form, List.mem_flatMap.mpr ⟨declaration, hd, ?_⟩, _, rfl⟩
    cases declaration with
    | message form' => exact hmem
    | _ => simp at hmem
  · obtain ⟨⟨interface, form⟩, hform, rfl⟩ := List.mem_map.mp h
    obtain ⟨declaration, hd, hmem⟩ := List.mem_flatMap.mp hform
    refine ⟨form, List.mem_flatMap.mpr ⟨declaration, hd, ?_⟩, _, rfl⟩
    cases declaration with
    | group interface' methods =>
      obtain ⟨form', hmem', heq⟩ := List.mem_map.mp hmem
      obtain ⟨-, rfl⟩ := Prod.mk.inj heq
      exact hmem'
    | _ => simp at hmem

theorem name_mem_declared {known : Messages} {declarations : List Declaration} {form : MethodForm}
    (h : form ∈ declarations.flatMap Declaration.forms) :
    form.name ∈ (declared known declarations).map Ir.Method.name := by
  obtain ⟨declaration, hd, hmem⟩ := List.mem_flatMap.mp h
  refine List.mem_map.mpr ?_
  cases declaration with
  | message form' =>
    obtain rfl : form = form' := by simpa [Declaration.forms] using hmem
    refine ⟨_, List.mem_append_left _ (List.mem_map_of_mem (List.mem_flatMap.mpr ⟨_, hd, ?_⟩)), rfl⟩
    exact List.mem_singleton_self form
  | group interface methods =>
    refine ⟨_, List.mem_append_right _ (List.mem_map_of_mem (a := (interface, form))
      (List.mem_flatMap.mpr ⟨_, hd, ?_⟩)), rfl⟩
    exact List.mem_map_of_mem hmem
  | stray form' => simp [Declaration.forms] at hmem

/-- Sorting declarations into messages and groups keeps every form. -/
theorem count_declared (known : Messages) (declarations : List Declaration) (p : Part) :
    (Ir.partsOfMethods (declared known declarations)).count p =
      (partsOfForms (declarations.flatMap Declaration.forms)).count p := by
  have hparts : Ir.partsOfMethods (declared known declarations) =
      partsOfForms (shorthand declarations) ++
        partsOfForms ((grouped declarations).map Prod.snd) := by
    simp [Ir.partsOfMethods, declared, partsOfForms, List.flatMap_map, MethodForm.under]
  rw [hparts]
  clear hparts
  induction declarations with
  | nil => rfl
  | cons declaration rest ih =>
    cases declaration with
    | message form =>
      simp only [partsOfForms, shorthand, grouped, List.flatMap_cons, List.count_append,
        Declaration.forms, List.cons_append, List.nil_append] at ih ⊢
      omega
    | group interface methods =>
      simp only [partsOfForms, shorthand, grouped, List.flatMap_cons, List.count_append,
        Declaration.forms, List.flatMap_append, List.nil_append, List.map_append, List.map_map,
        Function.comp_def, List.map_id'] at ih ⊢
      omega
    | stray form => exact ih

theorem count_pick_le (ds : List Ir.Method) (p : Fin ds.length → Bool) (q : Part) :
    (Ir.partsOfMethods (pick ds p)).count q ≤ (Ir.partsOfMethods ds).count q := by
  induction ds with
  | nil => exact le_refl _
  | cons m rest ih =>
    rw [pick_cons]
    have hrest := ih fun i => p i.succ
    simp only [Ir.partsOfMethods, List.flatMap_append, List.flatMap_cons, List.count_append]
      at hrest ⊢
    split_ifs
    · simpa [Ir.partsOfMethods] using hrest
    · simp only [List.flatMap_nil, List.count_nil]
      omega

theorem not_binder_defaults {d : Default} (h : d ∈ defaults) (x : String) :
    .binder x ∉ Ir.partsOfBlock d.body := by
  simp only [defaults, List.mem_cons, List.not_mem_nil, or_false] at h
  rcases h with rfl | rfl | rfl | rfl <;>
    simp [runtimeCall, Ir.partsOfBlock, Ir.Stmt.parts, Ir.Expr.parts, Ir.partsOfList]

theorem count_withLoading (moduleName : Option String) (m : Ir.Method) (x : String) :
    (Ir.partsOfBlock (withLoading moduleName m).body).count (.binder x) =
      (Ir.partsOfBlock m.body).count (.binder x) := by
  rw [(delivers_withLoading moduleName m).body]
  split_ifs <;>
    simp [runtimeCall, Ir.partsOfBlock, Ir.Stmt.parts, Ir.Expr.parts, Ir.partsOfList]

/-- What a definition delivers binds no more than the declared methods. -/
theorem count_implementations_le {known : Messages} {policy : DuplicatePolicy}
    {ambient : Option Place} {d : Input} {c : Ir.Component} {t t' : Trace}
    (h : Yields (compile known policy ambient d) t c t') (x : String) :
    (Ir.partsOfMethods (c.implementations.flatMap Ir.Implementation.methods)).count (.binder x) ≤
      (partsOfForms (d.declarations.flatMap Declaration.forms)).count (.binder x) := by
  obtain ⟨-, -, -, hsorted⟩ := of_yields_compile h
  have hadded : (Ir.partsOfMethods (absent known
      ((declared known d.declarations).map Ir.Method.name) defaults)).count (.binder x) = 0 := by
    refine List.count_eq_zero_of_not_mem fun hmem => ?_
    obtain ⟨m, hm, hmem⟩ := List.mem_flatMap.mp hmem
    obtain ⟨e, he, rfl⟩ := List.mem_map.mp hm
    exact not_binder_defaults (List.mem_of_mem_filter he) x hmem
  calc (Ir.partsOfMethods (c.implementations.flatMap Ir.Implementation.methods)).count (.binder x)
      = (Ir.partsOfMethods ((entries known policy d.declarations).map
          (withLoading d.moduleName))).count (.binder x) :=
        (hsorted.perm.flatMap_right _).count_eq _
    _ = (Ir.partsOfMethods (entries known policy d.declarations)).count (.binder x) := by
        simp only [Ir.partsOfMethods, List.flatMap_map, List.count_flatMap, Function.comp_def,
          count_withLoading]
    _ ≤ (Ir.partsOfMethods (declared known d.declarations)).count (.binder x) := by
        rw [entries, Ir.partsOfMethods_append, List.count_append, hadded, Nat.add_zero]
        exact count_pick_le _ _ _
    _ = (partsOfForms (d.declarations.flatMap Declaration.forms)).count (.binder x) :=
        count_declared known d.declarations _

end Definition

namespace Compile

open Ir (Part)

/-! ## Components -/

/-- A method that a definition has before it is delivered: one that a form declares, or a default of
a name that no form has. -/
inductive IsEntry (r : Registry) (forms : List MethodForm) (entry : Ir.Method) : Prop
  | declared {form : MethodForm} {interface : Option String} : form ∈ forms →
      entry = form.under interface → IsEntry r forms entry
  | default {d : Definition.Default} : d ∈ Definition.defaults →
      d.name ∉ forms.map MethodForm.name → entry.name = d.name →
      entry.params = [{ name := "self" }] → entry.body = d.body →
      ClosedBody r (fun x => x = "self" ∨ x = Definition.runtimeAlias) entry.body →
      IsEntry r forms entry

/-- A component that a class of the source becomes. -/
structure ComponentClosed (r : Registry) (stmts : List Source.Stmt) (moduleName : Option String)
    (cls : ClassSource) (c : Ir.Component) : Prop where
  name_eq : c.name = cls.name
  defaults : ∀ f ∈ c.fields, ∀ e ∈ f.default, ClosedValue r (IsModuleName stmts) e
  /-- Every method of the class has a closed body, and those of the component are made of them. -/
  methods : ∃ forms, ImplementAll r stmts (methodsIn cls.body) forms ∧
    ∀ m ∈ c.implementations.flatMap Ir.Implementation.methods,
      ∃ entry, IsEntry r forms entry ∧ Definition.Delivers moduleName entry m

/-- The methods of a component bind what the methods of the class bind. -/
def ComponentBinds (r : Registry) (stmts : List Source.Stmt) (moduleName : Option String)
    (cls : ClassSource) (c : Ir.Component) : Prop :=
  ∃ forms, ImplementAll r stmts (methodsIn cls.body) forms ∧ BindAll (methodsIn cls.body) forms ∧
    ∀ m ∈ c.methods, ∃ entry, IsEntry r forms entry ∧ Definition.Delivers moduleName entry m

section

variable {r : Registry} {stmts : List Source.Stmt} {env : TypeEnv} {t t' : Trace}

theorem closedBody_default (r : Registry) {d : Definition.Default} (h : d ∈ Definition.defaults) :
    ClosedBody r (fun x => x = "self" ∨ x = Definition.runtimeAlias) d.body := by
  have hcall (function : String) :
      ClosedBody r (fun x => x = "self" ∨ x = Definition.runtimeAlias)
        [Definition.runtimeCall function [.var "self"]] := by
    have hparts : Ir.partsOfBlock [Definition.runtimeCall function [.var "self"]] =
        [.var Definition.runtimeAlias, .var "self"] := rfl
    have hself : isGenerated "self" = false := by decide
    have hruntime : isGenerated Definition.runtimeAlias = false := by decide
    refine ⟨fun x hx _ => ?_, ⟨⟨hruntime, hself, trivial⟩, trivial⟩, ⟨trivial, trivial⟩,
      ⟨by simp [hparts], by simp [hparts]⟩⟩
    simpa [hparts, or_comm] using hx
  have hempty : ClosedBody r (fun x => x = "self" ∨ x = Definition.runtimeAlias) [] :=
    ⟨by simp [Ir.partsOfBlock], trivial, trivial, ⟨by simp [Ir.partsOfBlock],
      by simp [Ir.partsOfBlock]⟩⟩
  simp only [Definition.defaults, List.mem_cons, List.not_mem_nil, or_false] at h
  rcases h with rfl | rfl | rfl | rfl
  · exact hempty
  · exact hempty
  · exact hcall _
  · exact hcall _

/-- The methods of a definition are entries of its forms, delivered. -/
theorem isEntry_of_compile {known : Messages} {policy : DuplicatePolicy} {ambient : Option Place}
    {d : Definition.Input} {c : Ir.Component}
    (h : Yields (Definition.compile known policy ambient d) t c t') {m : Ir.Method}
    (hm : m ∈ c.implementations.flatMap Ir.Implementation.methods) :
    ∃ entry, IsEntry r (d.declarations.flatMap Declaration.forms) entry ∧
      Definition.Delivers d.moduleName entry m := by
  obtain ⟨-, -, -, hsorted⟩ := Definition.of_yields_compile h
  obtain ⟨entry, hentry, rfl⟩ := List.mem_map.mp (hsorted.perm.mem_iff.mp hm)
  refine ⟨entry, ?_, Definition.delivers_withLoading d.moduleName entry⟩
  rcases List.mem_append.mp hentry with hentry | hentry
  · obtain ⟨form, hform, interface, rfl⟩ :=
      Definition.exists_form_of_mem_declared (Definition.mem_of_mem_pick hentry)
    exact .declared hform rfl
  · obtain ⟨e, he, rfl⟩ := List.mem_map.mp hentry
    obtain ⟨hmem, hnew⟩ := List.mem_filter.mp he
    refine .default hmem (fun hname => ?_) rfl rfl rfl (closedBody_default r hmem)
    obtain ⟨form, hform, hname⟩ := List.mem_map.mp hname
    have hdeclared : form.name ∈
        (Definition.declared known d.declarations).map Ir.Method.name :=
      Definition.name_mem_declared hform
    simp [← hname, hdeclared] at hnew

theorem yields_component {known : Messages} {policy : DuplicatePolicy} {moduleName : Option String}
    {cls : ClassSource} {source : ComponentSource} {c : Ir.Component}
    (hname : source.name = cls.name) (hbody : source.body = cls.body)
    (hmarked : Source.areMarked cls.body = true)
    (henv : Covers (IsModuleName stmts) env)
    (h : Yields (component r known policy moduleName env source) t c t') :
    (ComponentClosed r stmts moduleName cls c ∧ ComponentBinds r stmts moduleName cls c) ∧
      Distinct t.generated t'.generated c.parts := by
  unfold component at h
  simp only [yields_bind] at h
  obtain ⟨⟨fields, declarations⟩, t₁, hdeclared, h⟩ := h
  -- The warning about a component without methods changes nothing else.
  obtain ⟨t₂, hle, h⟩ : ∃ t₂, t₁.generated ≤ t₂.generated ∧
      Yields (Definition.compile known policy (some (Place.ofSpan source.span))
        { name := source.name, fields, declarations, constant := source.constant, moduleName })
        t₂ c t' := by
    dsimp only at h
    split_ifs at h
    · obtain ⟨_, t₂, hwarn, h⟩ := yields_bind.mp h
      exact ⟨t₂, (ensures_warn _ t₁ _ t₂ hwarn).1, h⟩
    · exact ⟨t₁, le_refl _, h⟩
  rw [hbody] at hdeclared
  obtain ⟨⟨hall, hbinds⟩, hfields, hdistinct⟩ := implements_componentBody hmarked henv hdeclared
  obtain ⟨hle', hname', hfields'⟩ := Definition.ensures_compile known policy _ _ t₂ c t' h
  have hentries := fun m hm => isEntry_of_compile (r := r) h (m := m) hm
  refine ⟨⟨⟨hname'.trans hname, fun f hf e he => ?_, _, hall, hentries⟩, _, hall, hbinds, hentries⟩,
    ?_⟩
  · rw [hfields'] at hf
    rcases List.mem_append.mp hf with hf | hf
    · obtain ⟨g, hg, rfl⟩ := List.mem_map.mp hf
      exact hfields g hg e he
    · split_ifs at hf
      · obtain rfl := List.mem_singleton.mp hf
        simp [Definition.stateField] at he
      · simp at hf
  · refine (hdistinct.widen (le_refl _) (hle.trans hle')).of_count_le fun x => ?_
    have hmethods := Definition.count_implementations_le h x
    have hsame : Ir.partsOfFields c.fields = Ir.partsOfFields fields := by
      rw [hfields']
      unfold Definition.completeFields
      split_ifs <;>
        simp [Ir.partsOfFields, Ir.partsOfOption, List.flatMap_map, Definition.stateField]
    rw [Ir.Component.parts, hsame, List.count_append, List.count_append]
    exact Nat.add_le_add_left hmethods _

end

/-! ## Generated variables are bound -/

/-- Every generated variable is bound among the parts. -/
def SelfBound (ps : List Part) : Prop :=
  ∀ x, isGenerated x = true → .var x ∈ ps → .binder x ∈ ps

section SelfBound

variable {r : Registry} {K : String → Prop} {ps qs : List Part}

theorem SelfBound.append (hp : SelfBound ps) (hq : SelfBound qs) : SelfBound (ps ++ qs) := by
  intro x hx hmem
  rcases List.mem_append.mp hmem with hmem | hmem
  · exact List.mem_append_left _ (hp x hx hmem)
  · exact List.mem_append_right _ (hq x hx hmem)

theorem SelfBound.flatMap {α : Type} {f : α → List Part} {as : List α}
    (h : ∀ a ∈ as, SelfBound (f a)) : SelfBound (as.flatMap f) := by
  intro x hx hmem
  obtain ⟨a, ha, hmem⟩ := List.mem_flatMap.mp hmem
  exact List.mem_flatMap.mpr ⟨a, ha, h a ha x hx hmem⟩

theorem selfBound_option {e : Option Ir.Expr} (h : ∀ c ∈ e, ClosedValue r K c) :
    SelfBound (Ir.partsOfOption e) := by
  refine .flatMap fun c hc x hx hmem => ?_
  have hscopes := (h c (by simpa using hc)).scopes
  exact (c.bound_of_var hscopes hmem).resolve_left (by simp [hx])

theorem ClosedBody.selfBound {code : List Ir.Stmt} (h : ClosedBody r K code) :
    SelfBound (Ir.partsOfBlock code) := fun x hx hmem =>
  (Ir.bound_of_var_block code h.scopes hmem).resolve_left (by simp [hx])

theorem IsEntry.selfBound {stmts : List Source.Stmt} {fns : List FunctionSource}
    {forms : List MethodForm} {entry : Ir.Method} (h : IsEntry r forms entry)
    (hforms : ImplementAll r stmts fns forms) : SelfBound (Ir.partsOfBlock entry.body) := by
  cases h with
  | declared hform heq =>
    obtain ⟨fn, -, himpl⟩ := exists_left_of_mem hforms hform
    rw [heq]
    exact himpl.closed.selfBound
  | default _ _ _ _ _ hclosed => exact hclosed.selfBound

/-- Loading the module reads only `hostcomp_runtime` and `__name__`. -/
theorem selfBound_of_delivers {moduleName : Option String} {entry m : Ir.Method}
    (h : Definition.Delivers moduleName entry m)
    (hentry : SelfBound (Ir.partsOfBlock entry.body)) : SelfBound (Ir.partsOfBlock m.body) := by
  have hruntime : isGenerated Definition.runtimeAlias = false := by decide
  have hname : isGenerated "__name__" = false := by decide
  rw [h.body]
  split_ifs
  · refine SelfBound.append (fun x hx hmem => ?_) hentry
    have hmem : x = Definition.runtimeAlias ∨ x = "__name__" := by
      simpa [Definition.runtimeCall, Ir.Stmt.parts, Ir.Expr.parts, Ir.partsOfList] using hmem
    rcases hmem with rfl | rfl
    · simp [hruntime] at hx
    · simp [hname] at hx
  · refine SelfBound.append (fun x hx hmem => ?_) hentry
    obtain rfl : x = Definition.runtimeAlias := by
      simpa [Definition.runtimeCall, Ir.Stmt.parts, Ir.Expr.parts, Ir.partsOfList] using hmem
    simp [hruntime] at hx
  · exact hentry

theorem ComponentClosed.selfBound {stmts : List Source.Stmt} {moduleName : Option String}
    {cls : ClassSource} {c : Ir.Component} (h : ComponentClosed r stmts moduleName cls c) :
    SelfBound c.parts := by
  obtain ⟨forms, hforms, hmethods⟩ := h.methods
  refine .append (.flatMap fun f hf => selfBound_option (h.defaults f hf)) (.flatMap fun m hm => ?_)
  obtain ⟨entry, hentry, hdelivers⟩ := hmethods m hm
  exact selfBound_of_delivers hdelivers (hentry.selfBound hforms)

end SelfBound

/-! ## Modules -/

section Modules

variable {r : Registry} {t t' : Trace}

/-- Compiling a list one by one relates the results to the sources of the list, and the generated
names of the results are distinct. -/
theorem forall₂_of_mapM {α γ δ : Type} {R : δ → γ → Prop} {P : δ → α → Prop}
    {parts : α → List Part} {g : γ → CompileM α} {ds : List δ} {cs : List γ} {as : List α}
    (hR : List.Forall₂ R ds cs)
    (hg : ∀ d c t a t', R d c → Yields (g c) t a t' →
      P d a ∧ Distinct t.generated t'.generated (parts a))
    (h : Yields (cs.mapM g) t as t') :
    List.Forall₂ P ds as ∧ Distinct t.generated t'.generated (as.flatMap parts) := by
  induction hR generalizing t as with
  | nil =>
    obtain ⟨rfl, rfl⟩ := yields_pure.mp h
    exact ⟨.nil, .of_source (by simp)⟩
  | cons hd _ ih =>
    rw [List.mapM_cons] at h
    simp only [yields_bind, yields_pure] at h
    obtain ⟨a, t₁, ha, as', t₂, has, rfl, rfl⟩ := h
    obtain ⟨hP, hdistinct⟩ := hg _ _ t a t₁ hd ha
    obtain ⟨hall, hdistinct'⟩ := ih has
    exact ⟨.cons hP hall, hdistinct.append hdistinct'⟩

/-- The declarations are those of the statements. -/
structure Collects (stmts : List Source.Stmt) (ds : Declarations) : Prop where
  globals : ds.globals = globalsIn stmts
  functions : ds.functions = functionsIn stmts
  classes : ds.classes = classesIn stmts

theorem Collects.cons {s : Source.Stmt} {rest : List Source.Stmt} {ds : Declarations} {d : TopLevel}
    (h : Yields (topLevel s) t d t') (hds : Collects rest ds) :
    Collects (s :: rest) (ds.cons d) := by
  cases s with
  | annAssign span target annot value =>
    cases target with
    | name sp id use =>
      obtain ⟨rfl, -⟩ := yields_pure.mp h
      exact ⟨congrArg (_ :: ·) hds.globals, hds.functions, hds.classes⟩
    | _ => exact absurd h yields_refuseAt
  | functionDef span name params body decorators returns =>
    obtain ⟨rfl, -⟩ := yields_pure.mp h
    exact ⟨hds.globals, congrArg (_ :: ·) hds.functions, hds.classes⟩
  | classDef span name bases keywords body decorators =>
    obtain ⟨rfl, -⟩ := yields_pure.mp h
    exact ⟨hds.globals, hds.functions, congrArg (_ :: ·) hds.classes⟩
  | _ => exact absurd h yields_refuseAt

theorem collects_of_yields {met : List String} {stmts : List Source.Stmt} {ds : Declarations}
    (h : Yields (collect met stmts) t ds t') : Collects stmts ds := by
  induction stmts generalizing met t ds with
  | nil =>
    obtain ⟨rfl, rfl⟩ := yields_pure.mp h
    exact ⟨rfl, rfl, rfl⟩
  | cons s rest ih =>
    unfold collect at h
    split at h
    · next hdoc =>
      cases s with
      | expr span value =>
        obtain ⟨hglobals, hfunctions, hclasses⟩ := ih h
        exact ⟨hglobals, hfunctions, hclasses⟩
      | _ => simp [Source.Stmt.isDocstring] at hdoc
    · obtain ⟨d, t₁, hd, h⟩ := yields_bind.mp h
      obtain ⟨_, t₂, -, h⟩ := yields_bind.mp h
      obtain ⟨-, h⟩ := yields_check.mp h
      simp only [yields_bind, yields_pure] at h
      obtain ⟨ds', t₃, hds, rfl, rfl⟩ := h
      exact .cons hd (ih hds)

/-- The registry that the classes of a source leave. -/
def RegistryOf (classes : List ClassSource) (r : Registry) : Prop :=
  ∃ sources t t', Yields (registerAll Host.builtin classes) t (sources, r) t'

theorem of_yields_registerAll {r₀ : Registry} {classes : List ClassSource}
    {sources : List ComponentSource} (hr : r₀.Reachable)
    (h : Yields (registerAll r₀ classes) t (sources, r) t') :
    r.Reachable ∧
      List.Forall₂ (fun cls source => source.name = cls.name ∧ source.body = cls.body) classes
        sources := by
  induction classes generalizing r₀ t sources with
  | nil =>
    obtain ⟨heq, rfl⟩ := yields_pure.mp h
    obtain ⟨rfl, rfl⟩ := Prod.mk.inj heq
    exact ⟨hr, .nil⟩
  | cons cls rest ih =>
    simp only [registerAll, yields_bind, yields_pure] at h
    obtain ⟨⟨source, r₁⟩, t₁, hsource, ⟨sources', r₂⟩, t₂, hrest, heq, rfl⟩ := h
    obtain ⟨rfl, rfl⟩ := Prod.mk.inj heq
    unfold register at hsource
    obtain ⟨constant, t₃, -, hsource⟩ := yields_bind.mp hsource
    obtain ⟨-, hsource⟩ := yields_check.mp hsource
    simp only [yields_bind, yields_pure] at hsource
    obtain ⟨_, t₄, -, fields, t₅, -, ⟨type, r'⟩, t₆, hregister, heq, rfl⟩ := hsource
    obtain ⟨hok, rfl⟩ := yields_ofRegistry.mp hregister
    obtain ⟨rfl, rfl⟩ := Prod.mk.inj heq
    obtain ⟨hreachable, hall⟩ := ih (.registerComponent hr hok) hrest
    exact ⟨hreachable, .cons ⟨rfl, rfl⟩ hall⟩

theorem mem_of_contains_globalTypes {globals : List GlobalSource} {table : Table (Option HostType)}
    (h : Yields (globalTypes r globals) t table t') {x : String} (hx : table.contains x = true) :
    x ∈ globals.map GlobalSource.name := by
  induction globals generalizing t table with
  | nil =>
    obtain ⟨rfl, -⟩ := yields_pure.mp h
    simp [Table.contains] at hx
  | cons g rest ih =>
    simp only [globalTypes, yields_bind, yields_pure] at h
    obtain ⟨T, t₁, -, table', t₂, hrest, rfl, rfl⟩ := h
    by_cases hxg : g.name = x
    · exact List.mem_cons.mpr (.inl hxg.symm)
    · refine List.mem_cons_of_mem _ (ih hrest ?_)
      simpa [Table.contains, Table.get?, Table.findEntry, hxg] using hx

/-- The names of a module are all that its code starts with. -/
theorem covers_module {stmts : List Source.Stmt} {ds : Declarations}
    {table : Table (Option HostType)} (hds : Collects stmts ds)
    (h : Yields (globalTypes r ds.globals) t table t') :
    Covers (IsModuleName stmts)
      { globals := table, callables := ds.functions.map FunctionSource.name } := by
  intro x hx
  refine .inr ?_
  simp only [TypeEnv.knows, Bool.or_eq_true, List.contains_iff_mem, List.not_mem_nil, or_false]
    at hx
  rcases hx with (hx | hx) | hx
  · simp [Table.contains] at hx
  · exact .inl (hds.globals ▸ mem_of_contains_globalTypes h hx)
  · exact .inr (.inl (hds.functions ▸ hx))

theorem marked_of_mem_functionsIn {stmts : List Source.Stmt} {fn : FunctionSource}
    (hm : Source.areMarked stmts = true) (h : fn ∈ functionsIn stmts) :
    Source.areMarked fn.body = true := by
  obtain ⟨s, hs, heq⟩ := List.mem_filterMap.mp h
  have hmarked := Source.areMarked_iff.mp hm s hs
  cases s with
  | functionDef span name params body decorators returns =>
    obtain rfl := Option.some.inj heq
    simpa [Source.Stmt.isMarked] using hmarked
  | _ => simp at heq

theorem marked_of_mem_classesIn {stmts : List Source.Stmt} {cls : ClassSource}
    (hm : Source.areMarked stmts = true) (h : cls ∈ classesIn stmts) :
    Source.areMarked cls.body = true := by
  obtain ⟨s, hs, heq⟩ := List.mem_filterMap.mp h
  have hmarked := Source.areMarked_iff.mp hm s hs
  cases s with
  | classDef span name bases keywords body decorators =>
    obtain rfl := Option.some.inj heq
    simpa [Source.Stmt.isMarked] using hmarked
  | _ => simp at heq

/-- A module-level value of the source becomes a closed one. -/
def GlobalClosed (r : Registry) (stmts : List Source.Stmt) (g : GlobalSource) (g' : Ir.Global) :
    Prop :=
  g'.name = g.name ∧ ∀ e ∈ g'.value, ClosedValue r (IsModuleName stmts) e

theorem closed_globals {stmts : List Source.Stmt} {env : TypeEnv} {globals : List GlobalSource}
    {gs : List Ir.Global} (henv : Covers (IsModuleName stmts) env)
    (h : Yields (globals.mapM (global r env)) t gs t') :
    List.Forall₂ (GlobalClosed r stmts) globals gs ∧
      Distinct t.generated t'.generated (gs.flatMap fun g => Ir.partsOfOption g.value) := by
  refine forall₂_of_mapM (R := Eq) (List.forall₂_same.mpr fun _ _ => rfl) ?_ h
  rintro g _ τ g' τ' rfl hg
  simp only [global, yields_bind, yields_pure] at hg
  obtain ⟨value, τ₁, hvalue, rfl, rfl⟩ := hg
  obtain ⟨hclosed, hdistinct⟩ :=
    closedValue_of_exprOption henv (fun x hx => .inr (.inr hx)) hvalue
  exact ⟨⟨rfl, hclosed⟩, hdistinct⟩

theorem closed_functions {stmts : List Source.Stmt} {env : TypeEnv} {fs : List Ir.Function}
    (hm : Source.areMarked stmts = true) (henv : Covers (IsModuleName stmts) env)
    (h : Yields ((functionsIn stmts).mapM (function r env)) t fs t') :
    List.Forall₂ (fun fn f => Implements r stmts fn f.name f.params f.body ∧ BindsOnly fn f.body)
        (functionsIn stmts) fs ∧
      Distinct t.generated t'.generated (fs.flatMap fun f => Ir.partsOfBlock f.body) := by
  refine forall₂_of_mapM (R := fun fn fn' => fn = fn' ∧ Source.areMarked fn.body = true)
    (List.forall₂_same.mpr fun fn hfn => ⟨rfl, marked_of_mem_functionsIn hm hfn⟩) ?_ h
  rintro fn _ τ f τ' ⟨rfl, hmarked⟩ hf
  exact implements_function hmarked henv hf

theorem closed_components {stmts : List Source.Stmt} {env : TypeEnv} {known : Messages}
    {policy : DuplicatePolicy} {moduleName : Option String} {sources : List ComponentSource}
    {cs : List Ir.Component} (hm : Source.areMarked stmts = true)
    (henv : Covers (IsModuleName stmts) env)
    (hsources : List.Forall₂ (fun cls source => source.name = cls.name ∧ source.body = cls.body)
      (classesIn stmts) sources)
    (h : Yields (sources.mapM (component r known policy moduleName env)) t cs t') :
    List.Forall₂ (fun cls c => ComponentClosed r stmts moduleName cls c ∧
        ComponentBinds r stmts moduleName cls c) (classesIn stmts) cs ∧
      Distinct t.generated t'.generated (cs.flatMap Ir.Component.parts) := by
  have hmarked : List.Forall₂ (fun cls source => Source.areMarked cls.body = true ∧
      source.name = cls.name ∧ source.body = cls.body) (classesIn stmts) sources :=
    (List.forall₂_and_left _ _).mpr ⟨fun cls hcls => marked_of_mem_classesIn hm hcls, hsources⟩
  refine forall₂_of_mapM hmarked ?_ h
  rintro cls source τ c τ' ⟨hmarked, hname, hbody⟩ hc
  exact yields_component hname hbody hmarked henv hc

/-- A module is compiled from the declarations of its source, part by part. -/
theorem parts_of_yields_module {known : Messages} {policy : DuplicatePolicy}
    {moduleName : Option String} {stmts : List Source.Stmt} {m : Ir.Module}
    (hm : Source.areMarked stmts = true)
    (h : Yields (module known policy moduleName stmts) t m t') :
    ∃ r n n', RegistryOf (classesIn stmts) r ∧ r.Reachable ∧
      List.Forall₂ (GlobalClosed r stmts) (globalsIn stmts) m.globals ∧
      List.Forall₂ (fun fn f => Implements r stmts fn f.name f.params f.body ∧ BindsOnly fn f.body)
        (functionsIn stmts) m.functions ∧
      List.Forall₂ (fun cls c => ComponentClosed r stmts moduleName cls c ∧
        ComponentBinds r stmts moduleName cls c) (classesIn stmts) m.components ∧
      Distinct n n' m.parts := by
  unfold module at h
  simp only [yields_bind, yields_pure] at h
  obtain ⟨ds, t₁, hds, ⟨sources, r⟩, t₂, hregister, _, t₃, -, table, t₄, htable, gs, t₅, hgs, fs,
    t₆, hfs, cs, t₇, hcs, _, t₈, -, rfl, rfl⟩ := h
  have hcollects := collects_of_yields hds
  have henv := covers_module hcollects htable
  rw [hcollects.classes] at hregister
  rw [hcollects.globals] at hgs
  obtain ⟨hreachable, hsources⟩ := of_yields_registerAll Registry.builtin_reachable hregister
  obtain ⟨hglobals, hnumbers⟩ := closed_globals henv hgs
  rw [hcollects.functions] at hfs hcs henv
  obtain ⟨hfunctions, hnumbers'⟩ := closed_functions hm henv hfs
  obtain ⟨hcomponents, hnumbers''⟩ := closed_components hm henv hsources hcs
  exact ⟨r, _, _, ⟨sources, t₁, t₂, hregister⟩, hreachable, hglobals, hfunctions, hcomponents,
    (hnumbers.append hnumbers').append hnumbers''⟩

theorem of_yields_module {known : Messages} {policy : DuplicatePolicy} {moduleName : Option String}
    {stmts : List Source.Stmt} {m : Ir.Module} (hm : Source.areMarked stmts = true)
    (h : Yields (module known policy moduleName stmts) t m t') :
    ∃ r n n', RegistryOf (classesIn stmts) r ∧ r.Reachable ∧
      List.Forall₂ (GlobalClosed r stmts) (globalsIn stmts) m.globals ∧
      List.Forall₂ (fun fn f => Implements r stmts fn f.name f.params f.body) (functionsIn stmts)
        m.functions ∧
      List.Forall₂ (ComponentClosed r stmts moduleName) (classesIn stmts) m.components ∧
      Distinct n n' m.parts := by
  obtain ⟨r, n, n', hregistry, hreachable, hglobals, hfunctions, hcomponents, hdistinct⟩ :=
    parts_of_yields_module hm h
  exact ⟨r, n, n', hregistry, hreachable, hglobals, hfunctions.imp fun _ _ h => h.1,
    hcomponents.imp fun _ _ h => h.1, hdistinct⟩

/-- A source is accepted if it parses and its statements compile. -/
theorem exists_module_of_compile {known : Messages} {policy : DuplicatePolicy}
    {sourcePath moduleName : Option String} {text : String} {m : Ir.Module}
    (h : (compile known policy sourcePath moduleName text).result = .ok m) :
    ∃ stmts t', Source.parse text = some stmts ∧
      Yields (module known policy (moduleNameFor sourcePath moduleName) stmts) {} m t' := by
  obtain ⟨t', h⟩ : ∃ t',
      Yields (source known policy (moduleNameFor sourcePath moduleName) text) {} m t' :=
    ⟨_, Prod.ext h rfl⟩
  unfold source at h
  split_ifs at h
  · simp at h
  · split at h
    · simp at h
    · next stmts hstmts => exact ⟨stmts, t', hstmts, h⟩

end Modules

/-- **Accepted sources become closed and well-formed modules.** The values, functions and components
of the module are those of the source, each of them closed. A type is known by its full name. A
generated name has at most one place in the whole module that binds it, and exactly one if it is
read; the scopes of closed code say that the read lies behind that place. -/
theorem accepted_is_closed {known : Messages} {policy : DuplicatePolicy}
    {sourcePath moduleName : Option String} {text : String} {m : Ir.Module}
    (h : (compile known policy sourcePath moduleName text).result = .ok m) :
    ∃ stmts r, Source.parse text = some stmts ∧ RegistryOf (classesIn stmts) r ∧
      (r.types.map HostType.fullName).Nodup ∧
      List.Forall₂ (GlobalClosed r stmts) (globalsIn stmts) m.globals ∧
      List.Forall₂ (fun fn f => Implements r stmts fn f.name f.params f.body) (functionsIn stmts)
        m.functions ∧
      List.Forall₂ (ComponentClosed r stmts (moduleNameFor sourcePath moduleName))
        (classesIn stmts) m.components ∧
      (∀ x, isGenerated x = true → m.parts.count (.binder x) ≤ 1) ∧
      ∀ x, isGenerated x = true → .var x ∈ m.parts → m.parts.count (.binder x) = 1 := by
  obtain ⟨stmts, t', hparse, hmodule⟩ := exists_module_of_compile h
  obtain ⟨r, n, n', hregistry, hreachable, hglobals, hfunctions, hcomponents, hdistinct⟩ :=
    of_yields_module (Source.areMarked_of_parse hparse) hmodule
  have hbound : SelfBound m.parts := by
    refine .append (.append (.flatMap fun g hg => ?_) (.flatMap fun f hf => ?_))
      (.flatMap fun c hc => ?_)
    · obtain ⟨source, -, -, hclosed⟩ := exists_left_of_mem hglobals hg
      exact selfBound_option hclosed
    · obtain ⟨fn, -, himpl⟩ := exists_left_of_mem hfunctions hf
      exact himpl.closed.selfBound
    · obtain ⟨cls, -, hclosed⟩ := exists_left_of_mem hcomponents hc
      exact hclosed.selfBound
  refine ⟨stmts, r, hparse, hregistry, hreachable.forest.nodup, hglobals, hfunctions, hcomponents,
    hdistinct.once, fun x hx hmem => ?_⟩
  exact le_antisymm (hdistinct.once x hx) (List.count_pos_iff.mpr (hbound x hx hmem))

/-- A source whose function and whose method both need generated names. -/
def patrol : String :=
  "def pick(o):\n" ++
  "    while o:\n" ++
  "        match o:\n" ++
  "            case GameObject():\n" ++
  "                break\n" ++
  "class Guard:\n" ++
  "    speed: int = 2\n" ++
  "    def Update(self):\n" ++
  "        y = get_component(pick(self), Guard)\n"

theorem patrol_is_closed :
    ∃ m stmts r, (compile .standard .keepLast none none patrol).result = .ok m ∧
      Source.parse patrol = some stmts ∧
      List.Forall₂ (fun fn f => Implements r stmts fn f.name f.params f.body) (functionsIn stmts)
        m.functions ∧
      List.Forall₂ (ComponentClosed r stmts none) (classesIn stmts) m.components ∧
      ∀ x ∈ ["_hc_cast1", "_hc_obj2", "_hc_target3", "_hc_obj4"],
        m.parts.count (.binder x) = 1 := by
  obtain ⟨m, h, hread⟩ : ∃ m, (compile .standard .keepLast none none patrol).result = .ok m ∧
      ∀ x ∈ ["_hc_cast1", "_hc_obj2", "_hc_target3", "_hc_obj4"],
        isGenerated x = true ∧ .var x ∈ m.parts :=
    exists_ok (by decide +kernel)
  obtain ⟨stmts, r, hparse, -, -, -, hfunctions, hcomponents, -, hone⟩ := accepted_is_closed h
  exact ⟨m, stmts, r, h, hparse, hfunctions, hcomponents,
    fun x hx => hone x (hread x hx).1 (hread x hx).2⟩

end Compile

end Componentry
