import Componentry.Compile.Module
import Componentry.Proofs.KnownNames
import Mathlib.Data.List.Forall2

/-!
# Closed code of functions and components

A function or a method of the source is compiled in the environment of its module, to which its
parameters are added. What holds of blocks and expressions then says what its body may name.

**Theorem (`implements_of_body`).** A function becomes a closed body: all that it names are its
parameters, the names that it binds itself, and the names of the module.

**Theorem (`implements_componentBody`).** So does every method in the body of a class, and the
defaults of its fields name nothing local. The generated names of all of them are distinct.
-/

namespace Componentry

open CompileM

namespace Ir

def partsOfFields (fields : List Field) : List Part :=
  fields.flatMap fun f => partsOfOption f.default

def partsOfMethods (methods : List Method) : List Part :=
  methods.flatMap fun m => partsOfBlock m.body

theorem partsOfMethods_append (xs ys : List Method) :
    partsOfMethods (xs ++ ys) = partsOfMethods xs ++ partsOfMethods ys :=
  List.flatMap_append

def Component.parts (c : Component) : List Part :=
  partsOfFields c.fields ++ partsOfMethods (c.implementations.flatMap Implementation.methods)

def Module.parts (m : Module) : List Part :=
  m.globals.flatMap (fun g => partsOfOption g.value) ++
    m.functions.flatMap (fun f => partsOfBlock f.body) ++ m.components.flatMap Component.parts

end Ir

namespace Compile

open Ir (Part)

/-! ## What a source declares -/

def globalsIn (stmts : List Source.Stmt) : List GlobalSource :=
  stmts.filterMap fun
    | .annAssign span (.name _ id _) annot value => some ⟨span, id, annot, value⟩
    | _ => none

def functionsIn (stmts : List Source.Stmt) : List FunctionSource :=
  stmts.filterMap fun
    | .functionDef span name params body decorators returns =>
      some ⟨span, name, params, body, decorators, returns⟩
    | _ => none

def classesIn (stmts : List Source.Stmt) : List ClassSource :=
  stmts.filterMap fun
    | .classDef span name bases keywords body decorators =>
      some ⟨span, name, bases, keywords, body, decorators⟩
    | _ => none

/-- The methods in the body of a class: its own and those of its groups. -/
def methodsIn (body : List Source.Stmt) : List FunctionSource :=
  body.flatMap fun
    | .functionDef span name params body decorators returns =>
      [⟨span, name, params, body, decorators, returns⟩]
    | .classDef _ _ _ _ group _ => functionsIn group
    | _ => []

/-- A name that all code of a module may use. -/
def IsModuleName (stmts : List Source.Stmt) (x : String) : Prop :=
  x ∈ (globalsIn stmts).map GlobalSource.name ∨
    x ∈ (functionsIn stmts).map FunctionSource.name ∨ x ∈ builtinFunctions

/-- A name that the body of a function may use: a parameter, a name that the body binds, or one of
the module. -/
def IsLocalName (stmts : List Source.Stmt) (fn : FunctionSource) (x : String) : Prop :=
  x ∈ fn.params.regular.map Source.Param.name ∨ x ∈ Source.boundNames fn.body ∨
    IsModuleName stmts x

/-! ## Closed code -/

/-- Every type that the parts refer to is registered. -/
structure RefersTo (r : Registry) (ps : List Part) : Prop where
  hostType : ∀ typeName codeName, .hostType typeName codeName ∈ ps →
    ∃ T ∈ r.types, T.fullName = typeName ∧ T.emitName = codeName
  annotated : ∀ typeName, .annotated typeName ∈ ps → ∃ T ∈ r.types, T.fullName = typeName

/-- An expression that stands outside of all bodies. -/
structure ClosedValue (r : Registry) (K : String → Prop) (e : Ir.Expr) : Prop where
  names : ∀ x, .var x ∈ e.parts → isGenerated x = false → K x
  binds : ∀ x, .binder x ∈ e.parts → isGenerated x = true
  scopes : e.ReadsOnly fun x => isGenerated x = false
  types : RefersTo r e.parts

/-- A whole body: no loop is around it. -/
structure ClosedBody (r : Registry) (K : String → Prop) (code : List Ir.Stmt) : Prop where
  names : ∀ x, .var x ∈ Ir.partsOfBlock code → isGenerated x = false → K x
  scopes : Ir.BlockScoped code fun x => isGenerated x = false
  jumps : Ir.BlockJumps code false
  types : RefersTo r (Ir.partsOfBlock code)

/-- The function of the source becomes a name, parameters and a closed body. -/
structure Implements (r : Registry) (stmts : List Source.Stmt) (fn : FunctionSource)
    (name : String) (params : List Ir.Param) (body : List Ir.Stmt) : Prop where
  name_eq : name = fn.name
  params_eq : params.map Ir.Param.name = fn.params.regular.map Source.Param.name
  closed : ClosedBody r (IsLocalName stmts fn) body

section Code

variable {r : Registry} {K B : String → Prop} {n n' : Nat} {ps : List Part}

theorem WellNamed.names (h : WellNamed r K B n n' ps) (x : String) (hx : .var x ∈ ps)
    (hsource : isGenerated x = false) : K x :=
  (h.allowed (.var x) hx).resolve_left (by simp [hsource])

theorem WellNamed.types (h : WellNamed r K B n n' ps) : RefersTo r ps :=
  ⟨fun typeName codeName hmem => h.allowed (.hostType typeName codeName) hmem,
    fun typeName hmem => h.allowed (.annotated typeName) hmem⟩

theorem closedValue_of_exprOption {env : TypeEnv} {e : Option Source.Expr} {t t' : Trace}
    {code : Option Ir.Expr} (henv : Covers K env) (hbuiltin : ∀ x ∈ builtinFunctions, K x)
    (h : Yields (exprOption r env e) t code t') :
    (∀ e ∈ code, ClosedValue r K e) ∧
      Distinct t.generated t'.generated (Ir.partsOfOption code) := by
  have hnamed := wellNamed_exprOption r (B := fun _ => False) henv hbuiltin h
  have hsource := (ensures_exprOption r env e t code t' h).2
  refine ⟨fun c hc => ?_, hnamed.distinct⟩
  obtain rfl : code = some c := hc
  have hparts : Ir.partsOfOption (some c) = c.parts := by simp [Ir.partsOfOption]
  rw [hparts] at hnamed
  exact ⟨hnamed.names, fun x hx => (hnamed.allowed _ hx).resolve_right id, hsource c rfl,
    hnamed.types⟩

end Code

/-! ## Functions and methods -/

section Functions

variable {r : Registry} {stmts : List Source.Stmt} {env env' : TypeEnv} {t t' : Trace}

theorem Covers.declare {K : String → Prop} (h : Covers K env) {y : String}
    (hy : isGenerated y = true ∨ K y) (T : Option HostType) : Covers K (env.declare y T) :=
  h.bind hy T

theorem yields_paramList {K : String → Prop} {ps : List Source.Param} {params : List Ir.Param}
    (h : Yields (paramList r ps env) t (params, env') t') (hK : ∀ p ∈ ps, K p.name)
    (henv : Covers K env) :
    t = t' ∧ params.map Ir.Param.name = ps.map Source.Param.name ∧ Covers K env' := by
  induction ps generalizing env t params with
  | nil =>
    obtain ⟨heq, rfl⟩ := yields_pure.mp h
    obtain ⟨rfl, rfl⟩ := Prod.mk.inj heq
    exact ⟨rfl, rfl, henv⟩
  | cons p rest ih =>
    obtain ⟨hp, hrest⟩ := List.forall_mem_cons.mp hK
    simp only [paramList, yields_bind, yields_pure] at h
    obtain ⟨_, t₁, hname, T, t₂, hT, ⟨params', env₁⟩, t₃, hps, heq, rfl⟩ := h
    obtain ⟨-, rfl⟩ := yields_checkName hname
    obtain ⟨rfl, -⟩ := yields_annotType hT
    obtain ⟨rfl, rfl⟩ := Prod.mk.inj heq
    have hafter : Covers K (if T.isNone then env.bind p.name none else env.declare p.name T) := by
      split_ifs
      · exact henv.bind (.inr hp) none
      · exact henv.declare (.inr hp) T
    obtain ⟨rfl, hnames, hcovers⟩ := ih hps hrest hafter
    exact ⟨rfl, by simp [hnames], hcovers⟩

theorem yields_params {K : String → Prop} {fn : FunctionSource} {receiver : Option HostType}
    {ps : List Ir.Param} (h : Yields (params r fn receiver env) t (ps, env') t')
    (hK : ∀ p ∈ fn.params.regular, K p.name) (henv : Covers K env) :
    t = t' ∧ ps.map Ir.Param.name = fn.params.regular.map Source.Param.name ∧ Covers K env' := by
  obtain ⟨-, h⟩ := yields_check.mp h
  obtain ⟨-, h⟩ := yields_check.mp h
  obtain ⟨-, h⟩ := yields_check.mp h
  cases receiver with
  | none => exact yields_paramList h hK henv
  | some T =>
    cases hregular : fn.params.regular with
    | nil => simp [hregular] at h
    | cons p rest =>
      rw [hregular] at hK
      obtain ⟨hp, hrest⟩ := List.forall_mem_cons.mp hK
      simp only [hregular] at h
      obtain ⟨-, h⟩ := yields_check.mp h
      simp only [yields_bind, yields_pure] at h
      obtain ⟨⟨ps', env₁⟩, t₁, hps, heq, rfl⟩ := h
      obtain ⟨rfl, rfl⟩ := Prod.mk.inj heq
      obtain ⟨rfl, hnames, hcovers⟩ := yields_paramList hps hrest (henv.declare (.inr hp) _)
      exact ⟨rfl, by simp [hnames], hcovers⟩

/-- The code binds names that the function of the source binds, and generated ones. -/
def BindsOnly (fn : FunctionSource) (code : List Ir.Stmt) : Prop :=
  ∀ x, .binder x ∈ Ir.partsOfBlock code → isGenerated x = true ∨ x ∈ Source.boundNames fn.body

/-- What a function is compiled to, given that its parameters and its body are. -/
theorem implements_of_body {fn : FunctionSource} {receiver : Option HostType} {ps : List Ir.Param}
    {env₁ env₂ : TypeEnv} {t₁ : Trace} {code : List Ir.Stmt}
    (hmarked : Source.areMarked fn.body = true) (henv : Covers (IsModuleName stmts) env)
    (hparams : Yields (params r fn receiver env) t (ps, env₁) t₁)
    (hbody : Yields (block r fn.body false env₁) t₁ (code, env₂) t') :
    (Implements r stmts fn fn.name ps code ∧ BindsOnly fn code) ∧
      Distinct t.generated t'.generated (Ir.partsOfBlock code) := by
  have hmodule : Covers (IsLocalName stmts fn) env := fun x hx =>
    (henv x hx).imp_right fun h => .inr (.inr h)
  obtain ⟨rfl, hnames, hcovers⟩ := yields_params hparams
    (fun p hp => .inl (List.mem_map_of_mem hp)) hmodule
  have hnamed := wellNamed_block r (K := IsLocalName stmts fn)
    (B := (· ∈ Source.boundNames fn.body))
    (fun x hx => .inr (.inr (.inr (.inr hx)))) fn.body hmarked (fun x hx => ⟨.inr (.inl hx), hx⟩)
    hcovers hbody
  obtain ⟨-, hordered⟩ := ensures_block_ordered r fn.body false env₁ _ _ _ hbody
  exact ⟨⟨⟨rfl, hnames, hnamed.names, hordered.scopes, hordered.jumps, hnamed.types⟩,
    fun x hx => hnamed.allowed _ hx⟩, hnamed.distinct⟩

theorem implements_function {fn : FunctionSource} {f : Ir.Function}
    (hmarked : Source.areMarked fn.body = true) (henv : Covers (IsModuleName stmts) env)
    (h : Yields (function r env fn) t f t') :
    (Implements r stmts fn f.name f.params f.body ∧ BindsOnly fn f.body) ∧
      Distinct t.generated t'.generated (Ir.partsOfBlock f.body) := by
  unfold function at h
  obtain ⟨-, h⟩ := yields_check.mp h
  simp only [yields_bind, yields_pure] at h
  obtain ⟨⟨ps, env₁⟩, t₁, hparams, ⟨code, env₂⟩, t₂, hbody, rfl, rfl⟩ := h
  exact implements_of_body hmarked henv hparams hbody

theorem implements_method {type : HostType} {fn : FunctionSource} {form : MethodForm}
    (hmarked : Source.areMarked fn.body = true) (henv : Covers (IsModuleName stmts) env)
    (h : Yields (method r env type fn) t form t') :
    (Implements r stmts fn form.name form.params form.body ∧ BindsOnly fn form.body) ∧
      Distinct t.generated t'.generated (Ir.partsOfBlock form.body) := by
  unfold method at h
  obtain ⟨-, h⟩ := yields_check.mp h
  obtain ⟨-, h⟩ := yields_check.mp h
  simp only [yields_bind, yields_pure] at h
  obtain ⟨⟨ps, env₁⟩, t₁, hparams, ⟨code, env₂⟩, t₂, hbody, rfl, rfl⟩ := h
  exact implements_of_body hmarked henv hparams hbody

end Functions

/-! ## Bodies of components -/

section Components

variable {r : Registry} {stmts : List Source.Stmt} {env : TypeEnv} {type : HostType} {t t' : Trace}

def partsOfForms (forms : List MethodForm) : List Part :=
  forms.flatMap fun form => Ir.partsOfBlock form.body

/-- The methods of the source become the forms, one by one. -/
def ImplementAll (r : Registry) (stmts : List Source.Stmt) (fns : List FunctionSource)
    (forms : List MethodForm) : Prop :=
  List.Forall₂ (fun fn form => Implements r stmts fn form.name form.params form.body) fns forms

/-- The methods of the source become forms that bind only what they bind. -/
def BindAll (fns : List FunctionSource) (forms : List MethodForm) : Prop :=
  List.Forall₂ (fun fn form => BindsOnly fn form.body) fns forms

theorem implements_groupBody {body : List Source.Stmt} {forms : List MethodForm}
    (hmarked : Source.areMarked body = true) (henv : Covers (IsModuleName stmts) env)
    (h : Yields (groupBody r env type body) t forms t') :
    (ImplementAll r stmts (functionsIn body) forms ∧ BindAll (functionsIn body) forms) ∧
      Distinct t.generated t'.generated (partsOfForms forms) := by
  induction body generalizing t forms with
  | nil =>
    obtain ⟨rfl, rfl⟩ := yields_pure.mp h
    exact ⟨⟨.nil, .nil⟩, .of_source (by simp [partsOfForms])⟩
  | cons s rest ih =>
    simp only [Source.areMarked, Bool.and_eq_true] at hmarked
    cases s with
    | functionDef span name params body decorators returns =>
      simp only [groupBody, yields_bind, yields_pure] at h
      obtain ⟨form, t₁, hform, forms', t₂, hrest, rfl, rfl⟩ := h
      have hbody : Source.areMarked body = true := by
        simpa [Source.Stmt.isMarked] using hmarked.1
      obtain ⟨himpl, hdistinct⟩ := implements_method (by exact hbody) henv hform
      obtain ⟨hall, hdistinct'⟩ := ih hmarked.2 hrest
      exact ⟨⟨.cons himpl.1 hall.1, .cons himpl.2 hall.2⟩, hdistinct.append hdistinct'⟩
    | pass span => exact ih hmarked.2 h
    | _ =>
      simp only [groupBody] at h
      split_ifs at h
      · exact ih hmarked.2 h
      · exact absurd h yields_refuseAt

theorem implements_group {span : Source.Span} {name : String} {bases keywords : List Source.Expr}
    {body : List Source.Stmt} {decorators : List Source.Expr} {g : Declaration}
    (hmarked : Source.areMarked body = true) (henv : Covers (IsModuleName stmts) env)
    (h : Yields (group r env type span name bases keywords body decorators) t g t') :
    (ImplementAll r stmts (functionsIn body) g.forms ∧
      BindAll (functionsIn body) g.forms) ∧
      Distinct t.generated t'.generated (partsOfForms g.forms) := by
  -- Whatever the interface is called, the methods are those of the body.
  have hmethods {interface : String} (h : Yields (do
      let methods ← groupBody r env type body
      if methods.isEmpty then refuseAt span (.emptyGroup interface)
      return .group interface methods) t g t') :
      (ImplementAll r stmts (functionsIn body) g.forms ∧
        BindAll (functionsIn body) g.forms) ∧
        Distinct t.generated t'.generated (partsOfForms g.forms) := by
    obtain ⟨forms, t₁, hforms, h⟩ := yields_bind.mp h
    obtain ⟨-, h⟩ := yields_check.mp h
    obtain ⟨rfl, rfl⟩ := yields_pure.mp h
    exact implements_groupBody hmarked henv hforms
  unfold group at h
  obtain ⟨-, h⟩ := yields_check.mp h
  dsimp only at h
  split at h
  · exact hmethods h
  · obtain ⟨interface, t₁, hinterface, h⟩ := yields_bind.mp h
    obtain ⟨-, rfl⟩ := yields_ofExcept.mp hinterface
    exact hmethods h
  · obtain ⟨interface, t₁, hinterface, h⟩ := yields_bind.mp h
    exact absurd hinterface yields_refuseAt

theorem closedValue_field {span : Source.Span} {target annot : Source.Expr}
    {value : Option Source.Expr} {f : Ir.Field} (henv : Covers (IsModuleName stmts) env)
    (h : Yields (field r env span target annot value) t f t') :
    (∀ e ∈ f.default, ClosedValue r (IsModuleName stmts) e) ∧
      Distinct t.generated t'.generated (Ir.partsOfOption f.default) := by
  unfold field at h
  split at h
  · simp only [yields_bind, yields_pure] at h
    obtain ⟨T, t₁, hT, default, t₂, hdefault, rfl, rfl⟩ := h
    obtain ⟨rfl, -⟩ := yields_annotType hT
    exact closedValue_of_exprOption henv (fun x hx => .inr (.inr hx)) hdefault
  · exact absurd h yields_refuseAt

theorem implements_componentBody {body : List Source.Stmt} {fields : List Ir.Field}
    {declarations : List Declaration} (hmarked : Source.areMarked body = true)
    (henv : Covers (IsModuleName stmts) env)
    (h : Yields (componentBody r env type body) t (fields, declarations) t') :
    (ImplementAll r stmts (methodsIn body) (declarations.flatMap Declaration.forms) ∧
      BindAll (methodsIn body) (declarations.flatMap Declaration.forms)) ∧
      (∀ f ∈ fields, ∀ e ∈ f.default, ClosedValue r (IsModuleName stmts) e) ∧
      Distinct t.generated t'.generated (Ir.partsOfFields fields ++
        partsOfForms (declarations.flatMap Declaration.forms)) := by
  induction body generalizing t fields declarations with
  | nil =>
    obtain ⟨heq, rfl⟩ := yields_pure.mp h
    obtain ⟨rfl, rfl⟩ := Prod.mk.inj heq
    exact ⟨⟨.nil, .nil⟩, by simp, .of_source (by simp [Ir.partsOfFields, partsOfForms])⟩
  | cons s rest ih =>
    simp only [Source.areMarked, Bool.and_eq_true] at hmarked
    cases s with
    | annAssign span target annot value =>
      simp only [componentBody, yields_bind, yields_pure] at h
      obtain ⟨f, t₁, hf, ⟨fields', declarations'⟩, t₂, hrest, heq, rfl⟩ := h
      obtain ⟨rfl, rfl⟩ := Prod.mk.inj heq
      obtain ⟨hclosed, hdistinct⟩ := closedValue_field henv hf
      obtain ⟨hall, hfields, hdistinct'⟩ := ih hmarked.2 hrest
      refine ⟨hall, List.forall_mem_cons.mpr ⟨hclosed, hfields⟩, ?_⟩
      simpa [Ir.partsOfFields] using hdistinct.append hdistinct'
    | functionDef span name params body decorators returns =>
      simp only [componentBody, yields_bind, yields_pure] at h
      obtain ⟨form, t₁, hform, ⟨fields', declarations'⟩, t₂, hrest, heq, rfl⟩ := h
      obtain ⟨rfl, rfl⟩ := Prod.mk.inj heq
      have hbody : Source.areMarked body = true := by
        simpa [Source.Stmt.isMarked] using hmarked.1
      obtain ⟨himpl, hdistinct⟩ := implements_method (by exact hbody) henv hform
      obtain ⟨hall, hfields, hdistinct'⟩ := ih hmarked.2 hrest
      refine ⟨⟨.cons himpl.1 hall.1, .cons himpl.2 hall.2⟩, hfields,
        (hdistinct.append hdistinct').of_count_le fun x => ?_⟩
      simp only [partsOfForms, List.flatMap_cons, Declaration.forms, List.count_append,
        List.cons_append, List.nil_append]
      omega
    | classDef span name bases keywords body decorators =>
      simp only [componentBody, yields_bind, yields_pure] at h
      obtain ⟨g, t₁, hg, ⟨fields', declarations'⟩, t₂, hrest, heq, rfl⟩ := h
      obtain ⟨rfl, rfl⟩ := Prod.mk.inj heq
      have hbody : Source.areMarked body = true := by
        simpa [Source.Stmt.isMarked] using hmarked.1
      obtain ⟨hgroup, hdistinct⟩ := implements_group hbody henv hg
      obtain ⟨hall, hfields, hdistinct'⟩ := ih hmarked.2 hrest
      refine ⟨⟨List.rel_append hgroup.1 hall.1, List.rel_append hgroup.2 hall.2⟩, hfields,
        (hdistinct.append hdistinct').of_count_le fun x => ?_⟩
      simp only [partsOfForms, List.flatMap_cons, List.flatMap_append, List.count_append]
      omega
    | pass span => exact ih hmarked.2 h
    | _ =>
      simp only [componentBody] at h
      split_ifs at h
      · exact ih hmarked.2 h
      · exact absurd h yields_refuseAt

end Components

end Compile

end Componentry
