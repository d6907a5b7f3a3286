import Componentry.Proofs.InStepCode

/-!
# Declarations that are compiled in step

Functions, methods and fields are compiled from code that is in step. A definition of a component
sorts and completes its methods by their names and never looks into a body, so it commutes with
renumbering.

**Theorem (`inStep_function`, `inStep_component`).** A function and a component become the same, up
to the numbers of generated names.
-/

namespace Componentry

open CompileM

/-! ## Definitions of components -/

/-- The methods have the same head, and bodies that correspond. -/
structure FormMoved (d : Int) (form form' : MethodForm) : Prop where
  name : form'.name = form.name
  params : form'.params = form.params
  body : BlockMoved d form.body form'.body

/-- The declarations hold methods that correspond. -/
inductive DeclarationMoved (d : Int) : Declaration → Declaration → Prop
  | message {form form' : MethodForm} : FormMoved d form form' →
      DeclarationMoved d (.message form) (.message form')
  | group {interface : String} {forms forms' : List MethodForm} :
      List.Forall₂ (FormMoved d) forms forms' →
      DeclarationMoved d (.group interface forms) (.group interface forms')

namespace Definition

open Ir (Method Field)

variable {d : Int} {known : Messages} {ambient ambient' : Option Place}

theorem toMethod_of_moved {form form' : MethodForm} (h : FormMoved d form form')
    (interface : String) :
    form'.toMethod interface = (form.toMethod interface).rename (moved d) := by
  simp [MethodForm.toMethod, Method.rename, h.name, h.params, show form'.body = _ from h.body]

/-- Groups of methods for one interface each. -/
def GroupsMoved (d : Int) :
    List (String × List MethodForm) → List (String × List MethodForm) → Prop :=
  List.Forall₂ fun g g' => g'.1 = g.1 ∧ List.Forall₂ (FormMoved d) g.2 g'.2

theorem inStep_split {declarations declarations' : List Declaration}
    (h : List.Forall₂ (DeclarationMoved d) declarations declarations')
    {messages messages' : List MethodForm} (hm : List.Forall₂ (FormMoved d) messages messages')
    {groups groups' : List (String × List MethodForm)} (hg : GroupsMoved d groups groups') :
    InStep d (fun p q => List.Forall₂ (FormMoved d) p.1 q.1 ∧ GroupsMoved d p.2 q.2)
      (ofExcept (split ambient messages groups declarations) : CompileM _)
      (ofExcept (split ambient' messages' groups' declarations') : CompileM _) := by
  induction h generalizing messages messages' groups groups' with
  | nil => exact inStep_pure ⟨hm, hg⟩
  | @cons declaration declaration' rest rest' hd _ ih =>
    cases hd with
    | @message form form' hform =>
      have hempty : groups'.isEmpty = groups.isEmpty := by
        cases hg with
        | nil => rfl
        | cons _ _ => rfl
      simp only [split, hempty]
      split_ifs
      · exact ih (List.rel_append hm (.cons hform .nil)) hg
      · exact fun _ _ _ => trivial
    | group hforms =>
      exact ih hm (List.rel_append hg (.cons ⟨rfl, hforms⟩ .nil))

theorem inStep_messageMethods {forms forms' : List MethodForm}
    (h : List.Forall₂ (FormMoved d) forms forms') :
    InStep d (fun ms ms' => ms' = ms.map (Method.rename (moved d)))
      (ofExcept (messageMethods known ambient forms) : CompileM _)
      (ofExcept (messageMethods known ambient' forms') : CompileM _) := by
  induction h with
  | nil => exact inStep_pure rfl
  | @cons form form' rest rest' hform _ ih =>
    simp only [messageMethods, hform.name]
    cases known.interfaceFor form.name with
    | none => exact fun _ _ _ => trivial
    | some interface =>
      cases hx : messageMethods known ambient rest <;>
        cases hy : messageMethods known ambient' rest' <;> rw [hx, hy] at ih
      · exact fun _ _ _ => trivial
      · exact fun t t' ht => (ih t t' ht).elim
      · exact fun t t' ht => (ih t t' ht).elim
      · refine fun t t' ht => ⟨ht, ?_⟩
        simp only [(ih t t' ht).2, toMethod_of_moved hform, List.map_cons]

theorem groupMethods_of_moved {groups groups' : List (String × List MethodForm)}
    (h : GroupsMoved d groups groups') :
    groupMethods known groups' = (groupMethods known groups).map (Method.rename (moved d)) := by
  have hforms (interface : String) (forms forms' : List MethodForm)
      (h : List.Forall₂ (FormMoved d) forms forms') :
      forms'.map (·.toMethod interface) =
        (forms.map (·.toMethod interface)).map (Method.rename (moved d)) := by
    induction h with
    | nil => rfl
    | cons hform _ ih => simp only [List.map_cons, ih, toMethod_of_moved hform]
  induction h with
  | nil => rfl
  | @cons g g' rest rest' hgroup _ ih =>
    obtain ⟨interface, forms⟩ := g
    obtain ⟨_, forms'⟩ := g'
    obtain ⟨rfl, hgroup⟩ := hgroup
    simp only [groupMethods, List.flatMap_cons, List.map_append] at ih ⊢
    rw [ih, hforms _ _ _ hgroup]

theorem ofExcept_bind {α β : Type} (x : Except Diagnostic α) (f : α → Except Diagnostic β) :
    (ofExcept (x >>= f) : CompileM β) = (ofExcept x : CompileM α) >>= fun a => ofExcept (f a) := by
  cases x <;> rfl

theorem inStep_declaredMethods {declarations declarations' : List Declaration}
    (h : List.Forall₂ (DeclarationMoved d) declarations declarations') :
    InStep d (fun ms ms' => ms' = ms.map (Method.rename (moved d)))
      (ofExcept (declaredMethods known ambient declarations) : CompileM _)
      (ofExcept (declaredMethods known ambient' declarations') : CompileM _) := by
  simp only [declaredMethods, ofExcept_bind]
  refine (inStep_split h .nil .nil).bind ?_
  rintro ⟨messages, groups⟩ ⟨messages', groups'⟩ ⟨hm, hg⟩
  refine (inStep_messageMethods hm).bind ?_
  rintro ms _ rfl
  exact inStep_pure (by rw [groupMethods_of_moved hg, List.map_append])

@[simp] theorem name_rename (ρ : String → String) (m : Method) :
    (m.rename ρ).name = m.name := rfl

theorem names_rename (ρ : String → String) (ms : List Method) :
    (ms.map (Method.rename ρ)).map Method.name = ms.map Method.name := by
  simp [Function.comp_def]

theorem keep_rename (ρ : String → String) (policy : DuplicatePolicy) (ms : List Method) :
    kept policy (ms.map (Method.rename ρ)) =
      (kept policy ms).map (Method.rename ρ) := by
  have hlast : keepLast (ms.map (Method.rename ρ)) = (keepLast ms).map (Method.rename ρ) := by
    induction ms with
    | nil => rfl
    | cons m rest ih =>
      have hany : (rest.map (Method.rename ρ)).any (·.name == m.name) =
          rest.any (·.name == m.name) := by
        rw [List.any_map]
        rfl
      simp only [List.map_cons, keepLast, name_rename, hany, ih]
      split_ifs <;> rfl
  have hfirst (met : List String) : keepFirst met (ms.map (Method.rename ρ)) =
      (keepFirst met ms).map (Method.rename ρ) := by
    clear hlast
    induction ms generalizing met with
    | nil => rfl
    | cons m rest ih =>
      simp only [List.map_cons, keepFirst, name_rename, ih]
      split_ifs <;> rfl
  cases policy with
  | keepFirst => exact hfirst []
  | refuse => exact hlast
  | keepLast => exact hlast

theorem inStep_settle (policy : DuplicatePolicy) (component : String)
    (declarations declarations' : List Declaration) (ms : List Method) :
    InStep d (fun ks ks' => ks' = ks.map (Method.rename (moved d)))
      (settle policy component ambient declarations ms)
      (settle policy component ambient' declarations' (ms.map (Method.rename (moved d)))) := by
  unfold settle
  rw [names_rename]
  refine (inStep_forIn (R := fun _ _ => True) trivial fun entry _ _ _ => ?_).bind fun _ _ _ =>
    inStep_pure (keep_rename _ policy ms)
  obtain ⟨name, count⟩ := entry
  cases policy with
  | refuse => exact (inStep_refuse (R := fun _ _ => False)).bind fun _ _ h => h.elim
  | keepFirst =>
    exact (inStep_warn _ _).bind fun _ _ _ => inStep_pure (.inl ⟨_, _, rfl, rfl, trivial⟩)
  | keepLast =>
    exact (inStep_warn _ _).bind fun _ _ _ => inStep_pure (.inl ⟨_, _, rfl, rfl, trivial⟩)

/-- What is added to a component has no generated name. -/
theorem rename_missingDefaults {declared : List String} {defaults : List Default}
    (hdefaults : ∀ e ∈ defaults, Ir.renameBlock (moved d) e.body = e.body) :
    ∀ {added : List Method}, missingDefaults known ambient declared defaults = .ok added →
      added.map (Method.rename (moved d)) = added := by
  induction defaults with
  | nil =>
    intro added h
    obtain rfl : [] = added := by simpa [missingDefaults] using h
    rfl
  | cons e rest ih =>
    obtain ⟨hbody, hrest⟩ := List.forall_mem_cons.mp hdefaults
    intro added h
    unfold missingDefaults at h
    split at h
    · exact ih hrest h
    · split at h
      · simp at h
      · cases hx : missingDefaults known ambient declared rest with
        | error e => simp [hx, bind, Except.bind] at h
        | ok others =>
          obtain rfl := by simpa [hx, bind, Except.bind] using h
          simp [Method.rename, hbody, ih hrest hx]

theorem missingDefaults_toOption (declared : List String) (defaults : List Default) :
    (missingDefaults known ambient declared defaults).toOption =
      (missingDefaults known ambient' declared defaults).toOption := by
  induction defaults with
  | nil => rfl
  | cons e rest ih =>
    unfold missingDefaults
    split_ifs
    · exact ih
    · cases e.interface <|> known.interfaceFor e.name with
      | none => rfl
      | some interface =>
        cases hx : missingDefaults known ambient declared rest <;>
          cases hy : missingDefaults known ambient' declared rest <;>
          simp_all [Except.toOption, bind, Except.bind]

theorem moved_words : moved d runtimeAlias = runtimeAlias ∧ moved d "self" = "self" ∧
    moved d "__name__" = "__name__" :=
  ⟨moved_of_source (by decide) d, moved_of_source (by decide) d, moved_of_source (by decide) d⟩

theorem rename_defaults : ∀ e ∈ defaults, Ir.renameBlock (moved d) e.body = e.body := by
  obtain ⟨halias, hself, -⟩ := moved_words (d := d)
  simp [defaults, runtimeCall, Ir.renameBlock, Ir.Stmt.rename, Ir.Expr.rename,
    Ir.renameList, halias, hself]

theorem inStep_missingDefaults (declared : List String) :
    InStep d (fun ms ms' => ms' = ms.map (Method.rename (moved d)))
      (ofExcept (missingDefaults known ambient declared defaults) : CompileM _)
      (ofExcept (missingDefaults known ambient' declared defaults) : CompileM _) := by
  have hfixed : Ensures (ofExcept (missingDefaults known ambient declared defaults) : CompileM _)
      fun added => added.map (Method.rename (moved d)) = added :=
    ensures_ofExcept fun added hadded => rename_missingDefaults rename_defaults hadded
  refine ((inStep_ofExcept (missingDefaults_toOption declared defaults)).and_ensures hfixed).mono ?_
  rintro added _ ⟨rfl, hadded⟩
  exact hadded.symm

theorem withLoading_rename (moduleName : Option String) (m : Method) :
    withLoading moduleName (m.rename (moved d)) = (withLoading moduleName m).rename (moved d) := by
  obtain ⟨halias, -, hname⟩ := moved_words (d := d)
  unfold withLoading
  rw [name_rename]
  split_ifs
  · match moduleName with
    | none | some "" =>
      simp [Method.rename, runtimeCall, Ir.renameBlock, Ir.Stmt.rename, Ir.Expr.rename,
        Ir.renameList, halias, hname]
    | some name =>
      unfold Method.rename runtimeCall
      split
      · simp [Ir.renameBlock, Ir.Stmt.rename, Ir.Expr.rename, Ir.renameList, halias, hname]
      · simp [Ir.renameBlock, Ir.Stmt.rename, Ir.Expr.rename, Ir.renameList, halias, hname]
      · simp [Ir.renameBlock, Ir.Stmt.rename, Ir.Expr.rename, Ir.renameList, halias]
  · rfl

theorem checkFields_rename (component : String) (ρ : String → String)
    (methodNames met : List String) (fields : List Field) :
    (checkFields component ambient methodNames met fields).toOption =
      (checkFields component ambient' methodNames met
        (fields.map (Field.rename ρ))).toOption := by
  induction fields generalizing met with
  | nil => rfl
  | cons f rest ih =>
    simp only [List.map_cons, checkFields, show (f.rename ρ).name = f.name from rfl]
    split_ifs
    all_goals first | rfl | exact ih _

theorem byInterface_rename (ρ : String → String) (ms : List Method) :
    byInterface (ms.map (Method.rename ρ)) = (byInterface ms).map fun i =>
      { i with methods := i.methods.map (Method.rename ρ) } := by
  have hinterface : (ms.map (Method.rename ρ)).filterMap Method.interface =
      ms.filterMap Method.interface := by
    rw [List.filterMap_map]
    rfl
  simp only [byInterface, hinterface, List.map_map]
  refine List.map_congr_left fun interface _ => ?_
  simp [List.filter_map, Function.comp_def, Method.rename]

theorem completeFields_rename (ρ : String → String) (constant : Bool) (fields : List Field) :
    completeFields constant (fields.map (Field.rename ρ)) =
      (completeFields constant fields).map (Field.rename ρ) := by
  unfold completeFields
  split_ifs
  · simp [Function.comp_def, Field.rename, stateField]
  · simp [Function.comp_def, Field.rename]

/-- A definition commutes with renumbering. -/
theorem inStep_compile (policy : DuplicatePolicy) {input input' : Input}
    (hdeclarations : List.Forall₂ (DeclarationMoved d) input.declarations input'.declarations)
    (hinput : input' = { input with
      fields := input.fields.map (Field.rename (moved d)),
      declarations := input'.declarations }) :
    InStep d (fun c c' => c' = c.rename (moved d)) (compile known policy ambient input)
      (compile known policy ambient' input') := by
  obtain ⟨name, fields, declarations, constant, moduleName, base, baseCodeName⟩ := input
  obtain ⟨name', fields', declarations', constant', moduleName', base', baseCodeName'⟩ := input'
  obtain ⟨rfl, rfl, rfl, rfl, rfl, rfl⟩ := by simpa using hinput
  unfold compile
  refine (inStep_declaredMethods hdeclarations).bind ?_
  rintro ms _ rfl
  refine (inStep_settle policy _ _ _ ms).bind ?_
  rintro kept _ rfl
  rw [names_rename]
  refine (inStep_missingDefaults _).bind ?_
  rintro added _ rfl
  have hmethods : (kept.map (Method.rename (moved d)) ++
      added.map (Method.rename (moved d))).map (withLoading moduleName') =
      ((kept ++ added).map (withLoading moduleName')).map (Method.rename (moved d)) := by
    simp [Function.comp_def, withLoading_rename]
  simp only [hmethods, names_rename]
  refine (inStep_ofExcept (checkFields_rename _ (moved d) _ _ fields)).bind fun _ _ _ => ?_
  exact inStep_pure (by simp only [byInterface_rename, completeFields_rename, Ir.Component.rename])

end Definition

namespace Compile

open CompileM

def FunctionSource.unplaced (fn : FunctionSource) : FunctionSource :=
  ⟨.nowhere, fn.name, fn.params.unplaced, Source.unplacedBlock fn.body,
    Source.unplacedExprs fn.decorators, fn.returns.map Source.Expr.unplaced⟩

def ComponentSource.unplaced (c : ComponentSource) : ComponentSource :=
  { c with span := .nowhere, body := Source.unplacedBlock c.body }

section Declarations

variable {d : Int} {r r' : Registry} {env env' : TypeEnv}

/-! ## Functions -/

/-- The same parameters, in environments that are alike. -/
def ParamsMoved (p q : List Ir.Param × TypeEnv) : Prop := q.1 = p.1 ∧ p.2.Alike q.2

theorem inStep_paramList (hr : r.Alike r') (ps : List Source.Param) (henv : env.Alike env') :
    InStep d ParamsMoved (paramList r ps env)
      (paramList r' (ps.map Source.Param.unplaced) env') := by
  induction ps generalizing env env' with
  | nil => exact inStep_pure ⟨rfl, henv⟩
  | cons p rest ih =>
    simp only [List.map_cons, paramList, Source.Param.unplaced]
    refine (inStep_checkName p.name).bind fun _ _ _ => ?_
    refine (inStep_annotType hr p.annot).bind ?_
    rintro type _ rfl
    have hbound : (if type.isNone then env.bind p.name none else env.declare p.name type).Alike
        (if type.isNone then env'.bind p.name none else env'.declare p.name type) := by
      split_ifs
      · exact henv.bind _ _
      · exact henv.declare _ _
    refine (ih hbound).bind ?_
    rintro ⟨params, e⟩ ⟨_, e'⟩ ⟨rfl, he⟩
    exact inStep_pure ⟨rfl, he⟩

theorem inStep_params (hr : r.Alike r') (fn : FunctionSource) (receiver : Option HostType)
    (henv : env.Alike env') :
    InStep d ParamsMoved (params r fn receiver env) (params r' fn.unplaced receiver env') := by
  simp only [params, FunctionSource.unplaced, Source.Params.unplaced, Option.isSome_map,
    List.isEmpty_map]
  refine inStep_check Iff.rfl (inStep_check Iff.rfl (inStep_check Iff.rfl ?_))
  cases receiver with
  | none => exact inStep_paramList hr _ henv
  | some type =>
    cases fn.params.regular with
    | nil => exact inStep_refuseAt
    | cons p rest =>
      simp only [List.map_cons, Source.Param.unplaced, Option.isSome_map]
      refine inStep_check Iff.rfl ?_
      refine (inStep_paramList hr rest (henv.declare p.name type)).bind ?_
      rintro ⟨params, e⟩ ⟨_, e'⟩ ⟨rfl, he⟩
      exact inStep_pure ⟨rfl, he⟩

theorem isEmpty_unplacedExprs (es : List Source.Expr) :
    (Source.unplacedExprs es).isEmpty = es.isEmpty := by
  cases es <;> rfl

/-- **A helper function becomes the same, up to the numbers of generated names.** -/
theorem inStep_function (hr : r.Alike r') (henv : env.Alike env') (fn : FunctionSource) :
    InStep d (fun f f' => f' = f.rename (moved d)) (function r env fn)
      (function r' env' fn.unplaced) := by
  unfold function
  refine inStep_check (by rw [FunctionSource.unplaced, isEmpty_unplacedExprs]) ?_
  refine (inStep_params hr fn none henv).bind ?_
  rintro ⟨params, e⟩ ⟨_, e'⟩ ⟨rfl, he⟩
  refine (inStep_block hr fn.body false he).bind ?_
  rintro ⟨body, _⟩ ⟨_, _⟩ ⟨rfl, -⟩
  exact inStep_pure rfl

theorem inStep_method (hr : r.Alike r') (henv : env.Alike env') (type : HostType)
    (fn : FunctionSource) :
    InStep d (FormMoved d) (method r env type fn) (method r' env' type fn.unplaced) := by
  unfold method
  refine inStep_check (by rw [FunctionSource.unplaced, isEmpty_unplacedExprs]) ?_
  refine inStep_check Iff.rfl ?_
  refine (inStep_params hr fn (some type) henv).bind ?_
  rintro ⟨params, e⟩ ⟨_, e'⟩ ⟨rfl, he⟩
  refine (inStep_block hr fn.body false he).bind ?_
  rintro ⟨body, _⟩ ⟨_, _⟩ ⟨hbody, -⟩
  exact inStep_pure ⟨rfl, rfl, hbody⟩

/-! ## Components -/

theorem inStep_field (hr : r.Alike r') (henv : env.Alike env') {span span' : Source.Span}
    (t annot : Source.Expr) (value : Option Source.Expr) :
    InStep d (fun f f' => f' = f.rename (moved d)) (field r env span t annot value)
      (field r' env' span' t.unplaced annot.unplaced (value.map Source.Expr.unplaced)) := by
  cases t with
  | name sp id use =>
    refine (inStep_annotType hr (some annot)).bind ?_
    rintro type _ rfl
    refine (inStep_exprOption hr henv value).bind ?_
    rintro code _ rfl
    exact inStep_pure rfl
  | _ => exact inStep_refuseAt

theorem inStep_groupBody (hr : r.Alike r') (henv : env.Alike env') (type : HostType)
    (stmts : List Source.Stmt) :
    InStep d (List.Forall₂ (FormMoved d)) (groupBody r env type stmts)
      (groupBody r' env' type (Source.unplacedBlock stmts)) := by
  induction stmts with
  | nil => exact inStep_pure .nil
  | cons s rest ih =>
    have hother : InStep d (List.Forall₂ (FormMoved d))
        (if s.isDocstring then groupBody r env type rest else refuseAt s.span .groupBody)
        (if s.unplaced.isDocstring then groupBody r' env' type (Source.unplacedBlock rest)
          else refuseAt s.unplaced.span .groupBody) :=
      inStep_ite (by rw [Source.Stmt.isDocstring_unplaced]) ih inStep_refuseAt
    cases s with
    | functionDef span name params body decorators returns =>
      refine (inStep_method hr henv type ⟨span, name, params, body, decorators, returns⟩).bind ?_
      exact fun form form' hform => ih.bind fun _ _ hforms => inStep_pure (.cons hform hforms)
    | pass span => exact ih
    | _ => exact hother

theorem inStep_group (hr : r.Alike r') (henv : env.Alike env') (type : HostType)
    {span span' : Source.Span} (name : String) (bases keywords : List Source.Expr)
    (body : List Source.Stmt) (decorators : List Source.Expr) :
    InStep d (DeclarationMoved d) (group r env type span name bases keywords body decorators)
      (group r' env' type span' name (Source.unplacedExprs bases) (Source.unplacedExprs keywords)
        (Source.unplacedBlock body) (Source.unplacedExprs decorators)) := by
  unfold group
  refine inStep_check (by simp only [isEmpty_unplacedExprs]) ?_
  have hmethods (interface : String) : InStep d (DeclarationMoved d)
      (do
        let methods ← groupBody r env type body
        if methods.isEmpty then refuseAt span (.emptyGroup interface)
        return .group interface methods)
      (do
        let methods ← groupBody r' env' type (Source.unplacedBlock body)
        if methods.isEmpty then refuseAt span' (.emptyGroup interface)
        return .group interface methods) :=
    (inStep_groupBody hr henv type body).bind fun forms forms' hforms =>
      inStep_check (by cases hforms <;> simp) (inStep_pure (.group hforms))
  match bases with
  | [] =>
    refine (inStep_pure (R := Eq) rfl).bind ?_
    rintro interface _ rfl
    exact hmethods interface
  | [base] =>
    refine (inStep_ofExcept (base.expectDotted_unplaced "interface").symm).bind ?_
    rintro interface _ rfl
    exact hmethods interface
  | _ :: _ :: _ => exact (inStep_refuseAt (R := fun _ _ => False)).bind fun _ _ h => h.elim

/-- Fields and declarations that correspond. -/
def BodyMoved (d : Int) (p q : List Ir.Field × List Declaration) : Prop :=
  q.1 = p.1.map (Ir.Field.rename (moved d)) ∧ List.Forall₂ (DeclarationMoved d) p.2 q.2

theorem inStep_componentBody (hr : r.Alike r') (henv : env.Alike env') (type : HostType)
    (stmts : List Source.Stmt) :
    InStep d (BodyMoved d) (componentBody r env type stmts)
      (componentBody r' env' type (Source.unplacedBlock stmts)) := by
  induction stmts with
  | nil => exact inStep_pure ⟨rfl, .nil⟩
  | cons s rest ih =>
    have hother : InStep d (BodyMoved d)
        (if s.isDocstring then componentBody r env type rest else refuseAt s.span .componentBody)
        (if s.unplaced.isDocstring then componentBody r' env' type (Source.unplacedBlock rest)
          else refuseAt s.unplaced.span .componentBody) :=
      inStep_ite (by rw [Source.Stmt.isDocstring_unplaced]) ih inStep_refuseAt
    cases s with
    | annAssign span t annot value =>
      refine (inStep_field hr henv t annot value).bind ?_
      rintro f _ rfl
      refine ih.bind ?_
      rintro ⟨fields, declarations⟩ ⟨_, declarations'⟩ ⟨rfl, hdeclarations⟩
      exact inStep_pure ⟨rfl, hdeclarations⟩
    | functionDef span name params body decorators returns =>
      refine (inStep_method hr henv type ⟨span, name, params, body, decorators, returns⟩).bind ?_
      intro form form' hform
      refine ih.bind ?_
      rintro ⟨fields, declarations⟩ ⟨_, declarations'⟩ ⟨rfl, hdeclarations⟩
      exact inStep_pure ⟨rfl, .cons (.message hform) hdeclarations⟩
    | classDef span name bases keywords body decorators =>
      refine (inStep_group hr henv type name bases keywords body decorators).bind ?_
      intro g g' hg
      refine ih.bind ?_
      rintro ⟨fields, declarations⟩ ⟨_, declarations'⟩ ⟨rfl, hdeclarations⟩
      exact inStep_pure ⟨rfl, .cons hg hdeclarations⟩
    | pass span => exact ih
    | _ => exact hother

/-- **A component becomes the same, up to the numbers of generated names.** -/
theorem inStep_component (hr : r.Alike r') (henv : env.Alike env') (known : Messages)
    (policy : DuplicatePolicy) (moduleName : Option String) (c : ComponentSource) :
    InStep d (fun k k' => k' = k.rename (moved d)) (component r known policy moduleName env c)
      (component r' known policy moduleName env' c.unplaced) := by
  unfold component
  refine (inStep_componentBody hr henv c.type c.body).bind ?_
  rintro ⟨fields, declarations⟩ ⟨_, declarations'⟩ ⟨rfl, hdeclarations⟩
  have hempty : declarations'.isEmpty = declarations.isEmpty := by
    cases hdeclarations <;> rfl
  have hdefinition : InStep d (fun k k' => k' = k.rename (moved d))
      (Definition.compile known policy (some (.ofSpan c.span))
        { name := c.name, fields, declarations, constant := c.constant, moduleName })
      (Definition.compile known policy (some (.ofSpan .nowhere))
        { name := c.name, fields := fields.map (Ir.Field.rename (moved d))
          declarations := declarations', constant := c.constant, moduleName }) :=
    Definition.inStep_compile policy hdeclarations rfl
  refine inStep_ite (by rw [hempty]) ?_ hdefinition
  exact (inStep_warn _ _).bind fun _ _ _ => hdefinition

end Declarations

end Compile

end Componentry
