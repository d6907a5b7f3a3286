import Componentry.Proofs.FirstPass

/-!
# Types of field reads

A component is registered with the designators of its fields, and its compiled form records the
names of their types. A field of open type has no designator, so the registered type does not show
it, and a read of the field goes on to the types above the component.

**Theorem (`reads_typed_by_declaration_iff`).** Where an object has the type of a component, a read
of a declared field has the type that the declaration records, unless the declaration leaves the
type open and a type above all components has a field of the same name.
-/

namespace Componentry

/-- The types above every component that a source declares, from the nearest to the root. -/
def Host.componentBases : List HostType :=
  Registry.chain Host.builtin.types (some Host.monoBehaviourName)

/-- The fields that every component has without declaring them. -/
def Host.inheritedFields : List String :=
  Host.componentBases.flatMap fun base => base.fields.map Prod.fst

example : Host.inheritedFields = ["enabled", "gameObject", "transform", "tag", "name"] := by
  decide +kernel

theorem HostType.ownField?_eq_none {t : HostType} {field : String} :
    t.ownField? field = none ↔ field ∉ t.fields.map Prod.fst := by
  rw [HostType.ownField?, Option.map_eq_none_iff, List.find?_eq_none]
  simp only [List.mem_map, not_exists, not_and, beq_iff_eq]

namespace Compile

open CompileM

/-! ## Registered fields -/

/-- The name and the designator of a field, if it has a type. -/
def GlobalSource.typedField? (g : GlobalSource) : Option (String × String) :=
  g.annot.designator.toOption.join.map (g.name, ·)

theorem typedField?_fst {g : GlobalSource} {e : String × String} (h : g.typedField? = some e) :
    e.1 = g.name := by
  obtain ⟨d, -, rfl⟩ := Option.map_eq_some_iff.mp h
  rfl

theorem fieldDesignators_eq {body : List Source.Stmt} {fields : List (String × String)}
    (h : fieldDesignators body = .ok fields) :
    fields = (globalsIn body).filterMap GlobalSource.typedField? := by
  induction body generalizing fields with
  | nil => exact (Except.ok.inj h).symm
  | cons s rest ih =>
    cases s with
    | annAssign span target annot value =>
      cases target with
      | name sp id use =>
        rw [fieldDesignators] at h
        cases hd : annot.designator with
        | error e => simp [hd, bind, Except.bind] at h
        | ok d =>
          cases hrest : fieldDesignators rest with
          | error e => simp [hd, hrest, bind, Except.bind] at h
          | ok fields' =>
            obtain rfl : d.toList.map (id, ·) ++ fields' = fields := by
              simpa [hd, hrest, bind, Except.bind] using h
            have hfirst : GlobalSource.typedField? ⟨span, id, annot, value⟩ = d.map (id, ·) := by
              simp [GlobalSource.typedField?, hd, Except.toOption]
            rw [show globalsIn (.annAssign span (.name sp id use) annot value :: rest) =
              ⟨span, id, annot, value⟩ :: globalsIn rest from rfl, List.filterMap_cons,
              hfirst, ih hrest]
            cases d <;> rfl
      | _ => exact ih h
    | _ => exact ih h

/-- With distinct names, a field is registered with its own designator. -/
theorem find?_typedField {gs : List GlobalSource} (hnodup : (gs.map GlobalSource.name).Nodup)
    {g : GlobalSource} (hg : g ∈ gs) :
    (gs.filterMap GlobalSource.typedField?).find? (·.1 == g.name) = g.typedField? := by
  induction gs with
  | nil => simp at hg
  | cons g' rest ih =>
    obtain ⟨hnew, hnodup⟩ := List.nodup_cons.mp hnodup
    rcases List.mem_cons.mp hg with rfl | hrest
    · cases hfield : g.typedField? with
      | some e => simp [hfield, typedField?_fst hfield]
      | none =>
        rw [List.filterMap_cons_none hfield, List.find?_eq_none]
        intro e he heq
        obtain ⟨g', hg', hfield'⟩ := List.mem_filterMap.mp he
        have hname : g'.name = g.name := (typedField?_fst hfield').symm.trans (by simpa using heq)
        exact hnew (hname ▸ List.mem_map_of_mem hg')
    · have hne : g'.name ≠ g.name := fun heq => hnew (heq ▸ List.mem_map_of_mem hrest)
      cases hfield : g'.typedField? with
      | none => rw [List.filterMap_cons_none hfield, ih hnodup hrest]
      | some e =>
        rw [List.filterMap_cons_some hfield, List.find?_cons_of_neg, ih hnodup hrest]
        simpa [typedField?_fst hfield] using hne

theorem ownField?_type {cls : ClassSource} {fields : List (String × String)}
    (hfields : fieldDesignators cls.body = .ok fields)
    (hnodup : ((globalsIn cls.body).map GlobalSource.name).Nodup) {g : GlobalSource}
    (hg : g ∈ globalsIn cls.body) :
    cls.type.ownField? g.name = g.annot.designator.toOption.join := by
  have htype : cls.type.fields = (globalsIn cls.body).filterMap GlobalSource.typedField? := by
    rw [← fieldDesignators_eq hfields]
    simp [ClassSource.type, hfields, Except.toOption]
  rw [HostType.ownField?, htype, find?_typedField hnodup hg, GlobalSource.typedField?,
    Option.map_map]
  exact Option.map_id'

/-! ## The types above a component -/

theorem chain_withClasses {classes : List ClassSource} {n : String}
    (h : ∀ c ∈ classes, c.name ≠ n) (r : Registry) :
    Registry.chain (withClasses r classes).types (some n) = Registry.chain r.types (some n) := by
  induction classes generalizing r with
  | nil => rfl
  | cons c rest ih =>
    obtain ⟨hc, hrest⟩ := List.forall_mem_cons.mp h
    refine (ih hrest (r.add c.type [])).trans ?_
    exact if_neg hc

section Admissible

variable {stmts : List Source.Stmt}

/-- The types above a component are the same in every source. -/
theorem Admissible.ancestors_type (h : Admissible stmts) (cls : ClassSource) :
    (registryOf stmts).ancestors cls.type = cls.type :: Host.componentBases := by
  rw [Registry.ancestors, Host.componentBases, registryOf]
  refine congrArg _ (chain_withClasses (fun c hc heq => ?_) Host.builtin)
  obtain ⟨u, hu, -⟩ := Registry.hosts_builtin.base
  simpa [heq, hu] using (h.heads c hc).new

/-- The types of inherited fields are those of the host. -/
theorem Admissible.lookup_inherited (h : Admissible stmts) {base : HostType}
    (hbase : base ∈ Host.componentBases) {field d : String} (hd : base.ownField? field = some d) :
    ((registryOf stmts).lookup d).isSome := by
  have hknown : ∀ base ∈ Host.componentBases, ∀ e ∈ base.fields,
      (Host.builtin.lookup e.2).isSome := by decide +kernel
  obtain ⟨e, he, rfl⟩ := Option.map_eq_some_iff.mp hd
  have hlookup := hknown base hbase e (List.mem_of_find?_eq_some he)
  rw [registryOf, lookup_withClasses Registry.hosts_builtin h.heads h.declares.nodup_classes]
  · exact hlookup
  · intro hclass
    obtain ⟨c, hc, hname⟩ := List.mem_map.mp hclass
    rw [← hname, (h.heads c hc).new] at hlookup
    simp at hlookup

/-- A field that the component's own type shows has the type that its designator names. -/
theorem Admissible.fieldType_of_typed (h : Admissible stmts) {cls : ClassSource}
    {field d : String} (hd : cls.type.ownField? field = some d) :
    (registryOf stmts).fieldType cls.type field = (registryOf stmts).lookup d := by
  simp [Registry.fieldType, h.ancestors_type, hd]

/-- A field that it does not show has a type exactly if the field is inherited. -/
theorem Admissible.fieldType_of_open (h : Admissible stmts) {cls : ClassSource} {field : String}
    (hopen : cls.type.ownField? field = none) :
    (registryOf stmts).fieldType cls.type field = none ↔ field ∉ Host.inheritedFields := by
  rw [Registry.fieldType, h.ancestors_type, List.findSome?_cons, hopen]
  simp only [Host.inheritedFields, List.mem_flatMap, not_exists, not_and,
    ← HostType.ownField?_eq_none]
  constructor
  · intro hnone base hbase
    by_contra hfield
    cases hfound : Host.componentBases.findSome? (·.ownField? field) with
    | none => exact hfield (List.findSome?_eq_none_iff.mp hfound base hbase)
    | some d =>
      obtain ⟨base', hbase', hd⟩ := List.exists_of_findSome?_eq_some hfound
      have hlookup := h.lookup_inherited hbase' hd
      simp [hfound] at hnone
      simp [hnone] at hlookup
  · intro hall
    rw [List.findSome?_eq_none_iff.mpr hall, Option.bind_none]

end Admissible

/-! ## Recorded fields -/

section Fields

variable {r : Registry} {env : TypeEnv} {t t' : Trace}

/-- The name of the type that an annotation gives. -/
def typeNameOf (r : Registry) (annot : Source.Expr) : Option String :=
  (annotated r annot).join.map HostType.fullName

theorem fields_of_componentBody {type : HostType} {body : List Source.Stmt}
    {fields : List Ir.Field} {declarations : List Declaration}
    (h : Yields (componentBody r env type body) t (fields, declarations) t') :
    fields.map (fun f => (f.name, f.typeName)) =
      (globalsIn body).map fun g => (g.name, typeNameOf r g.annot) := by
  induction body generalizing fields declarations t t' with
  | nil =>
    obtain ⟨heq, -⟩ := yields_pure.mp h
    obtain ⟨rfl, rfl⟩ := Prod.mk.inj heq
    rfl
  | cons s rest ih =>
    cases s with
    | annAssign span target annot value =>
      simp only [componentBody, yields_bind, yields_pure] at h
      obtain ⟨f, t₁, hf, ⟨fields', declarations'⟩, t₂, hrest, heq, -⟩ := h
      obtain ⟨rfl, rfl⟩ := Prod.mk.inj heq
      unfold field at hf
      cases target with
      | name sp id use =>
        simp only [yields_bind, yields_pure, yields_annotType_iff] at hf
        obtain ⟨T, _, ⟨hT, -⟩, _, _, -, rfl, -⟩ := hf
        rw [List.map_cons, ih hrest]
        simp [globalsIn, typeNameOf, hT]
      | _ => exact absurd hf yields_refuseAt
    | functionDef span name params fbody decorators returns =>
      simp only [componentBody, yields_bind, yields_pure] at h
      obtain ⟨form, t₁, -, ⟨fields', declarations'⟩, t₂, hrest, heq, -⟩ := h
      obtain ⟨rfl, rfl⟩ := Prod.mk.inj heq
      exact ih hrest
    | classDef span name bases keywords cbody decorators =>
      simp only [componentBody, yields_bind, yields_pure] at h
      obtain ⟨g, t₁, -, ⟨fields', declarations'⟩, t₂, hrest, heq, -⟩ := h
      obtain ⟨rfl, rfl⟩ := Prod.mk.inj heq
      exact ih hrest
    | pass span => exact ih h
    | _ =>
      simp only [componentBody] at h
      split_ifs at h
      · exact ih h
      · exact absurd h yields_refuseAt

/-- A compiled component records each declared field under its name, and no two have the same. -/
theorem fields_of_component {known : Messages} {policy : DuplicatePolicy}
    {moduleName : Option String} {k : ComponentSource} {c : Ir.Component}
    (h : Yields (component r known policy moduleName env k) t c t') :
    c.name = k.name ∧ ((globalsIn k.body).map GlobalSource.name).Nodup ∧
      (c.fields.map Ir.Field.name).Nodup ∧ ∀ g ∈ globalsIn k.body,
        ∃ decl ∈ c.fields, decl.name = g.name ∧ decl.typeName = typeNameOf r g.annot := by
  simp only [component, yields_bind] at h
  obtain ⟨⟨fields, declarations⟩, t₁, hbody, h⟩ := h
  obtain ⟨t₂, hcompile⟩ : ∃ t₂, Yields (Definition.compile known policy (some (Place.ofSpan k.span))
      { name := k.name, fields, declarations, constant := k.constant, moduleName }) t₂ c t' := by
    dsimp only at h
    split_ifs at h
    · obtain ⟨_, t₂, -, h⟩ := yields_bind.mp h
      exact ⟨t₂, h⟩
    · exact ⟨t₁, h⟩
  have hfields := fields_of_componentBody hbody
  obtain ⟨hc, -, hnodup, -⟩ := Definition.fields_of_compile hcompile
  obtain ⟨-, hname, -⟩ := Definition.ensures_compile known policy _ _ t₂ c t' hcompile
  refine ⟨hname, ?_, (Definition.settled_of_compile hcompile).fields, fun g hg => ?_⟩
  · have hnames := congrArg (List.map Prod.fst) hfields
    simp only [List.map_map, Function.comp_def] at hnames
    exact hnames ▸ hnodup
  · have hmem : (g.name, typeNameOf r g.annot) ∈ fields.map fun f => (f.name, f.typeName) :=
      hfields ▸ List.mem_map_of_mem hg
    obtain ⟨f, hf, heq⟩ := List.mem_map.mp hmem
    obtain ⟨hfname, hftype⟩ := Prod.mk.inj heq
    refine ⟨{ f with mutable := true }, ?_, hfname, hftype⟩
    rw [hc]
    exact List.mem_append_left _ (List.mem_map_of_mem hf)

end Fields

/-! ## Reads of declared fields -/

theorem designator_of_annotated {r : Registry} {e : Source.Expr} {T : Option HostType}
    (h : annotated r e = some T) :
    e.designator.toOption.join = none ∧ T = none ∨
      ∃ d U, e.designator.toOption.join = some d ∧ r.lookup d = some U ∧ T = some U := by
  obtain ⟨d, hd, h⟩ := Option.bind_eq_some_iff.mp h
  cases d with
  | none => exact .inl ⟨by rw [hd]; rfl, (Option.some.inj h).symm⟩
  | some d =>
    obtain ⟨U, hU, rfl⟩ := Option.map_eq_some_iff.mp h
    exact .inr ⟨d, U, by rw [hd]; rfl, hU, rfl⟩

/-- A read of a declared field has the recorded type, unless the type is open and the field is also
inherited. -/
theorem Admissible.fieldType_eq_typeNameOf_iff {stmts : List Source.Stmt} (h : Admissible stmts)
    {cls : ClassSource} (hcls : cls ∈ classesIn stmts)
    (hnodup : ((globalsIn cls.body).map GlobalSource.name).Nodup) {g : GlobalSource}
    (hg : g ∈ globalsIn cls.body) :
    ((registryOf stmts).fieldType cls.type g.name).map HostType.fullName =
        typeNameOf (registryOf stmts) g.annot ↔
      (typeNameOf (registryOf stmts) g.annot = none → g.name ∉ Host.inheritedFields) := by
  obtain ⟨fields, hfields⟩ := (h.heads cls hcls).fields
  have hown := ownField?_type hfields hnodup hg
  obtain ⟨T, hT⟩ := Option.isSome_iff_exists.mp (h.fields cls hcls g hg)
  rw [typeNameOf, hT]
  rcases designator_of_annotated hT with ⟨hopen, rfl⟩ | ⟨d, U, hd, hU, rfl⟩
  · rw [hopen] at hown
    simp [h.fieldType_of_open hown]
  · rw [hd] at hown
    simp [h.fieldType_of_typed hown, hU]

/-- The compiled component records the declared fields of the class, and where an object has the
type of the class, a read of such a field has the recorded type exactly if the type is not open or
the field is not inherited. -/
def ReadsAsRecorded (r : Registry) (cls : ClassSource) (c : Ir.Component) : Prop :=
  c.name = cls.name ∧ ∀ g ∈ globalsIn cls.body,
    ∃ decl, c.fields.find? (·.name == g.name) = some decl ∧
      ∀ env obj, resolve r env obj = some cls.type →
        ((resolve r env (.attr obj g.name)).map HostType.fullName = decl.typeName ↔
          (decl.typeName = none → g.name ∉ Host.inheritedFields))

theorem find?_name_of_mem {fields : List Ir.Field} (hnodup : (fields.map Ir.Field.name).Nodup)
    {f : Ir.Field} (hf : f ∈ fields) : fields.find? (·.name == f.name) = some f := by
  induction fields with
  | nil => simp at hf
  | cons f' rest ih =>
    obtain ⟨hnew, hnodup⟩ := List.nodup_cons.mp hnodup
    rcases List.mem_cons.mp hf with rfl | hrest
    · simp
    · have hne : f'.name ≠ f.name := fun heq => hnew (heq ▸ List.mem_map_of_mem hrest)
      simpa [hne] using ih hnodup hrest

/-- **Reads of declared fields have the recorded types**, but for open fields that hide an inherited
one. -/
theorem reads_typed_by_declaration_iff {known : Messages} {policy : DuplicatePolicy}
    {sourcePath moduleName : Option String} {text : String} {m : Ir.Module}
    {stmts : List Source.Stmt}
    (h : (compile known policy sourcePath moduleName text).result = .ok m)
    (hparse : Source.parse text = some stmts) :
    List.Forall₂ (ReadsAsRecorded (registryOf stmts)) (classesIn stmts) m.components := by
  obtain ⟨stmts', t', hparse', hmodule⟩ := exists_module_of_compile h
  obtain rfl : stmts = stmts' := Option.some.inj (hparse.symm.trans hparse')
  obtain ⟨hadmissible, hsecond⟩ := yields_module.mp hmodule
  simp only [secondPass, yields_bind, yields_pure] at hsecond
  obtain ⟨_, _, -, _, _, -, components, _, hcomponents, _, _, -, rfl, -⟩ := hsecond
  have hall := List.forall₂_map_left_iff.mp (forall₂_of_yields_mapM hcomponents)
  refine List.forall₂_iff_zip.mpr ⟨hall.length_eq, fun {cls c} hmem => ?_⟩
  obtain ⟨_, _, hc⟩ := (List.forall₂_iff_zip.mp hall).2 hmem
  obtain ⟨hname, hglobals, hnodup, hrecorded⟩ := fields_of_component hc
  refine ⟨hname, fun g hg => ?_⟩
  obtain ⟨decl, hdecl, hdname, htype⟩ := hrecorded g hg
  refine ⟨decl, hdname ▸ find?_name_of_mem hnodup hdecl, fun env obj hobj => ?_⟩
  rw [resolve, hobj, Option.bind_some, htype]
  exact hadmissible.fieldType_eq_typeNameOf_iff (List.of_mem_zip hmem).1 hglobals hg

/-- A component with a field that hides an inherited one, and with one of open type. -/
def lamp : String :=
  "class Lamp:\n" ++
  "    name: int = 1\n" ++
  "    shade: Any = None\n" ++
  "    def Start(self):\n" ++
  "        return self.name\n"

/-- The environment of a method that knows nothing but its receiver. -/
def receiverEnv (cls : ClassSource) : TypeEnv := ({} : TypeEnv).declare "self" cls.type

theorem lamp_reads_as_recorded :
    ∃ m stmts cls, (compile .standard .keepLast none none lamp).result = .ok m ∧
      Source.parse lamp = some stmts ∧ classesIn stmts = [cls] ∧
      ∀ e ∈ [("name", some "System.Int32"), ("shade", none)],
        (resolve (registryOf stmts) (receiverEnv cls) (.attr (.var "self") e.1)).map
          HostType.fullName = e.2 := by
  obtain ⟨m, stmts, h, hparse, hone, hnames, hfields⟩ :
      ∃ m stmts, (compile .standard .keepLast none none lamp).result = .ok m ∧
        Source.parse lamp = some stmts ∧ (classesIn stmts).length = 1 ∧
        (∀ cls ∈ classesIn stmts, (globalsIn cls.body).map GlobalSource.name = ["name", "shade"]) ∧
        ∀ c ∈ m.components, ∀ e ∈ [("name", some "System.Int32"), ("shade", none)],
          (c.fields.find? (·.name == e.1)).map Ir.Field.typeName = some e.2 :=
    exists_ok_some (by decide +kernel)
  have hfree : ∀ e ∈ [("name", some "System.Int32"), ("shade", none)],
      e.2 = none → e.1 ∉ Host.inheritedFields := by decide +kernel
  obtain ⟨cls, hcls⟩ := List.length_eq_one_iff.mp hone
  have hreads := reads_typed_by_declaration_iff h hparse
  rw [hcls] at hreads hnames
  obtain ⟨c, cs, ⟨-, hread⟩, -, hc⟩ := List.forall₂_cons_left_iff.mp hreads
  refine ⟨m, stmts, cls, h, hparse, hcls, fun e he => ?_⟩
  have hname : e.1 ∈ (globalsIn cls.body).map GlobalSource.name := by
    rw [hnames cls List.mem_cons_self]
    simpa using (List.mem_map_of_mem (f := Prod.fst) he)
  obtain ⟨g, hg, hge⟩ := List.mem_map.mp hname
  obtain ⟨decl, hdecl, hiff⟩ := hread g hg
  rw [hge] at hdecl hiff
  have htype : decl.typeName = e.2 := by
    simpa [hdecl] using hfields c (by rw [hc]; exact List.mem_cons_self) e he
  rw [← htype]
  exact (hiff (receiverEnv cls) (.var "self") rfl).mpr (htype ▸ hfree e he)

/-- A component with an open field that hides an inherited one. -/
def label : String :=
  "class Label:\n" ++
  "    name: Any = None\n" ++
  "    def Start(self):\n" ++
  "        return self.name\n"

/-- The declaration records no type, and yet the read has one. -/
theorem label_reads_inherited_type :
    ∃ m stmts, (compile .standard .keepLast none none label).result = .ok m ∧
      Source.parse label = some stmts ∧
      ∃ cls ∈ classesIn stmts, ∃ c ∈ m.components, ∃ decl ∈ c.fields,
        c.name = cls.name ∧ decl.name = "name" ∧ decl.typeName = none ∧
        (resolve (registryOf stmts) (receiverEnv cls) (.var "self")) = some cls.type ∧
        (resolve (registryOf stmts) (receiverEnv cls) (.attr (.var "self") "name")).map
          HostType.fullName = some Host.stringName :=
  exists_ok_some (by decide +kernel)

end Compile

end Componentry
