import Componentry.Proofs.Hierarchy
import Componentry.Proofs.InStepModule
import Componentry.Proofs.WellFormed

/-!
# The first pass over a module

The first pass meets the top-level statements in their order: it collects declarations, registers
the types of components one after the other, and looks up the annotations of fields and values. What
it accepts and what it hands on is said here without that order.

**Theorem (`yields_module`).** A module is compiled if its statements are `Admissible`, and then the
second pass compiles values, functions and components in a registry and an environment that are the
host's types and those of all classes, and the annotations of all values.

**Theorem (`Admissible.reordered`).** Neither the places nor the order of the statements matter to
whether they are admissible, and registries and environments of reordered statements are alike.
-/

namespace Componentry

open CompileM

/-! ## Registries that list the same -/

namespace Registry

theorem ancestors_of_parent?_eq_none {r : Registry} {t : HostType}
    (h : r.parent? t = none) : r.ancestors t = [t] := by
  have hchain (ts : List HostType) (b : String) (hb : ts.find? (·.fullName == b) = none) :
      chain ts (some b) = [] := by
    induction ts with
    | nil => rfl
    | cons u older ih =>
      obtain ⟨hu, hb⟩ := by simpa using hb
      simp [chain, hu, ih (by simpa using hb)]
  cases hbase : t.base with
  | none => exact ancestors_of_root hbase
  | some b =>
    rw [parent?, hbase, Option.bind_some] at h
    rw [ancestors, hbase, hchain _ b h]

/-- Both registries hold the same types and the same aliases, in whatever order. -/
structure Same (r r' : Registry) : Prop where
  find? : ∀ n, r.find? n = r'.find? n
  aliases : ∀ a, r.aliases.get? a = r'.aliases.get? a

namespace Same

variable {r r' r'' : Registry}

theorem refl (r : Registry) : r.Same r := ⟨fun _ => rfl, fun _ => rfl⟩

theorem trans (h : r.Same r') (h' : r'.Same r'') : r.Same r'' :=
  ⟨fun n => (h.find? n).trans (h'.find? n), fun a => (h.aliases a).trans (h'.aliases a)⟩

theorem add (h : r.Same r') (t : HostType) (aliases : List String) :
    (r.add t aliases).Same (r'.add t aliases) :=
  ⟨fun n => by simp [h.find?], fun a => by simp [h.aliases]⟩

theorem foldl_add (h : r.Same r') (ts : List HostType) :
    (ts.foldl (fun r t => r.add t []) r).Same (ts.foldl (fun r t => r.add t []) r') := by
  induction ts generalizing r r' with
  | nil => exact h
  | cons t rest ih => exact ih (h.add t [])

theorem lookup (h : r.Same r') (d : String) : r.lookup d = r'.lookup d := by
  simp only [Registry.lookup, h.find?, h.aliases]

/-- The way up is the same, as every base is found alike. The induction is on its length. -/
theorem ancestors (h : r.Same r') (hf : Forest r.types) (hf' : Forest r'.types) (t : HostType) :
    r.ancestors t = r'.ancestors t := by
  have hparent (u : HostType) : r.parent? u = r'.parent? u := by
    simp only [parent?, funext h.find?]
  induction hn : (r.ancestors t).length generalizing t with
  | zero => simp [Registry.ancestors] at hn
  | succ n ih =>
    cases hu : r.parent? t with
    | none =>
      rw [ancestors_of_parent?_eq_none hu, ancestors_of_parent?_eq_none (hparent t ▸ hu)]
    | some u =>
      obtain ⟨-, hancestors⟩ := ancestors_of_parent? hf hu
      obtain ⟨-, hancestors'⟩ := ancestors_of_parent? hf' (hparent t ▸ hu)
      rw [hancestors] at hn
      rw [hancestors, hancestors', ih u (by simpa using hn)]

end Same

/-! ## Registries and components -/

/-- The registry knows the base of all components, and its aliases lead to types. -/
structure Hosts (r : Registry) : Prop where
  aliasesKnown : r.AliasesKnown
  base : ∃ u, r.lookup Host.monoBehaviourName = some u ∧ u.fullName = Host.monoBehaviourName

theorem hosts_builtin : Host.builtin.Hosts where
  aliasesKnown := builtin_reachable.aliasesKnown
  base := by
    have hbase : (Host.builtin.lookup Host.monoBehaviourName).map HostType.fullName =
        some Host.monoBehaviourName := by decide +kernel
    exact Option.map_eq_some_iff.mp hbase

section Components

variable {r : Registry} {t : HostType}

/-- A component is only found by its name, and everything else as before. -/
theorem lookup_add_component (hr : r.AliasesKnown) (hname : t.fullName = t.name)
    (hnew : r.lookup t.name = none) (d : String) :
    (r.add t []).lookup d = if t.name = d then some t else r.lookup d := by
  have hfind : r.find? t.name = none := by
    cases h : r.find? t.name with
    | none => rfl
    | some u => simp [lookup, h] at hnew
  unfold lookup
  rw [find?_add, hname]
  split_ifs with hd
  · rfl
  · cases hfd : r.find? d with
    | some u => rfl
    | none =>
      simp only [get?_aliases_add, List.mem_singleton, Ne.symm hd, if_false, Option.or_none]
      cases halias : r.aliases.get? d with
      | none => rfl
      | some n =>
        obtain ⟨u, hu, hun⟩ := hr d n halias
        have hne : t.name ≠ n := by
          rintro rfl
          simp [← Option.not_isSome_iff_eq_none, find?_isSome.mpr ⟨u, hu, hun⟩] at hfind
        simp [hname, hne]

theorem Hosts.add (hr : r.Hosts) (hname : t.fullName = t.name) (hnew : r.lookup t.name = none) :
    (r.add t []).Hosts where
  aliasesKnown := hr.aliasesKnown.add t []
  base := by
    obtain ⟨u, hu, hfull⟩ := hr.base
    refine ⟨u, ?_, hfull⟩
    rw [lookup_add_component hr.aliasesKnown hname hnew, if_neg, hu]
    rintro heq
    simp [heq, hu] at hnew

/-- A component is registered exactly if its base resolves and its name does not. -/
theorem registerComponent_eq_ok_iff {name base : String} {methods : List String}
    {fields : List (String × String)} {r' : Registry} :
    r.registerComponent name base methods fields = .ok (t, r') ↔
      ∃ u, r.lookup base = some u ∧ r.lookup name = none ∧
        t = { name, fullName := name, base := some u.fullName, methods, fields, codeName := name,
              serializable := true } ∧
        r' = r.add t [] := by
  constructor
  · intro h
    obtain ⟨hregister, hnew, u, hu, ht⟩ := registerComponent_eq_ok h
    exact ⟨u, hu, hnew, ht, (register_eq_ok hregister).1⟩
  · rintro ⟨u, hu, hnew, rfl, rfl⟩
    have hfind : r.find? name = none := by
      cases h : r.find? name with
      | none => rfl
      | some v => simp [lookup, h] at hnew
    have hbase : (r.find? u.fullName).isSome := find?_isSome.mpr ⟨u, mem_of_lookup hu, rfl⟩
    have hensure : r.ensure base = .ok u := ensure_eq_ok.mpr hu
    simp [registerComponent, hensure, hnew, register, hfind, hbase, bind, Except.bind]

end Components

end Registry

namespace Compile

/-! ## Declarations -/

/-- The name that a top-level statement defines. -/
def definedName? : Source.Stmt → Option String
  | .annAssign _ (.name _ id _) _ _ => some id
  | .functionDef _ name .. => some name
  | .classDef _ name .. => some name
  | _ => none

/-- A source may define the name. -/
def MayDefine (x : String) : Prop := isGenerated x = false ∧ x ≠ accessorName ∧ x ≠ castName

theorem yields_checkName_iff {span : Source.Span} {id : String} {u : Unit} {t t' : Trace} :
    Yields (checkName span id) t u t' ↔ MayDefine id ∧ t = t' := by
  unfold checkName MayDefine
  split_ifs with hgen hname
  · simp [hgen]
  · simp only [yields_refuseAt, false_iff]
    rintro ⟨⟨-, haccessor, hcast⟩, -⟩
    simp [haccessor, hcast] at hname
  · simp_all

/-- The statements define names that are new, each once, and nothing else stands among them but
strings. -/
structure DeclaresOnce (met : List String) (stmts : List Source.Stmt) : Prop where
  each : ∀ s ∈ stmts, s.isDocstring = true ∨ ∃ x, definedName? s = some x ∧ MayDefine x
  once : (stmts.filterMap definedName?).Nodup
  new : ∀ x ∈ stmts.filterMap definedName?, x ∉ met

theorem yields_topLevel {s : Source.Stmt} {d : TopLevel} {t t' : Trace}
    (h : Yields (topLevel s) t d t') : definedName? s = some d.name ∧ t = t' := by
  cases s with
  | annAssign span target annot value =>
    cases target with
    | name sp id use =>
      obtain ⟨rfl, rfl⟩ := yields_pure.mp h
      exact ⟨rfl, rfl⟩
    | _ => exact absurd h yields_refuseAt
  | functionDef span name params body decorators returns =>
    obtain ⟨rfl, rfl⟩ := yields_pure.mp h
    exact ⟨rfl, rfl⟩
  | classDef span name bases keywords body decorators =>
    obtain ⟨rfl, rfl⟩ := yields_pure.mp h
    exact ⟨rfl, rfl⟩
  | _ => exact absurd h yields_refuseAt

theorem exists_topLevel {s : Source.Stmt} {x : String} (h : definedName? s = some x) (t : Trace) :
    ∃ d : TopLevel, d.name = x ∧ Yields (topLevel s) t d t := by
  cases s with
  | annAssign span target annot value =>
    cases target with
    | name sp id use =>
      obtain rfl := Option.some.inj h
      exact ⟨_, rfl, yields_pure.mpr ⟨rfl, rfl⟩⟩
    | _ => simp [definedName?] at h
  | functionDef span name params body decorators returns =>
    obtain rfl := Option.some.inj h
    exact ⟨_, rfl, yields_pure.mpr ⟨rfl, rfl⟩⟩
  | classDef span name bases keywords body decorators =>
    obtain rfl := Option.some.inj h
    exact ⟨_, rfl, yields_pure.mpr ⟨rfl, rfl⟩⟩
  | _ => simp [definedName?] at h

theorem definedName?_of_isDocstring {s : Source.Stmt} (h : s.isDocstring = true) :
    definedName? s = none := by
  cases s with
  | expr span value => rfl
  | _ => simp [Source.Stmt.isDocstring] at h

/-- Collecting succeeds exactly on statements that declare. -/
theorem exists_yields_collect {met : List String} {stmts : List Source.Stmt} {t t' : Trace} :
    (∃ ds, Yields (collect met stmts) t ds t') ↔ DeclaresOnce met stmts ∧ t = t' := by
  induction stmts generalizing met t with
  | nil => simpa [collect] using fun _ => ⟨by simp, by simp, by simp⟩
  | cons s rest ih =>
    unfold collect
    split_ifs with hdoc
    · have hnone := definedName?_of_isDocstring hdoc
      rw [ih]
      refine and_congr_left fun _ => ⟨fun h => ⟨?_, ?_, ?_⟩, fun h => ⟨?_, ?_, ?_⟩⟩
      · exact List.forall_mem_cons.mpr ⟨.inl hdoc, h.each⟩
      · simpa [hnone] using h.once
      · simpa [hnone] using h.new
      · exact (List.forall_mem_cons.mp h.each).2
      · simpa [hnone] using h.once
      · simpa [hnone] using h.new
    · simp only [yields_bind, yields_check, yields_pure]
      constructor
      · rintro ⟨_, d, t₁, hd, _, t₂, hname, hmet, ds, t₃, hds, rfl, rfl⟩
        obtain ⟨hdefined, rfl⟩ := yields_topLevel hd
        obtain ⟨hmay, rfl⟩ := yields_checkName_iff.mp hname
        obtain ⟨h, rfl⟩ := ih.mp ⟨ds, hds⟩
        refine ⟨⟨List.forall_mem_cons.mpr ⟨.inr ⟨_, hdefined, hmay⟩, h.each⟩, ?_, ?_⟩, rfl⟩
        · rw [List.filterMap_cons_some hdefined]
          exact List.nodup_cons.mpr ⟨fun hmem => h.new _ hmem List.mem_cons_self, h.once⟩
        · rw [List.filterMap_cons_some hdefined]
          refine List.forall_mem_cons.mpr ⟨by simpa using hmet, fun x hx hmem => ?_⟩
          exact h.new x hx (List.mem_cons_of_mem _ hmem)
      · rintro ⟨h, rfl⟩
        obtain ⟨hs, heach⟩ := List.forall_mem_cons.mp h.each
        obtain ⟨x, hdefined, hmay⟩ := hs.resolve_left hdoc
        obtain ⟨d, rfl, hd⟩ := exists_topLevel hdefined t
        have honce := h.once
        have hnew := h.new
        rw [List.filterMap_cons_some hdefined] at honce hnew
        obtain ⟨hmem, honce⟩ := List.nodup_cons.mp honce
        obtain ⟨hmet, hnew⟩ := List.forall_mem_cons.mp hnew
        have hrest : DeclaresOnce (d.name :: met) rest := by
          refine ⟨heach, honce, fun y hy hyd => ?_⟩
          rcases List.mem_cons.mp hyd with rfl | hyd
          · exact hmem hy
          · exact hnew y hy hyd
        obtain ⟨ds, hds⟩ := ih.mpr ⟨hrest, (rfl : t = t)⟩
        exact ⟨_, d, t, hd, (), t, yields_checkName_iff.mpr ⟨hmay, rfl⟩, by simpa using hmet, ds, t,
          hds, rfl, rfl⟩

theorem yields_collect {stmts : List Source.Stmt} {ds : Declarations} {t t' : Trace} :
    Yields (collect [] stmts) t ds t' ↔ DeclaresOnce [] stmts ∧ t = t' ∧
      ds = ⟨globalsIn stmts, functionsIn stmts, classesIn stmts⟩ := by
  have hlists {ds : Declarations} (h : Yields (collect [] stmts) t ds t') :
      ds = ⟨globalsIn stmts, functionsIn stmts, classesIn stmts⟩ := by
    obtain ⟨hglobals, hfunctions, hclasses⟩ := collects_of_yields h
    obtain ⟨globals, functions, classes⟩ := ds
    simp_all
  constructor
  · intro h
    obtain ⟨honce, rfl⟩ := exists_yields_collect.mp ⟨ds, h⟩
    exact ⟨honce, rfl, hlists h⟩
  · rintro ⟨honce, rfl, rfl⟩
    obtain ⟨ds, hds⟩ := exists_yields_collect.mpr ⟨honce, rfl⟩
    exact hlists hds ▸ hds

/-! ## Classes -/

/-- The type of the component that a class declares. -/
def ClassSource.type (c : ClassSource) : HostType :=
  { name := c.name
    fullName := c.name
    base := some Host.monoBehaviourName
    methods := c.body.flatMap methodNames
    fields := (fieldDesignators c.body).toOption.getD []
    codeName := c.name
    serializable := true }

/-- The component that a class declares. -/
def ClassSource.component (c : ClassSource) : ComponentSource :=
  ⟨c.span, c.name, c.body, c.type, c.decorators.isEmpty⟩

/-- The head of a class is one of a component whose name the registry does not know yet. -/
structure HeadFits (r : Registry) (c : ClassSource) : Prop where
  decorators : ∀ e ∈ c.decorators, ∃ span use, e = .name span redefinableName use
  keywords : c.keywords = []
  bases : c.bases = [] ∨ ∃ base d u, c.bases = [base] ∧ base.dotted? = some d ∧
    r.lookup d = some u ∧ u.fullName = Host.monoBehaviourName
  fields : ∃ fields, fieldDesignators c.body = .ok fields
  new : r.lookup c.name = none

section Register

variable {r r' : Registry} {span : Source.Span} {t t' : Trace}

theorem yields_isConstant {decorators : List Source.Expr} {b : Bool} :
    Yields (isConstant span decorators) t b t' ↔ t = t' ∧ b = decorators.isEmpty ∧
      ∀ e ∈ decorators, ∃ sp use, e = .name sp redefinableName use := by
  induction decorators generalizing b t' with
  | nil =>
    simp only [isConstant, yields_pure]
    aesop
  | cons e rest ih =>
    cases e with
    | name sp id use =>
      simp only [isConstant, yields_check, yields_bind, yields_pure, ih]
      constructor
      · rintro ⟨hid, _, _, ⟨rfl, -, hrest⟩, rfl, rfl⟩
        obtain rfl : id = redefinableName := by simpa using hid
        exact ⟨rfl, rfl, List.forall_mem_cons.mpr ⟨⟨sp, use, rfl⟩, hrest⟩⟩
      · rintro ⟨rfl, rfl, hall⟩
        obtain ⟨⟨sp', use', heq⟩, hrest⟩ := List.forall_mem_cons.mp hall
        obtain ⟨rfl, rfl, rfl⟩ := by simpa using heq
        exact ⟨by simp, _, t, ⟨rfl, rfl, hrest⟩, rfl, rfl⟩
    | _ =>
      refine iff_of_false yields_refuseAt ?_
      rintro ⟨-, -, hall⟩
      simp at hall

theorem yields_checkBases {bases : List Source.Expr} {u : Unit} :
    Yields (checkBases r span bases) t u t' ↔ t = t' ∧ (bases = [] ∨ ∃ base d T, bases = [base] ∧
      base.dotted? = some d ∧ r.lookup d = some T ∧ T.fullName = Host.monoBehaviourName) := by
  match bases with
  | [] => simp [checkBases]
  | [base] =>
    have hdotted (d : String) : base.expectDotted "base" = .ok d ↔ base.dotted? = some d := by
      unfold Source.Expr.expectDotted
      cases base.dotted? <;> simp
    simp only [checkBases, yields_bind, yields_ofExcept, yields_ofRegistry, hdotted,
      Registry.ensure_eq_ok]
    constructor
    · rintro ⟨d, _, ⟨hd, rfl⟩, T, _, ⟨hT, rfl⟩, h⟩
      split_ifs at h with hfull
      · simp at h
      · exact ⟨(yields_pure.mp h).2, .inr ⟨base, d, T, rfl, hd, hT, by simpa using hfull⟩⟩
    · rintro ⟨rfl, h⟩
      obtain ⟨base', d, T, heq, hd, hT, hfull⟩ := h.resolve_left (by simp)
      obtain rfl : base = base' := by simpa using heq
      exact ⟨d, t, ⟨hd, rfl⟩, T, t, ⟨hT, rfl⟩, by simp [hfull]⟩
  | _ :: _ :: _ => simp [checkBases]

theorem yields_register (hr : r.Hosts) {c : ClassSource} {k : ComponentSource} :
    Yields (register r c.span c.name c.bases c.keywords c.body c.decorators) t (k, r') t' ↔
      HeadFits r c ∧ t = t' ∧ k = c.component ∧ r' = r.add c.type [] := by
  obtain ⟨base, hbase, hfull⟩ := hr.base
  simp only [register, yields_bind, yields_check, yields_ofExcept, yields_ofRegistry, yields_pure,
    yields_isConstant, yields_checkBases, Prod.exists, Registry.registerComponent_eq_ok_iff, hbase]
  constructor
  · rintro ⟨_, _, ⟨rfl, rfl, hdecorators⟩, hkeywords, _, _, ⟨rfl, hbases⟩, fields, _,
      ⟨hfields, rfl⟩, T, _, _, ⟨⟨_, hu, hnew, hT, rfl⟩, rfl⟩, heq, rfl⟩
    obtain rfl := Option.some.inj hu
    obtain rfl : T = c.type := by rw [hT, ClassSource.type, hfields, hfull]; rfl
    obtain ⟨rfl, rfl⟩ := Prod.mk.inj heq
    exact ⟨⟨hdecorators, by simpa using hkeywords, hbases, ⟨fields, hfields⟩, hnew⟩, rfl, rfl, rfl⟩
  · rintro ⟨⟨hdecorators, hkeywords, hbases, ⟨fields, hfields⟩, hnew⟩, rfl, rfl, rfl⟩
    refine ⟨_, t, ⟨rfl, rfl, hdecorators⟩, by simp [hkeywords], (), t, ⟨rfl, hbases⟩, fields, t,
      ⟨hfields, rfl⟩, c.type, _, t, ⟨⟨base, rfl, hnew, ?_, rfl⟩, rfl⟩, rfl, rfl⟩
    rw [ClassSource.type, hfields, hfull]
    rfl

/-- Another class fits after a first one if it fits before and has another name. -/
theorem headFits_add (hr : r.Hosts) {c c' : ClassSource} (hc : r.lookup c.name = none) :
    HeadFits (r.add c.type []) c' ↔ HeadFits r c' ∧ c'.name ≠ c.name := by
  have hlookup := Registry.lookup_add_component (t := c.type) hr.aliasesKnown rfl hc
  obtain ⟨base, hbase, hfull⟩ := hr.base
  have hmono : c.name ≠ Host.monoBehaviourName := by
    rintro heq
    simp [heq, hbase] at hc
  -- A component is not the base, so a designator of the base names what it named.
  have hdesignates (d : String) : (∃ u, (r.add c.type []).lookup d = some u ∧
      u.fullName = Host.monoBehaviourName) ↔
      ∃ u, r.lookup d = some u ∧ u.fullName = Host.monoBehaviourName := by
    rw [hlookup]
    by_cases hd : c.name = d
    · subst hd
      simp [ClassSource.type, hmono, hc]
    · simp [ClassSource.type, hd]
  constructor
  · intro h
    have hnew := h.new
    rw [hlookup] at hnew
    split_ifs at hnew with hname
    refine ⟨⟨h.decorators, h.keywords, h.bases.imp_right ?_, h.fields, hnew⟩, Ne.symm hname⟩
    rintro ⟨b, d, u, hb, hd, hu, hufull⟩
    obtain ⟨v, hv, hvfull⟩ := (hdesignates d).mp ⟨u, hu, hufull⟩
    exact ⟨b, d, v, hb, hd, hv, hvfull⟩
  · rintro ⟨h, hname⟩
    refine ⟨h.decorators, h.keywords, h.bases.imp_right ?_, h.fields, ?_⟩
    · rintro ⟨b, d, u, hb, hd, hu, hufull⟩
      obtain ⟨v, hv, hvfull⟩ := (hdesignates d).mpr ⟨u, hu, hufull⟩
      exact ⟨b, d, v, hb, hd, hv, hvfull⟩
    · rw [hlookup, if_neg (fun h => hname h.symm), h.new]

/-- The registry with the components of classes. -/
def withClasses (r : Registry) (classes : List ClassSource) : Registry :=
  classes.foldl (fun r c => r.add c.type []) r

/-- Classes are registered exactly if each fits the registry they start from and no two share a
name. -/
theorem yields_registerAll (hr : r.Hosts) {classes : List ClassSource} {ks : List ComponentSource} :
    Yields (registerAll r classes) t (ks, r') t' ↔
      (∀ c ∈ classes, HeadFits r c) ∧ (classes.map ClassSource.name).Nodup ∧ t = t' ∧
        ks = classes.map ClassSource.component ∧ r' = withClasses r classes := by
  induction classes generalizing r t ks with
  | nil =>
    simp only [registerAll, yields_pure, Prod.mk.injEq]
    simp [withClasses]
    aesop
  | cons c rest ih =>
    simp only [registerAll, yields_bind, yields_pure, Prod.exists, yields_register hr]
    constructor
    · rintro ⟨k, r₁, _, ⟨hc, rfl, rfl, rfl⟩, ks', r₂, _, hrest, heq, rfl⟩
      obtain ⟨rfl, rfl⟩ := Prod.mk.inj heq
      obtain ⟨hall, hnodup, rfl, rfl, rfl⟩ := (ih (hr.add rfl hc.new)).mp hrest
      simp only [headFits_add hr hc.new] at hall
      refine ⟨List.forall_mem_cons.mpr ⟨hc, fun c' hc' => (hall c' hc').1⟩, ?_, rfl, rfl, rfl⟩
      refine List.nodup_cons.mpr ⟨fun hmem => ?_, hnodup⟩
      obtain ⟨c', hc', hname⟩ := List.mem_map.mp hmem
      exact (hall c' hc').2 hname
    · rintro ⟨hall, hnodup, rfl, rfl, rfl⟩
      obtain ⟨hc, hrest⟩ := List.forall_mem_cons.mp hall
      obtain ⟨hnew, hnodup⟩ := List.nodup_cons.mp hnodup
      refine ⟨_, _, t, ⟨hc, rfl, rfl, rfl⟩, _, _, t, (ih (hr.add rfl hc.new)).mpr
        ⟨fun c' hc' => ?_, hnodup, rfl, rfl, rfl⟩, rfl, rfl⟩
      rw [headFits_add hr hc.new]
      exact ⟨hrest c' hc', fun hname => hnew (List.mem_map.mpr ⟨c', hc', hname⟩)⟩

end Register

/-! ## Annotations -/

/-- The type that an annotation writes, if it resolves; some annotations leave the type open. -/
def annotated (r : Registry) (e : Source.Expr) : Option (Option HostType) :=
  e.designator.toOption.bind fun
    | none => some none
    | some d => (r.lookup d).map some

/-- The types of module-level values. -/
def typesOf (r : Registry) (globals : List GlobalSource) : Table (Option HostType) :=
  ⟨globals.map fun g => (g.name, (annotated r g.annot).join)⟩

section Annotations

variable {r : Registry} {t t' : Trace}

theorem yields_annotType_iff {span : Source.Span} {e : Source.Expr} {T : Option HostType} :
    Yields (annotType r span (some e)) t T t' ↔ annotated r e = some T ∧ t = t' := by
  unfold annotType annotated
  simp only [yields_bind, yields_ofExcept]
  cases e.designator with
  | error _ => simp [Except.toOption]
  | ok d =>
    cases d with
    | none => simp [Except.toOption]
    | some d =>
      simp only [Except.toOption, Option.bind_some, Except.ok.injEq, Option.map_eq_some_iff]
      constructor
      · rintro ⟨_, _, ⟨rfl, rfl⟩, h⟩
        simp only [yields_bind, yields_ofRegistry, Registry.ensure_eq_ok, yields_pure] at h
        obtain ⟨U, _, ⟨hU, rfl⟩, rfl, rfl⟩ := h
        exact ⟨⟨U, hU, rfl⟩, rfl⟩
      · rintro ⟨⟨U, hU, rfl⟩, rfl⟩
        refine ⟨_, t, ⟨rfl, rfl⟩, ?_⟩
        simp only [yields_bind, yields_ofRegistry, Registry.ensure_eq_ok, yields_pure]
        exact ⟨U, t, ⟨hU, rfl⟩, rfl, rfl⟩

theorem yields_checkFieldTypes {stmts : List Source.Stmt} {u : Unit} :
    Yields (checkFieldTypes r stmts) t u t' ↔
      (∀ f ∈ globalsIn stmts, (annotated r f.annot).isSome) ∧ t = t' := by
  induction stmts generalizing t with
  | nil => simp [checkFieldTypes, globalsIn]
  | cons s rest ih =>
    cases s with
    | annAssign span target annot value =>
      cases target with
      | name sp id use =>
        have hcons : globalsIn (.annAssign span (.name sp id use) annot value :: rest) =
            ⟨span, id, annot, value⟩ :: globalsIn rest := rfl
        simp only [checkFieldTypes, yields_bind, yields_annotType_iff, ih, hcons,
          List.forall_mem_cons, Option.isSome_iff_exists]
        constructor
        · rintro ⟨T, _, ⟨hT, rfl⟩, hrest, rfl⟩
          exact ⟨⟨⟨T, hT⟩, hrest⟩, rfl⟩
        · rintro ⟨⟨⟨T, hT⟩, hrest⟩, rfl⟩
          exact ⟨T, t, ⟨hT, rfl⟩, hrest, rfl⟩
      | _ => exact ih
    | _ => exact ih

theorem yields_forM_checkFieldTypes {ks : List ComponentSource} {u : PUnit} :
    Yields (ks.forM fun k => checkFieldTypes r k.body) t u t' ↔
      (∀ k ∈ ks, ∀ f ∈ globalsIn k.body, (annotated r f.annot).isSome) ∧ t = t' := by
  induction ks generalizing t with
  | nil => simp [List.forM]
  | cons k rest ih =>
    simp only [List.forM, yields_bind, yields_checkFieldTypes, ih, List.forall_mem_cons]
    constructor
    · rintro ⟨_, _, ⟨hk, rfl⟩, hrest, rfl⟩
      exact ⟨⟨hk, hrest⟩, rfl⟩
    · rintro ⟨⟨hk, hrest⟩, rfl⟩
      exact ⟨(), t, ⟨hk, rfl⟩, hrest, rfl⟩

theorem yields_globalTypes {globals : List GlobalSource} {table : Table (Option HostType)} :
    Yields (globalTypes r globals) t table t' ↔
      (∀ g ∈ globals, (annotated r g.annot).isSome) ∧ table = typesOf r globals ∧ t = t' := by
  induction globals generalizing t table t' with
  | nil =>
    simp only [globalTypes, yields_pure, List.not_mem_nil, false_implies, implies_true, true_and]
    exact and_congr_left fun _ => eq_comm
  | cons g rest ih =>
    simp only [globalTypes, yields_bind, yields_annotType_iff, ih, yields_pure,
      List.forall_mem_cons, Option.isSome_iff_exists]
    constructor
    · rintro ⟨T, _, ⟨hT, rfl⟩, _, _, ⟨hrest, rfl, rfl⟩, rfl, rfl⟩
      exact ⟨⟨⟨T, hT⟩, hrest⟩, by simp [typesOf, hT], rfl⟩
    · rintro ⟨⟨⟨T, hT⟩, hrest⟩, rfl, rfl⟩
      exact ⟨T, t, ⟨hT, rfl⟩, _, t, ⟨hrest, rfl, rfl⟩, by simp [typesOf, hT], rfl⟩

end Annotations

/-! ## The whole pass -/

/-- The host's types and those of the classes among statements. -/
def registryOf (stmts : List Source.Stmt) : Registry := withClasses Host.builtin (classesIn stmts)

/-- The environment in which the code of a module is compiled. -/
def envOf (stmts : List Source.Stmt) : TypeEnv where
  globals := typesOf (registryOf stmts) (globalsIn stmts)
  callables := (functionsIn stmts).map FunctionSource.name

/-- The first pass accepts the statements. -/
structure Admissible (stmts : List Source.Stmt) : Prop where
  declares : DeclaresOnce [] stmts
  heads : ∀ c ∈ classesIn stmts, HeadFits Host.builtin c
  fields : ∀ c ∈ classesIn stmts, ∀ f ∈ globalsIn c.body,
    (annotated (registryOf stmts) f.annot).isSome
  values : ∀ g ∈ globalsIn stmts, (annotated (registryOf stmts) g.annot).isSome

/-- The second pass over statements that the first one accepts. -/
def secondPass (known : Messages) (policy : DuplicatePolicy) (moduleName : Option String)
    (stmts : List Source.Stmt) : CompileM Ir.Module := do
  let globals ← (globalsIn stmts).mapM (global (registryOf stmts) (envOf stmts))
  let functions ← (functionsIn stmts).mapM (function (registryOf stmts) (envOf stmts))
  let components ← ((classesIn stmts).map ClassSource.component).mapM
    (component (registryOf stmts) known policy moduleName (envOf stmts))
  let m : Ir.Module := { globals, functions, components, moduleName }
  warnUnused (functionsIn stmts) m
  return m

/-- Reading off some of the names that statements define. -/
theorem names_sublist {α : Type} {f : Source.Stmt → Option α} {name : α → String}
    (h : ∀ s a, f s = some a → definedName? s = some (name a)) (stmts : List Source.Stmt) :
    ((stmts.filterMap f).map name).Sublist (stmts.filterMap definedName?) := by
  induction stmts with
  | nil => exact .refl _
  | cons s rest ih =>
    cases hs : f s with
    | none =>
      rw [List.filterMap_cons_none hs]
      cases hd : definedName? s with
      | none => rwa [List.filterMap_cons_none hd]
      | some x =>
        rw [List.filterMap_cons_some hd]
        exact ih.cons x
    | some a =>
      rw [List.filterMap_cons_some hs, List.filterMap_cons_some (h s a hs)]
      exact ih.cons_cons _

theorem DeclaresOnce.nodup_classes {stmts : List Source.Stmt} (h : DeclaresOnce [] stmts) :
    ((classesIn stmts).map ClassSource.name).Nodup := by
  refine (names_sublist (fun s a hs => ?_) stmts).nodup h.once
  cases s with
  | classDef span name bases keywords body decorators =>
    obtain rfl := Option.some.inj hs
    rfl
  | _ => simp at hs

theorem DeclaresOnce.nodup_globals {stmts : List Source.Stmt} (h : DeclaresOnce [] stmts) :
    ((globalsIn stmts).map GlobalSource.name).Nodup := by
  refine (names_sublist (fun s a hs => ?_) stmts).nodup h.once
  cases s with
  | annAssign span target annot value =>
    cases target with
    | name sp id use =>
      obtain rfl := Option.some.inj hs
      rfl
    | _ => simp at hs
  | _ => simp at hs

/-- The first pass accepts the admissible statements and hands on what they declare. Here `rest` is
whatever is asked of the second pass. -/
theorem firstPass_iff {stmts : List Source.Stmt} {t : Trace} {rest : Declarations →
      List ComponentSource → Registry → Table (Option HostType) → Trace → Prop} :
    (∃ ds t₁, Yields (collect [] stmts) t ds t₁ ∧
      ∃ ks r t₂, Yields (registerAll Host.builtin ds.classes) t₁ (ks, r) t₂ ∧
      ∃ u t₃, Yields (ks.forM fun k => checkFieldTypes r k.body) t₂ u t₃ ∧
      ∃ table t₄, Yields (globalTypes r ds.globals) t₃ table t₄ ∧ rest ds ks r table t₄) ↔
    Admissible stmts ∧ rest ⟨globalsIn stmts, functionsIn stmts, classesIn stmts⟩
      ((classesIn stmts).map ClassSource.component) (registryOf stmts)
      (typesOf (registryOf stmts) (globalsIn stmts)) t := by
  simp only [yields_collect, yields_registerAll Registry.hosts_builtin, yields_forM_checkFieldTypes,
    yields_globalTypes]
  constructor
  · rintro ⟨_, _, ⟨hdeclares, rfl, rfl⟩, ks, r, _, ⟨hheads, -, rfl, rfl, rfl⟩, _, _, ⟨hfields, rfl⟩,
      _, _, ⟨hvalues, rfl, rfl⟩, hrest⟩
    refine ⟨⟨hdeclares, hheads, fun c hc => ?_, hvalues⟩, hrest⟩
    exact hfields c.component (List.mem_map_of_mem hc)
  · rintro ⟨h, hrest⟩
    refine ⟨_, t, ⟨h.declares, rfl, rfl⟩, _, _, t,
      ⟨h.heads, h.declares.nodup_classes, rfl, rfl, rfl⟩, ⟨⟩, t, ⟨?_, rfl⟩, _, t,
      ⟨h.values, rfl, rfl⟩, hrest⟩
    rintro k hk
    obtain ⟨c, hc, rfl⟩ := List.mem_map.mp hk
    exact h.fields c hc

/-- **A module is compiled exactly if its statements are admissible and the second pass succeeds.**
-/
theorem yields_module {known : Messages} {policy : DuplicatePolicy} {moduleName : Option String}
    {stmts : List Source.Stmt} {m : Ir.Module} {t t' : Trace} :
    Yields (module known policy moduleName stmts) t m t' ↔
      Admissible stmts ∧ Yields (secondPass known policy moduleName stmts) t m t' := by
  unfold module secondPass
  simp only [yields_bind, Prod.exists]
  exact firstPass_iff

/-! ## Places -/

def GlobalSource.unplaced (g : GlobalSource) : GlobalSource :=
  ⟨.nowhere, g.name, g.annot.unplaced, g.value.map Source.Expr.unplaced⟩

def ClassSource.unplaced (c : ClassSource) : ClassSource :=
  ⟨.nowhere, c.name, Source.unplacedExprs c.bases, Source.unplacedExprs c.keywords,
    Source.unplacedBlock c.body, Source.unplacedExprs c.decorators⟩

theorem definedName?_unplaced (s : Source.Stmt) : definedName? s.unplaced = definedName? s := by
  cases s with
  | annAssign span target annot value => cases target <;> rfl
  | _ => rfl

theorem globalsIn_unplaced (stmts : List Source.Stmt) :
    globalsIn (stmts.map Source.Stmt.unplaced) = (globalsIn stmts).map GlobalSource.unplaced := by
  rw [globalsIn, globalsIn, List.filterMap_map, List.map_filterMap]
  refine List.filterMap_congr fun s _ => ?_
  cases s with
  | annAssign span target annot value => cases target <;> rfl
  | _ => rfl

theorem functionsIn_unplaced (stmts : List Source.Stmt) :
    functionsIn (stmts.map Source.Stmt.unplaced) =
      (functionsIn stmts).map FunctionSource.unplaced := by
  rw [functionsIn, functionsIn, List.filterMap_map, List.map_filterMap]
  exact List.filterMap_congr fun s _ => by cases s <;> rfl

theorem classesIn_unplaced (stmts : List Source.Stmt) :
    classesIn (stmts.map Source.Stmt.unplaced) = (classesIn stmts).map ClassSource.unplaced := by
  rw [classesIn, classesIn, List.filterMap_map, List.map_filterMap]
  exact List.filterMap_congr fun s _ => by cases s <;> rfl

theorem annotated_unplaced (r : Registry) (e : Source.Expr) :
    annotated r e.unplaced = annotated r e := by
  rw [annotated, annotated, e.designator_unplaced]

theorem fieldDesignators_unplaced (stmts : List Source.Stmt) :
    (fieldDesignators (Source.unplacedBlock stmts)).toOption =
      (fieldDesignators stmts).toOption := by
  induction stmts with
  | nil => rfl
  | cons s rest ih =>
    cases s with
    | annAssign span target annot value =>
      cases target with
      | name sp id use =>
        have h := annot.designator_unplaced
        simp only [Source.unplacedBlock, Source.Stmt.unplaced, Source.Expr.unplaced,
          fieldDesignators]
        cases hd : annot.designator <;> cases hd' : annot.unplaced.designator <;>
          cases hr : fieldDesignators rest <;>
          cases hr' : fieldDesignators (Source.unplacedBlock rest) <;>
          simp_all [Except.toOption, bind, Except.bind]
      | _ => exact ih
    | _ => exact ih

theorem methodNames_unplaced (s : Source.Stmt) : methodNames s.unplaced = methodNames s := by
  cases s with
  | classDef span name bases keywords body decorators =>
    simp only [Source.Stmt.unplaced, methodNames, Source.unplacedBlock_eq_map, List.filterMap_map]
    exact List.filterMap_congr fun s _ => by cases s <;> rfl
  | _ => rfl

theorem ClassSource.type_unplaced (c : ClassSource) : c.unplaced.type = c.type := by
  have hmethods : (Source.unplacedBlock c.body).flatMap methodNames =
      c.body.flatMap methodNames := by
    simp [Source.unplacedBlock_eq_map, List.flatMap_map, methodNames_unplaced]
  simp only [type, unplaced, hmethods, fieldDesignators_unplaced]

theorem ClassSource.component_congr {c c' : ClassSource} (h : c.unplaced = c'.unplaced) :
    c.component.unplaced = c'.component.unplaced := by
  have htype : c.type = c'.type := by rw [← c.type_unplaced, h, c'.type_unplaced]
  obtain ⟨hname, -, -, hbody, hdecorators⟩ := by simpa [unplaced] using h
  have hconstant : c.decorators.isEmpty = c'.decorators.isEmpty := by
    rw [← isEmpty_unplacedExprs, hdecorators, isEmpty_unplacedExprs]
  simp [component, ComponentSource.unplaced, htype, hname, hbody, hconstant]

theorem headFits_unplaced {r : Registry} {c : ClassSource} :
    HeadFits r c.unplaced ↔ HeadFits r c := by
  have hname {e : Source.Expr} {x : String} : (∃ span use, e.unplaced = .name span x use) ↔
      ∃ span use, e = .name span x use := by
    cases e <;> simp [Source.Expr.unplaced, eq_comm]
  have hdecorators : (∀ e ∈ c.unplaced.decorators, ∃ span use, e = .name span redefinableName use) ↔
      ∀ e ∈ c.decorators, ∃ span use, e = .name span redefinableName use := by
    simp [ClassSource.unplaced, Source.unplacedExprs_eq_map, hname]
  have hkeywords : c.unplaced.keywords = [] ↔ c.keywords = [] := by
    simp [ClassSource.unplaced, Source.unplacedExprs_eq_map]
  have hbases : (c.unplaced.bases = [] ∨ ∃ base d u, c.unplaced.bases = [base] ∧
      base.dotted? = some d ∧ r.lookup d = some u ∧ u.fullName = Host.monoBehaviourName) ↔
      (c.bases = [] ∨ ∃ base d u, c.bases = [base] ∧ base.dotted? = some d ∧
        r.lookup d = some u ∧ u.fullName = Host.monoBehaviourName) := by
    match hbases : c.bases with
    | [] => simp [ClassSource.unplaced, hbases, Source.unplacedExprs]
    | [base] => simp [ClassSource.unplaced, hbases, Source.unplacedExprs]
    | _ :: _ :: _ => simp [ClassSource.unplaced, hbases, Source.unplacedExprs]
  have hfields : (∃ fields, fieldDesignators c.unplaced.body = .ok fields) ↔
      ∃ fields, fieldDesignators c.body = .ok fields := by
    have h := fieldDesignators_unplaced c.body
    simp only [ClassSource.unplaced]
    cases hx : fieldDesignators c.body <;>
      cases hy : fieldDesignators (Source.unplacedBlock c.body) <;> simp_all [Except.toOption]
  exact ⟨fun h => ⟨hdecorators.mp h.decorators, hkeywords.mp h.keywords, hbases.mp h.bases,
      hfields.mp h.fields, h.new⟩,
    fun h => ⟨hdecorators.mpr h.decorators, hkeywords.mpr h.keywords, hbases.mpr h.bases,
      hfields.mpr h.fields, h.new⟩⟩

/-! ## Order -/

/-- The statements are the same, up to their order and their places. -/
def Reordered (stmts stmts' : List Source.Stmt) : Prop :=
  (stmts.map Source.Stmt.unplaced).Perm (stmts'.map Source.Stmt.unplaced)

namespace Reordered

variable {stmts stmts' : List Source.Stmt} (h : Reordered stmts stmts')

include h

theorem globals : ((globalsIn stmts).map GlobalSource.unplaced).Perm
    ((globalsIn stmts').map GlobalSource.unplaced) := by
  rw [← globalsIn_unplaced, ← globalsIn_unplaced]
  exact h.filterMap _

theorem functions : ((functionsIn stmts).map FunctionSource.unplaced).Perm
    ((functionsIn stmts').map FunctionSource.unplaced) := by
  rw [← functionsIn_unplaced, ← functionsIn_unplaced]
  exact h.filterMap _

theorem classes : ((classesIn stmts).map ClassSource.unplaced).Perm
    ((classesIn stmts').map ClassSource.unplaced) := by
  rw [← classesIn_unplaced, ← classesIn_unplaced]
  exact h.filterMap _

end Reordered

/-- What is said of every member without its place is said of every member of the other list. -/
theorem forall_of_unplaced {α : Type} {unplaced : α → α} {as as' : List α}
    (h : (as.map unplaced).Perm (as'.map unplaced)) {P P' : α → Prop}
    (hP : ∀ a a', unplaced a = unplaced a' → P a → P' a') (ha : ∀ a ∈ as, P a) :
    ∀ a ∈ as', P' a := by
  intro a' ha'
  obtain ⟨a, hmem, heq⟩ := List.mem_map.mp (h.mem_iff.mpr (List.mem_map_of_mem ha'))
  exact hP a a' heq (ha a hmem)

theorem DeclaresOnce.reordered {stmts stmts' : List Source.Stmt} (hd : DeclaresOnce [] stmts)
    (h : Reordered stmts stmts') : DeclaresOnce [] stmts' := by
  have hnames (stmts : List Source.Stmt) :
      (stmts.map Source.Stmt.unplaced).filterMap definedName? = stmts.filterMap definedName? := by
    rw [List.filterMap_map]
    exact List.filterMap_congr fun s _ => definedName?_unplaced s
  refine ⟨forall_of_unplaced h (fun s s' heq hs => ?_) hd.each, ?_, by simp⟩
  · rwa [← s.isDocstring_unplaced, ← definedName?_unplaced, heq, s'.isDocstring_unplaced,
      definedName?_unplaced] at hs
  · have hperm := h.filterMap definedName?
    rw [hnames, hnames] at hperm
    exact hperm.nodup hd.once

/-- The registry does not show in which order components were added. -/
theorem same_foldl_add {ts ts' : List HostType} (h : ts.Perm ts') {r r' : Registry}
    (hr : r.Same r') (hnames : ∀ t ∈ ts, t.fullName = t.name)
    (honce : (ts.map HostType.name).Nodup) :
    (ts.foldl (fun r t => r.add t []) r).Same (ts'.foldl (fun r t => r.add t []) r') := by
  induction h generalizing r r' with
  | nil => exact hr
  | cons t _ ih =>
    exact ih (hr.add t []) (List.forall_mem_cons.mp hnames).2 (List.nodup_cons.mp honce).2
  | swap t u ts =>
    have hne : u.name ≠ t.name := by
      have hmem := (List.nodup_cons.mp honce).1
      simp_all
    have hswap : ((r.add u []).add t []).Same ((r'.add t []).add u []) := by
      have hu := hnames u (by simp)
      have ht := hnames t (by simp)
      refine ⟨fun n => ?_, fun a => ?_⟩
      · by_cases hun : u.name = n
        · subst hun
          simp [hu, ht, Ne.symm hne]
        · simp [hu, ht, hun, hr.find?]
      · by_cases hau : a = u.name
        · subst hau
          simp [hr.aliases, hne]
        · simp [hr.aliases, hau]
    exact hswap.foldl_add ts
  | trans h₁ _ ih₁ ih₂ =>
    refine (ih₁ hr hnames honce).trans (ih₂ (.refl _) (fun t ht => ?_) ?_)
    · exact hnames t (h₁.mem_iff.mpr ht)
    · exact (h₁.map _).nodup honce

theorem withClasses_eq (r : Registry) (classes : List ClassSource) :
    withClasses r classes = (classes.map ClassSource.type).foldl (fun r t => r.add t []) r := by
  rw [withClasses, List.foldl_map]

theorem Reordered.same {stmts stmts' : List Source.Stmt} (h : Reordered stmts stmts')
    (honce : DeclaresOnce [] stmts) : (registryOf stmts).Same (registryOf stmts') := by
  have htypes (stmts : List Source.Stmt) : (classesIn stmts).map ClassSource.type =
      ((classesIn stmts).map ClassSource.unplaced).map ClassSource.type := by
    simp [Function.comp_def, ClassSource.type_unplaced]
  have hperm : ((classesIn stmts).map ClassSource.type).Perm
      ((classesIn stmts').map ClassSource.type) := by
    rw [htypes, htypes]
    exact h.classes.map _
  have hnames : ((classesIn stmts).map ClassSource.type).map HostType.name =
      (classesIn stmts).map ClassSource.name := by
    simp [Function.comp_def, ClassSource.type]
  rw [registryOf, registryOf, withClasses_eq, withClasses_eq]
  refine same_foldl_add hperm (.refl _) (fun t ht => ?_) (hnames ▸ honce.nodup_classes)
  obtain ⟨c, -, rfl⟩ := List.mem_map.mp ht
  rfl

/-- A designator that is no class of the source names what it names for the host. -/
theorem lookup_withClasses {r : Registry} (hr : r.Hosts) {classes : List ClassSource}
    (hheads : ∀ c ∈ classes, HeadFits r c) (honce : (classes.map ClassSource.name).Nodup)
    {d : String} (hd : d ∉ classes.map ClassSource.name) :
    (withClasses r classes).lookup d = r.lookup d := by
  induction classes generalizing r with
  | nil => rfl
  | cons c rest ih =>
    obtain ⟨hc, hrest⟩ := List.forall_mem_cons.mp hheads
    obtain ⟨hnew, honce⟩ := List.nodup_cons.mp honce
    have hdc : c.name ≠ d := fun hcd => hd (hcd ▸ List.mem_cons_self)
    have hd : d ∉ rest.map ClassSource.name := fun hmem => hd (List.mem_cons_of_mem _ hmem)
    have hadd : ∀ c' ∈ rest, HeadFits (r.add c.type []) c' := fun c' hc' =>
      (headFits_add hr hc.new).mpr
        ⟨hrest c' hc', fun hname => hnew (List.mem_map.mpr ⟨c', hc', hname⟩)⟩
    refine (ih (hr.add rfl hc.new) hadd honce hd).trans ?_
    rw [Registry.lookup_add_component hr.aliasesKnown rfl hc.new]
    exact if_neg hdc

/-- No type of the host has a name that looks generated. -/
theorem lookup_builtin_of_isGenerated {d : String} (hd : isGenerated d = true) :
    Host.builtin.lookup d = none := by
  have htypes : ∀ t ∈ Host.builtin.types, isGenerated t.fullName = false := by decide +kernel
  have haliases : ∀ e ∈ Host.builtin.aliases.entries, isGenerated e.1 = false := by decide +kernel
  have hfind : Host.builtin.find? d = none := by
    refine Option.eq_none_iff_forall_ne_some.mpr fun t ht => ?_
    obtain ⟨hmem, rfl⟩ := Registry.mem_of_find? ht
    simp [htypes t hmem] at hd
  have halias : Host.builtin.aliases.get? d = none := by
    have hentries (es : List (String × String)) (hes : ∀ e ∈ es, isGenerated e.1 = false) :
        Table.findEntry d es = none := by
      induction es with
      | nil => rfl
      | cons e rest ih =>
        obtain ⟨he, hrest⟩ := List.forall_mem_cons.mp hes
        have hne : e.1 ≠ d := by
          rintro rfl
          simp [he] at hd
        simp [Table.findEntry, hne, ih hrest]
    exact hentries _ haliases
  simp [Registry.lookup, hfind, halias]

section Admissible

variable {stmts stmts' : List Source.Stmt}

theorem Admissible.reachable (h : Admissible stmts) : (registryOf stmts).Reachable := by
  have hrun : Yields (registerAll Host.builtin (classesIn stmts)) {}
      ((classesIn stmts).map ClassSource.component, registryOf stmts) {} :=
    (yields_registerAll Registry.hosts_builtin).mpr
      ⟨h.heads, h.declares.nodup_classes, rfl, rfl, rfl⟩
  exact (of_yields_registerAll Registry.builtin_reachable hrun).1

theorem Admissible.mayDefine (h : Admissible stmts) {c : ClassSource} (hc : c ∈ classesIn stmts) :
    MayDefine c.name := by
  obtain ⟨s, hs, heq⟩ := List.mem_filterMap.mp hc
  cases s with
  | classDef span name bases keywords body decorators =>
    obtain rfl := Option.some.inj heq
    obtain ⟨x, hx, hmay⟩ := (h.declares.each _ hs).resolve_left (by simp [Source.Stmt.isDocstring])
    obtain rfl := Option.some.inj hx
    exact hmay
  | _ => simp at heq

theorem Admissible.lookup_of_isGenerated (h : Admissible stmts) {d : String}
    (hd : isGenerated d = true) : (registryOf stmts).lookup d = none := by
  rw [registryOf, lookup_withClasses Registry.hosts_builtin h.heads h.declares.nodup_classes,
    lookup_builtin_of_isGenerated hd]
  intro hmem
  obtain ⟨c, hc, rfl⟩ := List.mem_map.mp hmem
  simp [(h.mayDefine hc).1] at hd

theorem annotated_congr {r r' : Registry} (hr : r.Same r') (e : Source.Expr) :
    annotated r e = annotated r' e := by
  simp only [annotated, hr.lookup]

/-- **Statements that are admissible in one order are so in every other.** -/
theorem Admissible.reordered (h : Admissible stmts) (hs : Reordered stmts stmts') :
    Admissible stmts' := by
  have hsame := hs.same h.declares
  have hannot {g g' : GlobalSource} (hg : g.unplaced = g'.unplaced)
      (hsome : (annotated (registryOf stmts) g.annot).isSome) :
      (annotated (registryOf stmts') g'.annot).isSome := by
    have hannots : g.annot.unplaced = g'.annot.unplaced := by
      simpa [GlobalSource.unplaced] using congrArg GlobalSource.annot hg
    rwa [← annotated_unplaced, ← hannots, annotated_unplaced, ← annotated_congr hsame]
  refine ⟨h.declares.reordered hs, forall_of_unplaced hs.classes (fun c c' heq hc => ?_) h.heads,
    forall_of_unplaced hs.classes (fun c c' heq hc => ?_) h.fields,
    forall_of_unplaced hs.globals (fun g g' heq hg => hannot heq hg) h.values⟩
  · rwa [← headFits_unplaced, ← heq, headFits_unplaced]
  · have hbody : Source.unplacedBlock c.body = Source.unplacedBlock c'.body := by
      simpa [ClassSource.unplaced] using congrArg ClassSource.body heq
    rw [Source.unplacedBlock_eq_map, Source.unplacedBlock_eq_map] at hbody
    have hfields : ((globalsIn c.body).map GlobalSource.unplaced).Perm
        ((globalsIn c'.body).map GlobalSource.unplaced) := by
      rw [← globalsIn_unplaced, ← globalsIn_unplaced, hbody]
    exact forall_of_unplaced hfields (fun g g' heq hg => hannot heq hg) hc

/-- Registries of reordered statements answer alike. -/
theorem Admissible.alike (h : Admissible stmts) (hs : Reordered stmts stmts') :
    (registryOf stmts).Alike (registryOf stmts') where
  lookup := (hs.same h.declares).lookup
  ancestors := (hs.same h.declares).ancestors h.reachable.forest
    (h.reordered hs).reachable.forest
  source _ hd := h.lookup_of_isGenerated hd

/-- A table that lists a name once does not show its order. -/
theorem get?_perm {α : Type} {es es' : List (String × α)} (h : es.Perm es')
    (honce : (es.map Prod.fst).Nodup) (x : String) :
    (⟨es⟩ : Table α).get? x = (⟨es'⟩ : Table α).get? x := by
  simp only [Table.get?]
  induction h with
  | nil => rfl
  | cons e _ ih => simp only [Table.findEntry, ih (List.nodup_cons.mp honce).2]
  | swap e e' rest =>
    have hne : e'.1 ≠ e.1 := fun heq => (List.nodup_cons.mp honce).1 (by simp [heq])
    by_cases hx : e.1 = x
    · simp [Table.findEntry, ← hx, hne]
    · simp [Table.findEntry, hx]
  | trans h₁ _ ih₁ ih₂ => exact (ih₁ honce).trans (ih₂ ((h₁.map _).nodup honce))

/-- Environments of reordered statements are alike. -/
theorem Admissible.env_alike (h : Admissible stmts) (hs : Reordered stmts stmts') :
    (envOf stmts).Alike (envOf stmts') where
  locals _ _ := rfl
  declared _ _ := rfl
  globals x := by
    let entry (r : Registry) (g : GlobalSource) := (g.name, (annotated r g.annot).join)
    have hentry (r : Registry) (gs : List GlobalSource) :
        gs.map (entry r) = (gs.map GlobalSource.unplaced).map (entry r) := by
      simp [entry, GlobalSource.unplaced, annotated_unplaced]
    have hsame : entry (registryOf stmts) = entry (registryOf stmts') := by
      funext g
      simp only [entry, annotated_congr (hs.same h.declares)]
    refine get?_perm ?_ ?_ x
    · change ((globalsIn stmts).map (entry (registryOf stmts))).Perm
        ((globalsIn stmts').map (entry (registryOf stmts')))
      rw [hentry _ (globalsIn stmts), hentry _ (globalsIn stmts'), hsame]
      exact hs.globals.map _
    · simpa [Function.comp_def] using h.declares.nodup_globals
  callables x := by
    have hnames (stmts : List Source.Stmt) : (functionsIn stmts).map FunctionSource.name =
        ((functionsIn stmts).map FunctionSource.unplaced).map FunctionSource.name := by
      simp [Function.comp_def, FunctionSource.unplaced]
    have hperm : ((functionsIn stmts).map FunctionSource.name).Perm
        ((functionsIn stmts').map FunctionSource.name) := by
      rw [hnames, hnames]
      exact hs.functions.map _
    rw [Bool.eq_iff_iff, List.contains_iff_mem, List.contains_iff_mem]
    exact hperm.mem_iff
  hostTypes := rfl

end Admissible

end Compile

end Componentry
