import Componentry.Proofs.FirstPass
import Componentry.Proofs.MarkedText

/-!
# Definitions and uses

Loading a module makes its definitions one after the other, and the value of a variable is computed
when its definition is reached. A source mixes the kinds of definitions as it likes. Generated text
defines all variables first, then the functions, and then the components. What a chunk of the text
defines, and what a value looks up, is read off the marks of the text.

**Theorem (`defined_before_use_iff`).** Let a source define what the value of a variable names
before the variable. Then generated text does so exactly if no value names a function or a
component, and no name that is not taken from the source is that of a variable defined later.

So the order that a source gives its variables is kept, and nothing else is.
-/

namespace Componentry

/-! ## Order -/

/-- What a definition defines, and the names that are looked up when it is made. -/
abbrev Defines : Type := String × List String

/-- What is looked up is defined before, as far as it is defined at all. -/
def DefinedBeforeUse (ds : List Defines) : Prop :=
  ∀ before d after, ds = before ++ d :: after →
    ∀ x ∈ d.2, x ∈ ds.map Prod.fst → x ∈ before.map Prod.fst

/-- No definition looks up what it defines itself, or what a later one does. -/
theorem definedBeforeUse_iff_pairwise {ds : List Defines} (hnodup : (ds.map Prod.fst).Nodup) :
    DefinedBeforeUse ds ↔ (∀ d ∈ ds, d.1 ∉ d.2) ∧ ds.Pairwise fun d d' => d'.1 ∉ d.2 := by
  constructor
  · intro h
    have hsplit : ∀ before d after, ds = before ++ d :: after →
        ∀ d' ∈ d :: after, d'.1 ∉ d.2 := by
      intro before d after hds d' hd' hread
      have hmem : d'.1 ∈ (d :: after).map Prod.fst := List.mem_map_of_mem hd'
      have hbefore := h before d after hds d'.1 hread (by rw [hds, List.map_append]; simp_all)
      rw [hds, List.map_append] at hnodup
      exact (List.nodup_append.mp hnodup).2.2 _ hbefore _ hmem rfl
    refine ⟨fun d hd => ?_, ?_⟩
    · obtain ⟨before, after, hds⟩ := List.append_of_mem hd
      exact hsplit before d after hds d List.mem_cons_self
    · clear h hnodup
      induction ds with
      | nil => exact .nil
      | cons d rest ih =>
        refine .cons (fun d' hd' => hsplit [] d rest rfl d' (List.mem_cons_of_mem _ hd')) (ih ?_)
        rintro before e after rfl
        exact hsplit (d :: before) e after rfl
  · rintro ⟨hself, hpairwise⟩ before d after hds x hx hmem
    rw [hds, List.map_append, List.mem_append] at hmem
    refine hmem.resolve_right fun hlater => ?_
    obtain ⟨d', hd', rfl⟩ := List.mem_map.mp hlater
    rcases List.mem_cons.mp hd' with rfl | hd'
    · exact hself d' (hds ▸ by simp) hx
    · rw [hds] at hpairwise
      exact List.rel_of_pairwise_cons (List.pairwise_append.mp hpairwise).2.1 hd' hx

/-! ## Definitions of a text -/

/-- What the text of a variable's value looks up. -/
def Ir.Global.lookups (g : Global) : List String :=
  (Emit.markedOrNone g.value).pick Emit.Use.isLookup

/-- What of this the compiler has chosen. -/
def Ir.Global.inserted (g : Global) : List String := (Emit.markedOrNone g.value).inserted

theorem Ir.Global.mem_lookups {g : Global} {x : String} :
    x ∈ g.lookups ↔ .named .read x ∈ Emit.markedOrNone g.value ∨ x ∈ g.inserted := by
  rw [lookups, inserted, Emit.Marked.inserted, Emit.Marked.mem_pick, Emit.Marked.mem_pick]
  constructor
  · rintro ⟨use, hlookup, hmem⟩
    rcases Bool.or_eq_true_iff.mp hlookup with hinserted | hread
    · exact .inr ⟨use, hinserted, hmem⟩
    · obtain rfl := eq_of_beq hread
      exact .inl hmem
  · rintro (hmem | ⟨use, hinserted, hmem⟩)
    · exact ⟨.read, rfl, hmem⟩
    · exact ⟨use, Bool.or_eq_true_iff.mpr (.inl hinserted), hmem⟩

namespace Emit

open Ir Marked

/-- The definition that a chunk of a module makes. A chunk that starts with what it defines is an
assignment, and its value is computed at once. Bodies of functions and classes are not. -/
def definition? : Marked → Option Defines
  | .named .defined x :: value => some (x, pick Use.isLookup value)
  | chunk => (chunk.pick (· == .defined)).head?.map (·, [])

theorem definition?_of_plain {chunk : Marked} {x : String}
    (hplain : ∃ s rest, chunk = .plain s :: rest)
    (hname : (chunk.pick (· == .defined)).head? = some x) : definition? chunk = some (x, []) := by
  obtain ⟨s, rest, rfl⟩ := hplain
  rw [definition?, hname]
  · rfl
  · simp

theorem exists_join_cons (sep : String) (piece : Fragment) (p : Marked) (items : List Marked) :
    ∃ rest, join sep ((piece :: p) :: items) = piece :: rest := by
  cases items with
  | nil => exact ⟨p, rfl⟩
  | cons q items => exact ⟨_, rfl⟩

theorem definition?_markedFunction (f : Function) :
    definition? (markedFunction f) = some (f.name, []) := by
  refine definition?_of_plain ⟨_, exists_join_cons _ _ _ _⟩ ?_
  rw [pick_markedFunction]
  rfl

theorem definition?_markedComponent (c : Component) :
    definition? (markedComponent c) = some (c.name, []) := by
  have hhead : (markedHead c).pick (· == .defined) = [c.name] := by simp [markedHead]
  have hguard : (markedGuard c.name).pick (· == .defined) = [] := by simp [markedGuard]
  unfold markedComponent
  split_ifs
  · refine definition?_of_plain ⟨_, exists_join_cons _ _ _ _⟩ ?_
    rw [pick_join, markedGuarded, List.flatMap_cons, hguard, markedClass]
    simp only [List.cons_append, List.map_cons, List.flatMap_cons, pick_indented, hhead]
    rfl
  · refine definition?_of_plain ⟨_, exists_join_cons _ _ _ _⟩ ?_
    rw [pick_join, markedClass]
    simp only [List.cons_append, List.flatMap_cons, hhead]
    rfl

/-- The chunks of a module define its variables, its functions and its components, in this order. -/
theorem definitions_markedChunks (m : Module) :
    (markedChunks m).filterMap definition? = m.globals.map (fun g => (g.name, g.lookups)) ++
      (m.functions.map (·.name, []) ++ m.components.map (·.name, [])) := by
  have hglobal (g : Global) : definition? (markedGlobal g) = some (g.name, g.lookups) := rfl
  simp only [markedChunks, List.filterMap_append, List.filterMap_map, Function.comp_def, hglobal,
    definition?_markedFunction, definition?_markedComponent, List.append_assoc]
  simp only [List.filterMap_eq_map']

end Emit

namespace Compile

open Emit

/-! ## Definitions of a source -/

/-- The names in the value of a module-level variable. -/
def GlobalSource.names (g : GlobalSource) : List String := g.value.toList.flatMap Source.Expr.names

/-- The definition that a top-level statement makes. -/
def definition? : Source.Stmt → Option Defines
  | .annAssign _ (.name _ id _) _ value => some (id, value.toList.flatMap Source.Expr.names)
  | .functionDef _ name .. => some (name, [])
  | .classDef _ name .. => some (name, [])
  | _ => none

theorem definedName?_eq (s : Source.Stmt) : definedName? s = (definition? s).map Prod.fst := by
  cases s with
  | annAssign span target annot value => cases target <;> rfl
  | _ => rfl

theorem names_definitions (stmts : List Source.Stmt) :
    (stmts.filterMap definition?).map Prod.fst = stmts.filterMap definedName? := by
  rw [List.map_filterMap]
  exact List.filterMap_congr fun s _ => (definedName?_eq s).symm

/-- A source makes the definitions of each kind, in some order. -/
theorem names_perm (stmts : List Source.Stmt) :
    ((globalsIn stmts).map GlobalSource.name ++ ((functionsIn stmts).map FunctionSource.name ++
      (classesIn stmts).map ClassSource.name)).Perm (stmts.filterMap definedName?) := by
  induction stmts with
  | nil => exact .refl _
  | cons s rest ih =>
    cases s with
    | annAssign span target annot value =>
      cases target with
      | name sp id use => exact ih.cons id
      | _ => exact ih
    | functionDef span name params body decorators returns =>
      exact List.perm_middle.trans (ih.cons name)
    | classDef span name bases keywords body decorators =>
      refine .trans ?_ (ih.cons name)
      exact (List.perm_middle.append_left _).trans List.perm_middle
    | _ => exact ih

theorem definition?_of_mem {s : Source.Stmt} {g : GlobalSource} (h : g ∈ globalsIn [s]) :
    definition? s = some (g.name, g.names) := by
  cases s with
  | annAssign span target annot value =>
    cases target with
    | name sp id use =>
      obtain rfl := List.mem_singleton.mp h
      rfl
    | _ => simp [globalsIn] at h
  | _ => simp [globalsIn] at h

theorem mem_definitions {stmts : List Source.Stmt} {g : GlobalSource} (h : g ∈ globalsIn stmts) :
    (g.name, g.names) ∈ stmts.filterMap definition? := by
  obtain ⟨s, hs, hg⟩ := List.mem_filterMap.mp h
  have hmem : g ∈ globalsIn [s] := List.mem_filterMap.mpr ⟨s, List.mem_cons_self, hg⟩
  exact List.mem_filterMap.mpr ⟨s, hs, definition?_of_mem hmem⟩

/-- The module-level variables of a source stand in the order of their definitions. -/
theorem pairwise_globalsIn {R : Defines → Defines → Prop} {stmts : List Source.Stmt}
    (h : (stmts.filterMap definition?).Pairwise R) :
    (globalsIn stmts).Pairwise fun g g' => R (g.name, g.names) (g'.name, g'.names) := by
  unfold globalsIn
  rw [List.pairwise_filterMap] at h ⊢
  refine h.imp fun {s s'} hR g hg g' hg' => ?_
  have hmem : g ∈ globalsIn [s] := List.mem_filterMap.mpr ⟨s, List.mem_cons_self, hg⟩
  have hmem' : g' ∈ globalsIn [s'] := List.mem_filterMap.mpr ⟨s', List.mem_cons_self, hg'⟩
  exact hR _ (definition?_of_mem hmem) _ (definition?_of_mem hmem')

/-! ## Compiled values -/

/-- The compiled variable has its name, and the text of its value reads what the source names. -/
structure ReadsNames (g : GlobalSource) (g' : Ir.Global) : Prop where
  name_eq : g'.name = g.name
  reads : ∀ x, .named .read x ∈ markedOrNone g'.value → isGenerated x = true ∨ x ∈ g.names

theorem readsNames_of_yields {r : Registry} {env : TypeEnv} {g : GlobalSource} {g' : Ir.Global}
    {t t' : Trace} (h : Yields (global r env g) t g' t') : ReadsNames g g' := by
  simp only [global, yields_bind, yields_pure] at h
  obtain ⟨value, t₁, hvalue, rfl, rfl⟩ := h
  cases hg : g.value with
  | none =>
    rw [hg] at hvalue
    obtain ⟨rfl, rfl⟩ := yields_pure.mp hvalue
    exact ⟨rfl, by simp [markedOrNone, plain]⟩
  | some e =>
    rw [hg] at hvalue
    simp only [exprOption, yields_bind, yields_pure] at hvalue
    obtain ⟨code, t₂, hcode, rfl, rfl⟩ := hvalue
    have hnamed := wellNamed_expr_of r (K := (· ∈ e.names)) (B := fun _ => False) e
      (fun x hx _ => .inr hx) hcode
    refine ⟨rfl, fun x hx => ?_⟩
    have hvar : .var x ∈ code.parts := from_markedExpr code .read x hx
    simpa [GlobalSource.names, hg, Allowed] using hnamed.allowed _ hvar

theorem readsNames_of_secondPass {known : Messages} {policy : DuplicatePolicy}
    {moduleName : Option String} {stmts : List Source.Stmt} {m : Ir.Module} {t t' : Trace}
    (h : Yields (secondPass known policy moduleName stmts) t m t') :
    List.Forall₂ ReadsNames (globalsIn stmts) m.globals := by
  simp only [secondPass, yields_bind, yields_pure] at h
  obtain ⟨gs, t₁, hgs, fs, t₂, -, cs, t₃, -, _, t₄, -, rfl, rfl⟩ := h
  refine (forall₂_of_yields_mapM hgs).imp ?_
  rintro g g' ⟨s, s', hg⟩
  exact readsNames_of_yields hg

/-- A variable does not read itself or a later one if it does not do so in the source. -/
theorem globals_read_earlier {stmts : List Source.Stmt} {gs : List Ir.Global}
    (hnodup : (stmts.filterMap definedName?).Nodup)
    (hchosen : ∀ g ∈ globalsIn stmts, isGenerated g.name = false)
    (horder : DefinedBeforeUse (stmts.filterMap definition?))
    (h : List.Forall₂ ReadsNames (globalsIn stmts) gs) :
    (∀ g ∈ gs, .named .read g.name ∉ markedOrNone g.value) ∧
      gs.Pairwise fun g g' => .named .read g'.name ∉ markedOrNone g.value := by
  rw [← names_definitions] at hnodup
  obtain ⟨hself, hlater⟩ := (definedBeforeUse_iff_pairwise hnodup).mp horder
  have hkeep {g g' : GlobalSource} {k k' : Ir.Global} (hg' : g' ∈ globalsIn stmts)
      (hk : ReadsNames g k) (hk' : ReadsNames g' k') (hne : g'.name ∉ g.names) :
      .named .read k'.name ∉ markedOrNone k.value := by
    intro hread
    rw [hk'.name_eq] at hread
    have hgenerated := (hk.reads _ hread).resolve_right hne
    rw [hchosen g' hg'] at hgenerated
    exact Bool.false_ne_true hgenerated
  have hboth := (List.forall₂_and_left _ _).mpr ⟨fun g hg => hg, h⟩
  refine ⟨fun k hk => ?_, pairwise_of_forall₂ hboth (pairwise_globalsIn hlater) ?_⟩
  · obtain ⟨g, hg, hreads⟩ := exists_left_of_mem h hk
    exact hkeep hg hreads hreads (hself _ (mem_definitions hg))
  · intro g k g' k' hk hk' hne
    exact hkeep hk'.1 hk.2 hk'.2 hne

/-- Only module-level variables look something up, and all of them stand before the functions and
components. -/
theorem definitions_iff {m : Ir.Module} {ds : List Defines}
    (hds : ds = m.globals.map (fun g => (g.name, g.lookups)) ++
      (m.functions.map (·.name, []) ++ m.components.map (·.name, []))) :
    ((∀ d ∈ ds, d.1 ∉ d.2) ∧ ds.Pairwise fun d d' => d'.1 ∉ d.2) ↔
      (∀ g ∈ m.globals, g.name ∉ g.lookups) ∧
        (m.globals.Pairwise fun g g' => g'.name ∉ g.lookups) ∧
        ∀ g ∈ m.globals, ∀ x ∈ g.lookups,
          x ∉ m.functions.map Ir.Function.name ∧ x ∉ m.components.map Ir.Component.name := by
  have hbodies : ∀ d ∈ m.functions.map (fun f => ((f.name, []) : Defines)) ++
      m.components.map fun c => (c.name, []), d.2 = [] := by
    intro d hd
    rcases List.mem_append.mp hd with hd | hd
    · obtain ⟨f, -, rfl⟩ := List.mem_map.mp hd
      rfl
    · obtain ⟨c, -, rfl⟩ := List.mem_map.mp hd
      rfl
  rw [hds, List.forall_mem_append, List.pairwise_append, List.forall_mem_map, List.pairwise_map]
  constructor
  · rintro ⟨⟨hself, -⟩, hlater, -, hothers⟩
    refine ⟨hself, hlater, fun g hg x hx => ⟨fun hname => ?_, fun hname => ?_⟩⟩
    · obtain ⟨f, hf, rfl⟩ := List.mem_map.mp hname
      exact hothers _ (List.mem_map_of_mem hg) (f.name, [])
        (List.mem_append_left _ (List.mem_map_of_mem hf)) hx
    · obtain ⟨c, hc, rfl⟩ := List.mem_map.mp hname
      exact hothers _ (List.mem_map_of_mem hg) (c.name, [])
        (List.mem_append_right _ (List.mem_map_of_mem hc)) hx
  · rintro ⟨hself, hlater, hothers⟩
    refine ⟨⟨hself, fun d hd => by simp [hbodies d hd]⟩, hlater, ?_, fun d hd d' hd' hread => ?_⟩
    · exact List.Pairwise.imp_of_mem (fun hd _ _ => by simp [hbodies _ hd])
        (List.pairwise_of_forall fun _ _ => trivial)
    · obtain ⟨g, hg, rfl⟩ := List.mem_map.mp hd
      obtain ⟨hfunction, hcomponent⟩ := hothers g hg _ hread
      rcases List.mem_append.mp hd' with hd' | hd'
      · obtain ⟨f, hf, rfl⟩ := List.mem_map.mp hd'
        exact hfunction (List.mem_map_of_mem hf)
      · obtain ⟨c, hc, rfl⟩ := List.mem_map.mp hd'
        exact hcomponent (List.mem_map_of_mem hc)

/-- **The order of module-level variables is all that generated text keeps.** The text is made up of
marked chunks. In a source that defines what values name before them, the chunks do so exactly if
values name neither functions nor components, and the names that are inserted into a value are not
those of the variable or later ones. -/
theorem defined_before_use_iff {known : Messages} {policy : DuplicatePolicy}
    {sourcePath moduleName : Option String} {text : String} {m : Ir.Module}
    {stmts : List Source.Stmt}
    (h : (compile known policy sourcePath moduleName text).result = .ok m)
    (hparse : Source.parse text = some stmts)
    (horder : DefinedBeforeUse (stmts.filterMap definition?)) :
    (∀ hostModule sourceName, generate m hostModule sourceName = Text.joinWith "\n\n\n"
      (opening m hostModule sourceName :: (markedChunks m).map Marked.text) ++ "\n") ∧
    (DefinedBeforeUse ((markedChunks m).filterMap Emit.definition?) ↔
      (∀ g ∈ m.globals, ∀ x ∈ g.lookups,
        x ∉ m.functions.map Ir.Function.name ∧ x ∉ m.components.map Ir.Component.name) ∧
      (∀ g ∈ m.globals, g.name ∉ g.inserted) ∧
      m.globals.Pairwise fun g g' => g'.name ∉ g.inserted) := by
  refine ⟨generate_eq m, ?_⟩
  have hds := definitions_markedChunks m
  generalize (markedChunks m).filterMap Emit.definition? = ds at hds ⊢
  obtain ⟨stmts', t', hparse', hmodule⟩ := exists_module_of_compile h
  obtain rfl : stmts = stmts' := Option.some.inj (hparse.symm.trans hparse')
  obtain ⟨hadmissible, hsecond⟩ := yields_module.mp hmodule
  obtain ⟨r, n, n', -, -, hglobals, hfunctions, hcomponents, -⟩ :=
    of_yields_module (Source.areMarked_of_parse hparse) hmodule
  have hnames : (ds.map Prod.fst).Nodup := by
    have hperm := (names_perm stmts).nodup_iff.mpr hadmissible.declares.once
    rw [← map_eq_of_forall₂ (hglobals.imp fun _ _ hg => hg.1),
      ← map_eq_of_forall₂ (hfunctions.imp fun _ _ hf => hf.name_eq),
      ← map_eq_of_forall₂ (hcomponents.imp fun _ _ hc => hc.name_eq)] at hperm
    simpa [hds, Function.comp_def] using hperm
  have hchosen : ∀ g ∈ globalsIn stmts, isGenerated g.name = false := by
    intro g hg
    obtain ⟨s, hs, hdefines⟩ := List.mem_filterMap.mp (mem_definitions hg)
    have hname : definedName? s = some g.name := by rw [definedName?_eq, hdefines]; rfl
    rcases hadmissible.declares.each s hs with hdoc | ⟨x, hx, hmay⟩
    · simp [definedName?_of_isDocstring hdoc] at hname
    · obtain rfl := Option.some.inj (hname.symm.trans hx)
      exact hmay.1
  obtain ⟨hself, hlater⟩ := globals_read_earlier hadmissible.declares.once hchosen horder
    (readsNames_of_secondPass hsecond)
  have hlookups {g g' : Ir.Global} (hread : .named .read g'.name ∉ markedOrNone g.value) :
      g'.name ∉ g.lookups ↔ g'.name ∉ g.inserted := by
    rw [Ir.Global.mem_lookups, or_iff_right hread]
  rw [definedBeforeUse_iff_pairwise hnames, definitions_iff hds, ← and_assoc, and_comm]
  refine and_congr_right fun _ => and_congr ?_ ⟨fun hafter => ?_, fun hafter => ?_⟩
  · exact forall₂_congr fun g hg => hlookups (hself g hg)
  · exact (hlater.and hafter).imp fun hread => (hlookups hread.1).mp hread.2
  · exact (hlater.and hafter).imp fun hread => (hlookups hread.1).mpr hread.2

/-- The names are distinct, and the definitions come in order. -/
def areInOrder (ds : List Defines) : Bool :=
  decide ((ds.map Prod.fst).Nodup ∧ (∀ d ∈ ds, d.1 ∉ d.2) ∧ ds.Pairwise fun d d' => d'.1 ∉ d.2)

theorem definedBeforeUse_of_areInOrder {ds : List Defines} (h : areInOrder ds = true) :
    DefinedBeforeUse ds := by
  obtain ⟨hnodup, horder⟩ := of_decide_eq_true h
  exact (definedBeforeUse_iff_pairwise hnodup).mpr horder

/-- Two variables, one with the value of the other, and a function between them. -/
def countdown : String :=
  "start: int = 3\n" ++
  "def step(n):\n" ++
  "    return n\n" ++
  "rest: int = start\n"

set_option synthInstance.maxSize 256 in
theorem countdown_in_order :
    ∃ m, (compile .standard .keepLast none none countdown).result = .ok m ∧
      (markedChunks m).filterMap Emit.definition? =
        [("start", []), ("rest", ["start"]), ("step", [])] ∧
      DefinedBeforeUse ((markedChunks m).filterMap Emit.definition?) := by
  obtain ⟨m, stmts, h, hparse, horder, hdefinitions, hapart⟩ :
      ∃ m stmts, (compile .standard .keepLast none none countdown).result = .ok m ∧
        Source.parse countdown = some stmts ∧ areInOrder (stmts.filterMap definition?) = true ∧
        (markedChunks m).filterMap Emit.definition? =
          [("start", []), ("rest", ["start"]), ("step", [])] ∧
        (∀ g ∈ m.globals, ∀ x ∈ g.lookups,
          x ∉ m.functions.map Ir.Function.name ∧ x ∉ m.components.map Ir.Component.name) ∧
        (∀ g ∈ m.globals, g.name ∉ g.inserted) ∧
        m.globals.Pairwise fun g g' => g'.name ∉ g.inserted :=
    exists_ok_some (by decide +kernel)
  refine ⟨m, h, hdefinitions, ?_⟩
  exact (defined_before_use_iff h hparse (definedBeforeUse_of_areInOrder horder)).2.mpr hapart

/-- A variable with a value that a function computes. -/
def computed : String := "def f():\n    return 1\n\nx: int = f()\n"

theorem computed_uses_before_definition :
    ∃ m stmts, (compile .standard .keepLast none none computed).result = .ok m ∧
      Source.parse computed = some stmts ∧ DefinedBeforeUse (stmts.filterMap definition?) ∧
        ¬ DefinedBeforeUse ((markedChunks m).filterMap Emit.definition?) := by
  obtain ⟨m, stmts, h, hparse, horder, hdefinitions⟩ :
      ∃ m stmts, (compile .standard .keepLast none none computed).result = .ok m ∧
        Source.parse computed = some stmts ∧ areInOrder (stmts.filterMap definition?) = true ∧
        (markedChunks m).filterMap Emit.definition? = [("x", ["f"]), ("f", [])] :=
    exists_ok_some (by decide +kernel)
  refine ⟨m, stmts, h, hparse, definedBeforeUse_of_areInOrder horder, fun hused => ?_⟩
  rw [hdefinitions] at hused
  simpa using hused [] ("x", ["f"]) [("f", [])] rfl "f" (by simp) (by simp)

end Compile

end Componentry
