import Componentry.Proofs.ClassNames
import Componentry.Proofs.FirstPass
import Componentry.Proofs.MarkedText

/-!
# Names that the compiler inserts

Generated code names things that its source does not: the runtime library, the function that tests
types, host types by their code names, and what constructors and guards of components look up. The
source chooses the names of parameters, local variables, module-level variables and functions, and
it may choose any of these names. Inside of a class a private name is read with the name of the
class in front, and names are compared as they are read.

**Theorem (`hygienic_iff_apart`).** Code reaches what the compiler means by the names it inserts,
and defaults of fields reach what the source means, exactly if the source keeps its own names apart:
no module-level variable or function has a name that is inserted anywhere, no parameter or local
variable has one that is inserted into the same body, and no default names something of the module
that is called like a parameter of constructors.

Generated names never stand in the way. No inserted name looks like them, and a private name that is
read with the name of a class has one more underscore.
-/

namespace Componentry

namespace Emit

open Ir Marked

/-! ## Scopes -/

/-- A stretch of generated text, the class that it stands in, and what the compiler's own statements
in it read. -/
structure Scope where
  owner : Option String := none
  pieces : Marked
  calls : List String := []

namespace Scope

/-- What a name in the text is read as. -/
def meaning (s : Scope) (x : String) : String :=
  match s.owner with
  | none => x
  | some owner => privateName owner x

/-- The names of a kind, as they are read. -/
def names (s : Scope) (kind : Use → Bool) : List String := (s.pieces.pick kind).map s.meaning

/-- The names that the compiler has put into the text, as they are read. -/
def inserts (s : Scope) : List String := (s.pieces.inserted ++ s.calls).map s.meaning

end Scope

/-- The names that statements read, as they stand in the text. -/
def reads (body : List Stmt) : List String := (markedBlock 2 body).flatMap (pick (· == .read))

/-- What the compiler's own statements in the body of a method read. Some messages start by loading
the module, and the serialization callbacks that a component has by default call the runtime
library. -/
def callsOf (d : Method) : List String :=
  (if d.name ∈ Definition.loadingMessages then reads (d.body.take 1) else []) ++
    (Definition.defaults.filter fun e =>
      d.name = e.name ∧ d.params.map Param.name = ["self"] ∧
        block 2 d.body = block 2 e.body).flatMap fun e => (reads e.body).filter (· ≠ "self")

def globalScope (g : Global) : Scope where
  pieces := markedGlobal g

def functionScope (f : Function) : Scope where
  pieces := markedFunction f

/-- The first lines of a component stand outside of its class. -/
def headScope (c : Component) : Scope where
  pieces := (if c.constant then markedGuard c.name else []) ++ markedHead c

def constructorScope (c : Component) : Scope where
  owner := some c.name
  pieces := join "\n" (markedConstructor c)

def methodScope (owner : String) (d : Method) : Scope where
  owner := some owner
  pieces := join "\n" (markedMethod 1 d)
  calls := callsOf d

def scopes (m : Module) : List Scope :=
  m.globals.map globalScope ++ m.functions.map functionScope ++
    m.components.flatMap fun c =>
      headScope c :: constructorScope c :: c.methods.map (methodScope c.name)

theorem mem_scopes {m : Module} {s : Scope} :
    s ∈ scopes m ↔ (∃ g ∈ m.globals, globalScope g = s) ∨ (∃ f ∈ m.functions, functionScope f = s) ∨
      ∃ c ∈ m.components, s = headScope c ∨ s = constructorScope c ∨
        ∃ d ∈ c.methods, methodScope c.name d = s := by
  simp only [scopes, List.mem_append, List.mem_map, List.mem_flatMap, List.mem_cons, or_assoc]

/-- All names in the text of a module stand in its scopes. -/
theorem mem_pick_markedChunks {m : Module} {kind : Use → Bool} {x : String} :
    x ∈ (markedChunks m).flatMap (pick kind) ↔ ∃ s ∈ scopes m, x ∈ s.pieces.pick kind := by
  rw [markedChunks, List.flatMap_append, List.flatMap_append, List.flatMap_map, List.flatMap_map,
    List.flatMap_map, List.mem_append, List.mem_append, List.mem_flatMap, List.mem_flatMap,
    List.mem_flatMap]
  constructor
  · rintro ((⟨g, hg, hx⟩ | ⟨f, hf, hx⟩) | ⟨c, hc, hx⟩)
    · exact ⟨_, mem_scopes.mpr (.inl ⟨g, hg, rfl⟩), hx⟩
    · exact ⟨_, mem_scopes.mpr (.inr (.inl ⟨f, hf, rfl⟩)), hx⟩
    · rcases mem_pick_markedComponent.mp hx with ⟨hconstant, hx⟩ | hx | hx | ⟨d, hd, hx⟩
      · exact ⟨_, mem_scopes.mpr (.inr (.inr ⟨c, hc, .inl rfl⟩)),
          by simp [headScope, hconstant, hx]⟩
      · exact ⟨_, mem_scopes.mpr (.inr (.inr ⟨c, hc, .inl rfl⟩)), by simp [headScope, hx]⟩
      · exact ⟨_, mem_scopes.mpr (.inr (.inr ⟨c, hc, .inr (.inl rfl)⟩)),
          by rwa [constructorScope, pick_join]⟩
      · exact ⟨_, mem_scopes.mpr (.inr (.inr ⟨c, hc, .inr (.inr ⟨d, hd, rfl⟩)⟩)),
          by rwa [methodScope, pick_join]⟩
  · rintro ⟨s, hs, hx⟩
    rcases mem_scopes.mp hs with ⟨g, hg, rfl⟩ | ⟨f, hf, rfl⟩ | ⟨c, hc, rfl | rfl | ⟨d, hd, rfl⟩⟩
    · exact .inl (.inl ⟨g, hg, hx⟩)
    · exact .inl (.inr ⟨f, hf, hx⟩)
    · refine .inr ⟨c, hc, mem_pick_markedComponent.mpr ?_⟩
      rw [headScope, pick_append, List.mem_append] at hx
      rcases hx with hx | hx
      · split_ifs at hx with hconstant
        · exact .inl ⟨hconstant, hx⟩
        · simp [pick] at hx
      · exact .inr (.inl hx)
    · rw [constructorScope, pick_join] at hx
      exact .inr ⟨c, hc, mem_pick_markedComponent.mpr (.inr (.inr (.inl hx)))⟩
    · rw [methodScope, pick_join] at hx
      exact .inr ⟨c, hc, mem_pick_markedComponent.mpr (.inr (.inr (.inr ⟨d, hd, hx⟩)))⟩

/-- The names that the variables and functions of a module define. -/
def chosen (m : Module) : List String :=
  (m.globals.map markedGlobal ++ m.functions.map markedFunction).flatMap (pick (· == .defined))

/-- No inserted name is bound around the place where it stands, and constructors bind no name that a
default of a field reads. -/
structure Hygienic (m : Module) : Prop where
  scopes : ∀ s ∈ scopes m, ∀ y ∈ s.inserts, y ∉ s.names Use.isBinding ∧ y ∉ chosen m
  defaults : ∀ c ∈ m.components, ∀ y ∈ (constructorScope c).names (· == .read),
    y ∉ (constructorScope c).names (· == .param)

instance (m : Module) : Decidable (Hygienic m) :=
  decidable_of_iff (_ ∧ _) ⟨fun h => ⟨h.1, h.2⟩, fun h => ⟨h.scopes, h.defaults⟩⟩

/-! ## Marks of code -/

/-- A name that code with these parts may insert. -/
def Insertable (ps : List Part) (x : String) : Prop :=
  x = "isinstance" ∨ x = "float" ∨ ∃ typeName, .hostType typeName x ∈ ps

section

variable {ps : List Part} {p : Marked} {lines : List Marked} {x : String}

theorem Marked.From.inserted (h : p.From ps) (hx : x ∈ p.inserted) : Insertable ps x := by
  obtain ⟨use, hinserted, hmem⟩ := mem_pick.mp hx
  have hfrom := h use x hmem
  cases use with
  | helper => exact hfrom.imp_right .inl
  | base | reference | test => exact .inr (.inr hfrom.2)
  | _ => simp at hinserted

theorem Marked.From.of_mem (h : p.From ps) (use : Use) (hx : x ∈ p.pick (· == use)) :
    use.From ps x := by
  obtain ⟨use', huse, hmem⟩ := mem_pick.mp hx
  obtain rfl := eq_of_beq huse
  exact h _ x hmem

/-- Code has no parameters and defines nothing. -/
theorem Marked.From.pick_eq_nil (h : p.From ps) {use : Use} (huse : use ∈ [.param, .defined]) :
    p.pick (· == use) = [] := by
  refine List.eq_nil_iff_forall_not_mem.mpr fun x hx => ?_
  have hfrom := h.of_mem use hx
  rcases List.mem_pair.mp huse with rfl | rfl <;> exact absurd hfrom.1 (by decide)

end

/-- The text of a function: its parameters, and a body whose marks come from the parts. -/
structure Scope.HasCode (s : Scope) (params : List String) (ps : List Part) : Prop where
  params_eq : s.pieces.pick (· == .param) = params
  bound : ∀ x ∈ s.pieces.pick (· == .bound), .binder x ∈ ps
  inserted : ∀ x ∈ s.pieces.inserted, Insertable ps x

theorem hasCode_of_pick {s : Scope} {params : List String} {ps : List Part} {body : List Marked}
    (hfrom : ∀ p ∈ body, p.From ps)
    (hpick : ∀ kind, kind .defined = false → s.pieces.pick kind =
      (if kind .param then params else []) ++ body.flatMap (pick kind)) : s.HasCode params ps := by
  have hbody := from_join "\n" hfrom
  refine ⟨?_, fun x hx => hbody.of_mem .bound ?_, fun x hx => hbody.inserted ?_⟩
  · rw [hpick _ rfl, ← pick_join "\n", hbody.pick_eq_nil (by decide)]
    simp
  · rw [hpick _ rfl] at hx
    rwa [pick_join]
  · rw [Marked.inserted, hpick _ rfl] at hx
    rwa [Marked.inserted, pick_join]

theorem hasCode_function (f : Function) :
    (functionScope f).HasCode (f.params.map Param.name) (partsOfBlock f.body) := by
  refine hasCode_of_pick (from_markedBlock 1 f.body) fun kind hkind => ?_
  rw [functionScope, pick_markedFunction, hkind]
  rfl

theorem hasCode_method (owner : String) (d : Method) :
    (methodScope owner d).HasCode (d.params.map Param.name) (partsOfBlock d.body) := by
  refine hasCode_of_pick (from_markedBlock 2 d.body) fun kind _ => ?_
  rw [methodScope, pick_join, pick_markedMethod]

theorem mem_names_isBinding {s : Scope} {y : String} : y ∈ s.names Use.isBinding ↔
    ∃ x, (x ∈ s.pieces.pick (· == .param) ∨ x ∈ s.pieces.pick (· == .bound)) ∧ s.meaning x = y := by
  simp only [Scope.names, List.mem_map, mem_pick, Use.isBinding, Bool.or_eq_true_iff, ← exists_or,
    ← or_and_right, or_comm]

theorem Scope.mem_inserts {s : Scope} {y : String} :
    y ∈ s.inserts ↔ ∃ x, (x ∈ s.pieces.inserted ∨ x ∈ s.calls) ∧ s.meaning x = y := by
  simp only [inserts, List.mem_map, List.mem_append]

theorem chosen_eq (m : Module) :
    chosen m = m.globals.map Global.name ++ m.functions.map Function.name := by
  have hglobal (g : Global) : (markedGlobal g).pick (· == .defined) = [g.name] := by
    have hvalue : (markedOrNone g.value).pick (· == .defined) = [] := by
      cases g.value with
      | none => rfl
      | some e => exact (from_markedExpr e).pick_eq_nil (by decide)
    simp [markedGlobal, hvalue]
  have hfunction (f : Function) : (markedFunction f).pick (· == .defined) = [f.name] := by
    have hbody := from_join "\n" (from_markedBlock 1 f.body)
    rw [pick_markedFunction, ← pick_join "\n", hbody.pick_eq_nil (by decide)]
    simp
  rw [chosen, List.flatMap_append, List.flatMap_map, List.flatMap_map]
  simp only [hglobal, hfunction, ← List.map_eq_flatMap]

/-! ## Names as they are read -/

open CompileM

theorem count_generatedName {stem : String} (h : stem ∈ stems) (k : Nat) :
    (generatedName stem k).toList.count '_' = 2 := by
  have hstems : ∀ stem ∈ stems, '_' ∉ stem.toList := by decide
  have hdigits : '_' ∉ (toString k).toList := by
    rw [Nat.toString_eq_ofList_toDigits, String.toList_ofList]
    intro hmem
    have hdigit : '_'.isDigit = true := Nat.isDigit_of_mem_toDigits (by decide) (by decide) hmem
    revert hdigit
    decide
  have htext : (generatedName stem k).toList =
      ['_', 'h', 'c', '_'] ++ (stem.toList ++ (toString k).toList) := by
    simp [generatedName, generatedStart]
  rw [htext, List.count_append, List.count_append, List.count_eq_zero_of_not_mem (hstems stem h),
    List.count_eq_zero_of_not_mem hdigits]
  rfl

theorem Scope.meaning_of_not (s : Scope) {x : String} (h : isPrivate x = false) :
    s.meaning x = x := by
  unfold meaning
  split
  · rfl
  · exact privateName_of_not h _

/-- A name of the source is never read as a generated one. -/
theorem Scope.meaning_ne_of_numbered (s : Scope) {x b : String} {n n' : Nat}
    (hx : Compile.isGenerated x = false) (hb : Numbered n n' b) : s.meaning x ≠ s.meaning b := by
  obtain ⟨stem, hstem, k, -, -, rfl⟩ := hb
  have hplain : isPrivate (generatedName stem k) = false := by
    simp [isPrivate, generatedName, generatedStart]
  have hne : x ≠ generatedName stem k := by
    rintro rfl
    simp [Compile.isGenerated_generatedName] at hx
  rw [s.meaning_of_not hplain]
  cases hprivate : isPrivate x with
  | false => rwa [s.meaning_of_not hprivate]
  | true =>
    unfold meaning
    split
    · exact hne
    · next owner _ =>
      rcases privateName_cases owner x with hfix | ⟨c, stem', -, -, htext⟩
      · rwa [hfix]
      · -- the name of the class comes with an underscore, and the private name has two
        intro heq
        obtain ⟨rest, hrest⟩ : ∃ rest, ['_', '_'] ++ rest = x.toList :=
          List.isPrefixOf_iff_prefix.mp (Bool.and_eq_true_iff.mp hprivate).1
        have hcount := count_generatedName hstem k
        rw [← heq, htext, ← hrest] at hcount
        simp only [List.cons_append, List.nil_append, List.count_cons, List.count_append] at hcount
        simp only [beq_self_eq_true, if_true] at hcount
        omega

open Definition (Delivers Default runtimeAlias runtimeCall defaults loadingMessages)

/-! ## Delivered methods -/

variable {moduleName : Option String} {entry m : Ir.Method} {x : String}

/-- The names in the statement that loads a module. -/
theorem pick_loading (kind : Use → Bool) (moduleName : Option String) :
    (markedStmt 2 (runtimeCall "require_module"
      [if moduleName.getD "" = "" then .var "__name__"
        else .const (.str (moduleName.getD ""))])).flatMap (pick kind) =
      if kind .read then
        runtimeAlias :: if moduleName.getD "" = "" then ["__name__"] else []
      else [] := by
  split_ifs <;>
    simp_all [runtimeCall, markedStmt, markedExpr, markedExprs, markedLiteral, isConst, join]

theorem pick_of_delivers (h : Delivers moduleName entry m) {kind : Use → Bool}
    (hkind : kind .read = false) :
    (markedBlock 2 m.body).flatMap (pick kind) =
      (markedBlock 2 entry.body).flatMap (pick kind) := by
  rw [pick_markedBlock, pick_markedBlock, h.body]
  by_cases hname : entry.name ∈ ["Awake", "Start", "OnDrawGizmos", "OnDrawGizmosSelected"]
  · rw [if_pos hname, markedStmts, List.flatMap_append, pick_loading]
    simp [hkind]
  · rw [if_neg hname]

/-- The compiler's own statements read the runtime library, and the name of the module. -/
theorem calls_of_delivers (h : Delivers moduleName entry m) (hx : x ∈ callsOf m) :
    x = runtimeAlias ∨ x = "__name__" := by
  rcases List.mem_append.mp hx with hx | hx
  · split_ifs at hx with hname
    · rw [h.name, loadingMessages] at hname
      rw [reads, pick_markedBlock, h.body, if_pos hname, List.take_succ_cons, List.take_zero,
        markedStmts, markedStmts, List.append_nil, pick_loading] at hx
      simp only [beq_self_eq_true, if_true, List.mem_cons] at hx
      refine hx.imp_right fun hx => ?_
      split_ifs at hx
      · exact List.mem_singleton.mp hx
      · simp at hx
    · cases hx
  · have hreads : ∀ e ∈ defaults, ∀ x ∈ reads e.body, x = runtimeAlias ∨ x = "self" := by
      decide +kernel
    obtain ⟨e, he, hx⟩ := List.mem_flatMap.mp hx
    obtain ⟨hx, hself⟩ := List.mem_filter.mp hx
    exact .inl ((hreads e (List.mem_of_mem_filter he) x hx).resolve_right (of_decide_eq_true hself))

theorem inserted_of_delivers (h : Delivers moduleName entry m) (owner : String) :
    (methodScope owner m).pieces.inserted =
      (markedBlock 2 entry.body).flatMap Marked.inserted := by
  rw [Marked.inserted, methodScope, pick_join, pick_markedMethod, pick_of_delivers h rfl]
  rfl

theorem binder_of_delivers (h : Delivers moduleName entry m) {owner : String}
    (hx : x ∈ (methodScope owner m).pieces.pick (· == .bound)) :
    .binder x ∈ partsOfBlock entry.body := by
  rw [methodScope, pick_join, pick_markedMethod, pick_of_delivers h rfl, ← pick_join "\n"] at hx
  exact (from_join _ (from_markedBlock 2 entry.body)).of_mem .bound hx

theorem inserted_default {d : Default} (h : d ∈ defaults) :
    (markedBlock 2 d.body).flatMap Marked.inserted = [] := by
  have hall : ∀ d ∈ defaults, (markedBlock 2 d.body).flatMap Marked.inserted = [] := by
    decide +kernel
  exact hall d h

end Emit

namespace Compile

open Ir (Part)

open Emit Emit.Marked

open CompileM (Numbered)

/-! ## Names that sources choose -/

/-- The functions of a source and the methods of its classes. -/
def functionsOf (stmts : List Source.Stmt) : List FunctionSource :=
  functionsIn stmts ++ (classesIn stmts).flatMap fun cls => methodsIn cls.body

/-- The scope has the parameters of the function, and what it binds is bound in the function. -/
structure CodeOf (fn : FunctionSource) (s : Scope) : Prop where
  params_eq : s.pieces.pick (· == .param) = fn.params.regular.map Source.Param.name
  binds : ∀ x ∈ s.pieces.pick (· == .bound), isGenerated x = true ∨ x ∈ Source.boundNames fn.body

instance (fn : FunctionSource) (s : Scope) : Decidable (CodeOf fn s) :=
  decidable_of_iff (_ ∧ _) ⟨fun h => ⟨h.1, h.2⟩, fun h => ⟨h.params_eq, h.binds⟩⟩

/-- The names that a function chooses for its code: its parameters, and the local variables that the
code keeps. -/
def namesIn (fn : FunctionSource) (s : Scope) : List String :=
  (fn.params.regular.map Source.Param.name ++
    (Source.boundNames fn.body).filter (· ∈ s.pieces.pick (· == .bound))).map s.meaning

/-- The names that the source chooses are not those that the compiler inserts. -/
structure KeepsApart (stmts : List Source.Stmt) (m : Ir.Module) : Prop where
  /-- Variables and functions of the module are visible in all of its code. -/
  modules : ∀ s ∈ scopes m, ∀ y ∈ s.inserts,
    y ∉ (globalsIn stmts).map GlobalSource.name ∧ y ∉ (functionsIn stmts).map FunctionSource.name
  /-- A parameter or a local variable is visible in its own body. -/
  bodies : ∀ fn ∈ functionsOf stmts, ∀ s ∈ scopes m, CodeOf fn s → ∀ y ∈ s.inserts,
    y ∉ namesIn fn s
  /-- Constructors hide what the module calls like one of their parameters. -/
  constructors : ∀ c ∈ m.components, ∀ x ∈ ["self", "args", "kwargs"],
    (x ∈ (globalsIn stmts).map GlobalSource.name ∨ x ∈ (functionsIn stmts).map FunctionSource.name →
      x ∉ (constructorScope c).pieces.pick (· == .read)) ∧
    (x ∈ (classesIn stmts).map ClassSource.name → x ∉ (constructorScope c).pieces.inserted)

instance (stmts : List Source.Stmt) (m : Ir.Module) : Decidable (KeepsApart stmts m) :=
  decidable_of_iff (_ ∧ _ ∧ _) ⟨fun h => ⟨h.1, h.2.1, h.2.2⟩,
    fun h => ⟨h.modules, h.bodies, h.constructors⟩⟩

/-- Code names of types are built-in ones or names of classes. -/
theorem emitName_of_mem {classes : List ClassSource} {r : Registry} {T : HostType}
    (h : T ∈ (withClasses r classes).types) :
    T ∈ r.types ∨ T.emitName ∈ classes.map ClassSource.name := by
  induction classes generalizing r with
  | nil => exact .inl h
  | cons c rest ih =>
    rcases ih h with hT | hT
    · rcases List.mem_cons.mp hT with rfl | hT
      · refine .inr (List.mem_cons.mpr (.inl ?_))
        unfold HostType.emitName
        split_ifs <;> rfl
      · exact .inl hT
    · exact .inr (List.mem_cons_of_mem _ hT)

theorem emitName_builtin : ∀ T ∈ Host.builtin.types,
    isGenerated T.emitName = false ∧ T.emitName ∉ ["self", "args", "kwargs"] := by
  decide +kernel

section

variable {stmts : List Source.Stmt} {r : Registry} {ps : List Part} {x : String}

theorem registry_eq (h : RegistryOf (classesIn stmts) r) : r = registryOf stmts := by
  obtain ⟨sources, t, t', h⟩ := h
  exact ((yields_registerAll Registry.hosts_builtin).mp h).2.2.2.2

theorem name_of_insertable (hr : RegistryOf (classesIn stmts) r) (h : Insertable ps x)
    (hps : RefersTo r ps) :
    (isGenerated x = false ∧ x ∉ ["self", "args", "kwargs"]) ∨
      x ∈ (classesIn stmts).map ClassSource.name := by
  rcases h with rfl | rfl | ⟨typeName, h⟩
  · exact .inl (by decide)
  · exact .inl (by decide)
  · obtain ⟨T, hT, -, rfl⟩ := hps.hostType typeName x h
    rw [registry_eq hr] at hT
    exact (emitName_of_mem hT).imp (emitName_builtin T) id

theorem isGenerated_of_class (hstmts : Admissible stmts)
    (h : x ∈ (classesIn stmts).map ClassSource.name) : isGenerated x = false := by
  obtain ⟨c, hc, rfl⟩ := List.mem_map.mp h
  exact (hstmts.mayDefine hc).1

theorem isGenerated_of_insertable (hstmts : Admissible stmts) (hr : RegistryOf (classesIn stmts) r)
    (h : Insertable ps x) (hps : RefersTo r ps) : isGenerated x = false :=
  (name_of_insertable hr h hps).elim And.left (isGenerated_of_class hstmts)

end

/-! ## Scopes of a module -/

theorem mem_names_of_namesIn {fn : FunctionSource} {s : Scope} (h : CodeOf fn s) {y : String}
    (hy : y ∈ namesIn fn s) : y ∈ s.names Use.isBinding := by
  obtain ⟨x, hx, rfl⟩ := List.mem_map.mp hy
  refine mem_names_isBinding.mpr ⟨x, ?_, rfl⟩
  rcases List.mem_append.mp hx with hx | hx
  · exact .inl (h.params_eq ▸ hx)
  · exact .inr (of_decide_eq_true (List.mem_filter.mp hx).2)

section

variable {stmts : List Source.Stmt} {r : Registry} {n n' : Nat} {y : String}

/-- What the source has not chosen for a function is not bound in its code. -/
theorem not_bound_of_codeOf {fn : FunctionSource} {s : Scope} (hcode : CodeOf fn s)
    (hsource : ∀ x, x ∈ s.pieces.inserted ∨ x ∈ s.calls → isGenerated x = false)
    (hnumbered : ∀ x ∈ s.pieces.pick (· == .bound), isGenerated x = true → Numbered n n' x)
    (hy : y ∈ s.inserts) (hapart : y ∉ namesIn fn s) : y ∉ s.names Use.isBinding := by
  obtain ⟨x, hx, rfl⟩ := Scope.mem_inserts.mp hy
  intro hmem
  obtain ⟨b, hb | hb, heq⟩ := mem_names_isBinding.mp hmem
  · refine hapart (heq ▸ List.mem_map_of_mem (List.mem_append_left _ ?_))
    exact hcode.params_eq ▸ hb
  · rcases hcode.binds b hb with hgenerated | hbound
    · exact s.meaning_ne_of_numbered (hsource x hx) (hnumbered b hb hgenerated) heq.symm
    · refine hapart (heq ▸ List.mem_map_of_mem (List.mem_append_right _ ?_))
      exact List.mem_filter.mpr ⟨hbound, decide_eq_true hb⟩

/-- The value of a module-level variable binds generated names only. -/
theorem not_bound_global {g : Ir.Global} (hstmts : Admissible stmts)
    (hr : RegistryOf (classesIn stmts) r)
    (hclosed : ∀ e ∈ g.value, ClosedValue r (IsModuleName stmts) e)
    (hnumbered : ∀ x, isGenerated x = true → .binder x ∈ Ir.partsOfOption g.value → Numbered n n' x)
    (hy : y ∈ (globalScope g).inserts) : y ∉ (globalScope g).names Use.isBinding := by
  obtain ⟨x, hx | hx, rfl⟩ := Scope.mem_inserts.mp hy
  · intro hmem
    obtain ⟨b, hb, heq⟩ := mem_names_isBinding.mp hmem
    cases hvalue : g.value with
    | none => simp [globalScope, markedGlobal, markedOrNone, hvalue] at hb
    | some e =>
      have hfrom := from_markedExpr e
      have hinserted : x ∈ (markedExpr e).inserted := by
        simpa [globalScope, Marked.inserted, markedGlobal, markedOrNone, hvalue]
          using hx
      have hbound : .binder b ∈ e.parts := by
        simp only [globalScope, markedGlobal, markedOrNone, hvalue,
          pick_append, pick_named, pick_plain] at hb
        rw [hfrom.pick_eq_nil (by decide)] at hb
        exact hfrom.of_mem .bound (by simpa using hb)
      have hsource := isGenerated_of_insertable hstmts hr (hfrom.inserted hinserted)
        (hclosed e hvalue).types
      have hb' := hnumbered b ((hclosed e hvalue).binds b hbound)
        (by simpa [hvalue, Ir.partsOfOption] using hbound)
      exact Scope.meaning_ne_of_numbered _ hsource hb' heq.symm
  · cases hx

/-- No name is read like a parameter of constructors but that parameter itself. -/
theorem eq_of_meaning {s : Scope} {x b : String} (hb : b ∈ ["self", "args", "kwargs"])
    (h : s.meaning b = s.meaning x) : x = b := by
  have hplain : ∀ b ∈ ["self", "args", "kwargs"],
      isPrivate b = false ∧ b.toList.head? ≠ some '_' := by
    decide
  obtain ⟨hpublic, hhead⟩ := hplain b hb
  rw [s.meaning_of_not hpublic, Scope.meaning] at h
  split at h
  · exact h.symm
  · next owner _ =>
    rcases privateName_cases owner x with hfix | ⟨c, stem, -, -, htext⟩
    · exact (h.trans hfix).symm
    · rw [← h] at htext
      exact absurd (by rw [htext]; rfl) hhead

section

variable {c : Ir.Component}
  (hclosed : ∀ f ∈ c.fields, ∀ e ∈ f.default, ClosedValue r (IsModuleName stmts) e)

theorem mem_param_constructor {x : String} :
    x ∈ (constructorScope c).pieces.pick (· == .param) ↔ x ∈ ["self", "args", "kwargs"] := by
  rw [constructorScope, pick_join, mem_pick_markedConstructor]
  constructor
  · rintro (hx | hx | ⟨f, -, e, -, hx⟩)
    · exact hx
    · cases hx
    · rw [(from_markedExpr e).pick_eq_nil (by decide)] at hx
      cases hx
  · exact .inl

theorem mem_bound_constructor {x : String}
    (hx : x ∈ (constructorScope c).pieces.pick (· == .bound)) :
    ∃ f ∈ c.fields, ∃ e ∈ f.default, .binder x ∈ e.parts := by
  rw [constructorScope, pick_join, mem_pick_markedConstructor] at hx
  rcases hx with hx | hx | ⟨f, hf, e, he, hx⟩
  · cases hx
  · cases hx
  · exact ⟨f, hf, e, he, (from_markedExpr e).of_mem .bound hx⟩

theorem mem_inserted_constructor {x : String} (hx : x ∈ (constructorScope c).pieces.inserted) :
    x = "super" ∨ ∃ f ∈ c.fields, ∃ e ∈ f.default, Insertable e.parts x := by
  rw [Marked.inserted, constructorScope, pick_join,
    mem_pick_markedConstructor] at hx
  rcases hx with hx | hx | ⟨f, hf, e, he, hx⟩
  · cases hx
  · exact .inl (List.mem_singleton.mp hx)
  · exact .inr ⟨f, hf, e, he, (from_markedExpr e).inserted hx⟩

include hclosed

/-- What a constructor binds is one of its parameters or generated. -/
theorem not_bound_constructor (hstmts : Admissible stmts) (hr : RegistryOf (classesIn stmts) r)
    (hnumbered : ∀ x, isGenerated x = true → .binder x ∈ Ir.partsOfFields c.fields →
      Numbered n n' x)
    (hapart : ∀ x ∈ ["self", "args", "kwargs"], x ∈ (classesIn stmts).map ClassSource.name →
      x ∉ (constructorScope c).pieces.inserted)
    (hy : y ∈ (constructorScope c).inserts) : y ∉ (constructorScope c).names Use.isBinding := by
  obtain ⟨x, hx | hx, rfl⟩ := Scope.mem_inserts.mp hy
  · have hname : (isGenerated x = false ∧ x ∉ ["self", "args", "kwargs"]) ∨
        x ∈ (classesIn stmts).map ClassSource.name := by
      rcases mem_inserted_constructor hx with rfl | ⟨f, hf, e, he, hinsertable⟩
      · exact .inl (by decide)
      · exact name_of_insertable hr hinsertable (hclosed f hf e he).types
    intro hmem
    obtain ⟨b, hb | hb, heq⟩ := mem_names_isBinding.mp hmem
    · have hparam := mem_param_constructor.mp hb
      obtain rfl := eq_of_meaning hparam heq
      rcases hname with hname | hname
      · exact hname.2 hparam
      · exact hapart x hparam hname hx
    · obtain ⟨f, hf, e, he, hbinder⟩ := mem_bound_constructor hb
      have hsource := hname.elim And.left (isGenerated_of_class hstmts)
      have hparts : .binder b ∈ Ir.partsOfFields c.fields :=
        List.mem_flatMap.mpr ⟨f, hf, List.mem_flatMap.mpr ⟨e, by simpa using he, hbinder⟩⟩
      have hnumber := hnumbered b ((hclosed f hf e he).binds b hbinder) hparts
      exact Scope.meaning_ne_of_numbered _ hsource hnumber heq.symm
  · cases hx

/-- What a default reads and a constructor binds is called so by the source. -/
theorem chosen_of_default {x : String} (hparam : x ∈ ["self", "args", "kwargs"])
    (hx : x ∈ (constructorScope c).pieces.pick (· == .read)) :
    x ∈ (globalsIn stmts).map GlobalSource.name ∨
      x ∈ (functionsIn stmts).map FunctionSource.name := by
  have hparams : ∀ x ∈ ["self", "args", "kwargs"], isGenerated x = false ∧
      x ∉ builtinFunctions := by
    decide
  obtain ⟨hsource, hbuiltin⟩ := hparams x hparam
  rw [constructorScope, pick_join, mem_pick_markedConstructor] at hx
  rcases hx with hx | hx | ⟨f, hf, e, he, hx⟩
  · cases hx
  · cases hx
  · rcases (hclosed f hf e he).names x ((from_markedExpr e).of_mem .read hx) hsource
      with h | h | h
    · exact .inl h
    · exact .inr h
    · exact absurd h hbuiltin

end

theorem source_of_calls {moduleName : Option String} {entry d : Ir.Method} {x : String}
    (h : Definition.Delivers moduleName entry d) (hx : x ∈ callsOf d) :
    isGenerated x = false ∧ isPrivate x = false ∧ x ≠ "self" := by
  rcases calls_of_delivers h hx with rfl | rfl <;> decide

/-- A default inserts the runtime library and binds nothing but its parameter. -/
theorem not_bound_default {moduleName : Option String} {entry d : Ir.Method}
    {e : Definition.Default} (he : e ∈ Definition.defaults) (hbody : entry.body = e.body)
    (hparams : entry.params.map Ir.Param.name = ["self"])
    (h : Definition.Delivers moduleName entry d) {owner : String}
    (hy : y ∈ (methodScope owner d).inserts) :
    y ∉ (methodScope owner d).names Use.isBinding := by
  intro hmem
  obtain ⟨x, hx | hx, rfl⟩ := Scope.mem_inserts.mp hy
  · rw [inserted_of_delivers h, hbody, inserted_default he] at hx
    cases hx
  · obtain ⟨-, hprivate, hself⟩ := source_of_calls h hx
    obtain ⟨b, hb | hb, heq⟩ := mem_names_isBinding.mp hmem
    · rw [(hasCode_method owner d).params_eq, h.params, hparams] at hb
      obtain rfl : b = "self" := List.mem_singleton.mp hb
      rw [Scope.meaning_of_not _ hprivate, Scope.meaning_of_not _ (by decide)] at heq
      exact hself heq.symm
    · exact Definition.not_binder_defaults he b (hbody ▸ binder_of_delivers h hb)

/-- A method is the code of a function of the source, or it is a default. -/
theorem codeOf_or_default {moduleName : Option String} {cls : ClassSource} {c : Ir.Component}
    (hstmts : Admissible stmts) (hr : RegistryOf (classesIn stmts) r) (hcls : cls ∈ classesIn stmts)
    (hbinds : ComponentBinds r stmts moduleName cls c) {d : Ir.Method} (hd : d ∈ c.methods)
    {s : Scope} (hs : s = methodScope c.name d) :
    (∃ fn ∈ functionsOf stmts, CodeOf fn s ∧
        ∀ x, x ∈ s.pieces.inserted ∨ x ∈ s.calls → isGenerated x = false) ∨
      ∀ y ∈ s.inserts, y ∉ s.names Use.isBinding := by
  obtain ⟨forms, hforms, hbinds, hmethods⟩ := hbinds
  obtain ⟨entry, hentry, hdelivers⟩ := hmethods d hd
  subst hs
  cases hentry with
  | @declared form interface hform heq =>
    obtain ⟨fn, hfn, himpl, hbinds⟩ :=
      exists_left_of_mem (hforms.mp (fun _ _ h h' => And.intro h h') hbinds) hform
    subst heq
    refine .inl ⟨fn, ?_, ⟨?_, fun x hx => hbinds x (binder_of_delivers hdelivers hx)⟩, ?_⟩
    · exact List.mem_append_right _ (List.mem_flatMap.mpr ⟨cls, hcls, hfn⟩)
    · rw [(hasCode_method c.name d).params_eq, hdelivers.params]
      exact himpl.params_eq
    · rintro x (hx | hx)
      · have hfrom := from_join "\n" (from_markedBlock 2 form.body)
        refine isGenerated_of_insertable hstmts hr (hfrom.inserted ?_) himpl.closed.types
        rw [inserted_of_delivers hdelivers] at hx
        rwa [Marked.inserted, pick_join]
      · exact (source_of_calls hdelivers hx).1
  | @default e he _ _ hparams hbody _ =>
    refine .inr fun y hy => not_bound_default he hbody ?_ hdelivers hy
    rw [hparams]
    rfl

end

section

variable {known : Messages} {policy : DuplicatePolicy} {moduleName : Option String}
  {stmts : List Source.Stmt} {m : Ir.Module} {t t' : Trace}

theorem not_mem_chosen_iff (hmarked : Source.areMarked stmts = true)
    (h : Yields (module known policy moduleName stmts) t m t') (y : String) :
    y ∉ chosen m ↔ y ∉ (globalsIn stmts).map GlobalSource.name ∧
      y ∉ (functionsIn stmts).map FunctionSource.name := by
  obtain ⟨r, n, n', -, -, hglobals, hfunctions, -, -⟩ := parts_of_yields_module hmarked h
  rw [chosen_eq, map_eq_of_forall₂ (hglobals.imp fun _ _ hg => hg.1),
    map_eq_of_forall₂ (hfunctions.imp fun _ _ hf => hf.1.name_eq), List.mem_append, not_or]

theorem keepsApart_of_hygienic (hmarked : Source.areMarked stmts = true)
    (h : Yields (module known policy moduleName stmts) t m t') (hm : Hygienic m) :
    KeepsApart stmts m := by
  refine ⟨fun s hs y hy => (not_mem_chosen_iff hmarked h y).mp (hm.scopes s hs y hy).2, ?_,
    fun c hc x hx => ⟨?_, ?_⟩⟩
  · intro fn _ s hs hcode y hy hmem
    exact (hm.scopes s hs y hy).1 (mem_names_of_namesIn hcode hmem)
  · intro _ hread
    refine hm.defaults c hc _ (List.mem_map_of_mem hread) ?_
    exact List.mem_map_of_mem (mem_param_constructor.mpr hx)
  · intro _ hinserted
    have hs := mem_scopes.mpr (.inr (.inr ⟨c, hc, .inr (.inl rfl)⟩))
    refine (hm.scopes _ hs _ (Scope.mem_inserts.mpr ⟨x, .inl hinserted, rfl⟩)).1 ?_
    exact mem_names_isBinding.mpr ⟨x, .inl (mem_param_constructor.mpr hx), rfl⟩

/-- Nothing that is inserted into a scope is bound there. -/
theorem not_bound_of_keepsApart (hmarked : Source.areMarked stmts = true)
    (h : Yields (module known policy moduleName stmts) t m t') (hm : KeepsApart stmts m) {s : Scope}
    (hs : s ∈ scopes m) {y : String} (hy : y ∈ s.inserts) : y ∉ s.names Use.isBinding := by
  have hstmts := (yields_module.mp h).1
  obtain ⟨r, n, n', hr, -, hglobals, hfunctions, hcomponents, hdistinct⟩ :=
    parts_of_yields_module hmarked h
  rcases mem_scopes.mp hs with
    ⟨g, hg, rfl⟩ | ⟨f, hf, rfl⟩ | ⟨c, hc, rfl | rfl | ⟨d, hd, rfl⟩⟩
  · obtain ⟨source, -, -, hclosed⟩ := exists_left_of_mem hglobals hg
    refine not_bound_global hstmts hr hclosed
      (fun x hx hbinder => hdistinct.numbered x hx ?_) hy
    exact List.mem_append_left _ (List.mem_append_left _ (List.mem_flatMap.mpr ⟨g, hg, hbinder⟩))
  · obtain ⟨fn, hfn, himpl, hbinds⟩ := exists_left_of_mem hfunctions hf
    have hcode := hasCode_function f
    have hcodeOf : CodeOf fn (functionScope f) :=
      ⟨hcode.params_eq.trans himpl.params_eq, fun x hx => hbinds x (hcode.bound x hx)⟩
    refine not_bound_of_codeOf hcodeOf (fun x hx => ?_)
      (fun x hx hgenerated => hdistinct.numbered x hgenerated ?_) hy
      (hm.bodies fn (List.mem_append_left _ hfn) _ hs hcodeOf y hy)
    · exact isGenerated_of_insertable hstmts hr
        (hcode.inserted x (hx.resolve_right List.not_mem_nil)) himpl.closed.types
    · refine List.mem_append_left _ (List.mem_append_right _ ?_)
      exact List.mem_flatMap.mpr ⟨f, hf, hcode.bound x hx⟩
  · have hnone : (headScope c).pieces.pick Use.isBinding = [] := by
      unfold headScope
      split_ifs <;> simp [markedGuard, markedHead]
    simp [Scope.names, hnone]
  · obtain ⟨cls, -, hclosed, -⟩ := exists_left_of_mem hcomponents hc
    refine not_bound_constructor hclosed.defaults hstmts hr
      (fun x hx hbinder => hdistinct.numbered x hx ?_)
      (fun x hx => (hm.constructors c hc x hx).2) hy
    refine List.mem_append_right _ (List.mem_flatMap.mpr ⟨c, hc, ?_⟩)
    exact List.mem_append_left _ hbinder
  · obtain ⟨cls, hcls, -, hbinds⟩ := exists_left_of_mem hcomponents hc
    rcases codeOf_or_default hstmts hr hcls hbinds hd rfl with ⟨fn, hfn, hcodeOf, hsource⟩ | hfree
    · refine not_bound_of_codeOf hcodeOf hsource
        (fun x hx hgenerated => hdistinct.numbered x hgenerated ?_) hy
        (hm.bodies fn hfn _ hs hcodeOf y hy)
      refine List.mem_append_right _ (List.mem_flatMap.mpr ⟨c, hc, ?_⟩)
      refine List.mem_append_right _ ?_
      exact List.mem_flatMap.mpr ⟨d, hd, (hasCode_method c.name d).bound x hx⟩
    · exact hfree y hy

theorem hygienic_of_keepsApart (hmarked : Source.areMarked stmts = true)
    (h : Yields (module known policy moduleName stmts) t m t') (hm : KeepsApart stmts m) :
    Hygienic m := by
  refine ⟨fun s hs y hy => ⟨not_bound_of_keepsApart hmarked h hm hs hy, ?_⟩, ?_⟩
  · exact (not_mem_chosen_iff hmarked h y).mpr (hm.modules s hs y hy)
  · intro c hc y hread hparam
    obtain ⟨r, n, n', -, -, -, -, hcomponents, -⟩ := parts_of_yields_module hmarked h
    obtain ⟨cls, -, hclosed, -⟩ := exists_left_of_mem hcomponents hc
    obtain ⟨x, hx, rfl⟩ := List.mem_map.mp hread
    obtain ⟨b, hb, heq⟩ := List.mem_map.mp hparam
    have hb := mem_param_constructor.mp hb
    obtain rfl := eq_of_meaning hb heq
    exact (hm.constructors c hc x hb).1 (chosen_of_default hclosed.defaults hb hx) hx

end

/-- **Generated code is hygienic exactly if the source keeps its names apart.** The text is made up
of marked chunks, and all names in it stand in the scopes of the module. -/
theorem hygienic_iff_apart {known : Messages} {policy : DuplicatePolicy}
    {sourcePath moduleName : Option String} {text : String} {m : Ir.Module}
    {stmts : List Source.Stmt}
    (h : (compile known policy sourcePath moduleName text).result = .ok m)
    (hparse : Source.parse text = some stmts) :
    (∀ hostModule sourceName, generate m hostModule sourceName = Text.joinWith "\n\n\n"
      (opening m hostModule sourceName :: (markedChunks m).map Marked.text) ++ "\n") ∧
    (∀ kind x, x ∈ (markedChunks m).flatMap (pick kind) ↔
      ∃ s ∈ scopes m, x ∈ s.pieces.pick kind) ∧
    (Hygienic m ↔ KeepsApart stmts m) := by
  obtain ⟨stmts', t', hparse', hmodule⟩ := exists_module_of_compile h
  obtain rfl : stmts = stmts' := Option.some.inj (hparse.symm.trans hparse')
  have hmarked := Source.areMarked_of_parse hparse
  exact ⟨generate_eq m, fun _ _ => mem_pick_markedChunks,
    keepsApart_of_hygienic hmarked hmodule, hygienic_of_keepsApart hmarked hmodule⟩

/-- A component with a field, and a function that tests a type. -/
def tagged : String :=
  "n: int = 2\n" ++
  "def f(x: object):\n" ++
  "    match x:\n" ++
  "        case Time():\n" ++
  "            return n\n" ++
  "class A:\n" ++
  "    k: int = n\n"

theorem tagged_is_hygienic :
    ∃ m, (compile .standard .keepLast none none tagged).result = .ok m ∧ Hygienic m ∧
      ∀ x ∈ ["isinstance", "Time", "MonoBehaviour", "hostcomp_runtime"],
        x ∈ (scopes m).flatMap Scope.inserts := by
  obtain ⟨m, stmts, h, hparse, hapart, hnames⟩ :
      ∃ m stmts, (compile .standard .keepLast none none tagged).result = .ok m ∧
        Source.parse tagged = some stmts ∧ KeepsApart stmts m ∧
        ∀ x ∈ ["isinstance", "Time", "MonoBehaviour", "hostcomp_runtime"],
          x ∈ (scopes m).flatMap Scope.inserts :=
    exists_ok_some (by decide +kernel)
  exact ⟨m, h, (hygienic_iff_apart h hparse).2.2.mpr hapart, hnames⟩

/-- A default with a variable that is called like a parameter of constructors. -/
def hiddenGlobal : String := "kwargs: int = 3\nclass A:\n    x: int = kwargs\n"

theorem hiddenGlobal_is_captured :
    ∃ m, (compile .standard .keepLast none none hiddenGlobal).result = .ok m ∧ ¬ Hygienic m :=
  exists_ok (by decide +kernel)

/-- The constructor of `A` reads the private class as the variable. -/
def privateClass : String :=
  "_A__B: int = 3\n" ++
  "class __B:\n" ++
  "    pass\n" ++
  "class A:\n" ++
  "    x: object = __B\n"

example : ∃ m, (compile .standard .keepLast none none privateClass).result = .ok m ∧
    ¬ Hygienic m ∧ "_A__B" ∈ (scopes m).flatMap Scope.inserts :=
  exists_ok (by decide +kernel)

end Compile

end Componentry
