import Mathlib.Data.String.Basic
import Componentry.Proofs.MarkedText
import Componentry.Proofs.ReadBack
import Componentry.Proofs.SpelledCode

/-!
# The imports of a module

The names that a module imports are collected from its code, and its text is written by other
functions. The marks of the text say which types it names.

**Theorem (`mem_names_markedChunks`).** The types that the text names are the names that are
collected, as long as dictionaries have as many values as keys.

**Theorem (`host_import_exact`).** So the names on the import line of an accepted source's module
are the types that its text uses, in order and once each, less those that need no import.
-/

namespace Componentry.Emit

open Ir

open Marked

/-! ## Expressions -/

theorem mem_names_zipWith {ps qs : List Marked} (h : ps.length = qs.length) (x : String) :
    x ∈ (List.zipWith markedEntry ps qs).flatMap (pick Use.isType) ↔
      x ∈ ps.flatMap (pick Use.isType) ∨ x ∈ qs.flatMap (pick Use.isType) := by
  induction ps generalizing qs with
  | nil =>
    obtain rfl : qs = [] := List.length_eq_zero_iff.mp h.symm
    simp
  | cons p ps ih =>
    cases qs with
    | nil => simp at h
    | cons q qs =>
      simp only [List.zipWith_cons_cons, List.flatMap_cons, List.mem_append, markedEntry,
        pick_append, pick_plain, List.append_nil, ih (Nat.succ.inj h)]
      tauto

theorem length_markedExprs (es : List Expr) : (markedExprs es).length = es.length := by
  induction es with
  | nil => rfl
  | cons e rest ih => simp [markedExprs, ih]

theorem types_markedLiteral (value : Literal) : (markedLiteral value).pick Use.isType = [] := by
  cases value with
  | float x => cases x <;> simp [markedLiteral]
  | _ => simp [markedLiteral]

mutual

theorem mem_names_markedExpr : ∀ e : Expr, e.Spelled → ∀ x : String,
    x ∈ (markedExpr e).pick Use.isType ↔ x ∈ e.hostNames
  | .const _, _, x => by simp [markedExpr, Expr.hostNames, types_markedLiteral]
  | .var _, _, x => by simp [markedExpr, Expr.hostNames]
  | .typeRef _ _, _, x => by simp [markedExpr, Expr.hostNames]
  | .attr obj _, h, x => by
    rw [markedExpr, Expr.hostNames]
    split_ifs <;> simp [mem_names_markedExpr obj h.2]
  | .call func args, h, x => by
    simp [markedExpr, Expr.hostNames, pick_join, -List.mem_flatMap, mem_names_markedExpr func h.1,
      mem_names_markedExprs args h.2]
  | .unary _ value, h, x => by simp [markedExpr, Expr.hostNames, mem_names_markedExpr value h.2]
  | .binary _ left right, h, x => by
    simp [markedExpr, Expr.hostNames, mem_names_markedExpr left h.2.1,
      mem_names_markedExpr right h.2.2]
  | .ifExpr condition yes no, h, x => by
    simp only [markedExpr, Expr.hostNames, pick_append, pick_plain, List.nil_append,
      List.append_nil, List.mem_append, mem_names_markedExpr condition h.1,
      mem_names_markedExpr yes h.2.1, mem_names_markedExpr no h.2.2]
    tauto
  | .isInstance value _ codeName, h, x => by
    simp [markedExpr, Expr.hostNames, mem_names_markedExpr value h.2, or_comm]
  | .annotated value _, h, x => by
    rw [markedExpr, Expr.hostNames, mem_names_markedExpr value h]
  | .letIn [] body, h, x => by
    simp [markedExpr, Expr.hostNames, hostNamesOfBindings, mem_names_markedExpr body h.2]
  | .letIn (b :: bindings) body, h, x => by
    simp [markedExpr, Expr.hostNames, pick_join, -List.mem_flatMap,
      mem_names_markedBindings (b :: bindings) h.1, mem_names_markedExpr body h.2]
  | .list items, h, x => by
    simp [markedExpr, Expr.hostNames, pick_join, -List.mem_flatMap, mem_names_markedExprs items h]
  | .tuple items, h, x => by
    rw [markedExpr, Expr.hostNames, pick_markedItems, mem_names_markedExprs items h]
  | .dict keys values, h, x => by
    have hlength : (markedExprs keys).length = (markedExprs values).length := by
      rw [length_markedExprs, length_markedExprs]
      exact h.1
    simp only [markedExpr, Expr.hostNames, pick_append, pick_plain, pick_join, List.nil_append,
      List.append_nil, List.mem_append, mem_names_zipWith hlength,
      mem_names_markedExprs keys h.2.1, mem_names_markedExprs values h.2.2]
  | .subscript value index, h, x => by
    simp [markedExpr, Expr.hostNames, mem_names_markedExpr value h.1,
      mem_names_markedExpr index h.2]

theorem mem_names_markedExprs : ∀ es : List Expr, AllSpelled es → ∀ x : String,
    x ∈ (markedExprs es).flatMap (pick Use.isType) ↔ x ∈ hostNamesOfList es
  | [], _, x => by simp [markedExprs, hostNamesOfList]
  | e :: rest, h, x => by
    rw [markedExprs, hostNamesOfList, List.flatMap_cons, List.mem_append, List.mem_append,
      mem_names_markedExpr e h.1, mem_names_markedExprs rest h.2]

theorem mem_names_markedBindings : ∀ bs : List (String × Expr), BindingsSpelled bs →
    ∀ x : String, x ∈ (markedBindings bs).flatMap (pick Use.isType) ↔ x ∈ hostNamesOfBindings bs
  | [], _, x => by simp [markedBindings, hostNamesOfBindings]
  | (name, e) :: rest, h, x => by
    rw [markedBindings, hostNamesOfBindings, List.flatMap_cons, List.mem_append, List.mem_append,
      mem_names_markedBindings rest h.2]
    simp [mem_names_markedExpr e h.1.2]

end

/-! ## Statements -/

theorem mem_names_markedTarget {e : Expr} (h : e.Spelled) (x : String) :
    x ∈ (markedTarget e).pick Use.isType ↔ x ∈ e.hostNames := by
  cases e with
  | var name => simp [markedTarget, Expr.hostNames]
  | _ => exact mem_names_markedExpr _ h x

mutual

theorem mem_names_markedStmt : ∀ (indent : Nat) (s : Stmt), s.Spelled → ∀ x : String,
    x ∈ (markedStmt indent s).flatMap (pick Use.isType) ↔ x ∈ s.hostNames
  | _, .assign target value, h, x => by
    simp [markedStmt, Stmt.hostNames, mem_names_markedTarget h.1,
      mem_names_markedExpr value h.2]
  | _, .augAssign target op value, h, x => by
    simp [markedStmt, Stmt.hostNames, mem_names_markedTarget h.2.1,
      mem_names_markedExpr value h.2.2]
  | _, .exprStmt value, h, x => by
    simp [markedStmt, Stmt.hostNames, mem_names_markedExpr value h]
  | indent, .ifElse condition body orelse, h, x => by
    simp [markedStmt, Stmt.hostNames, pick_markedOrPass, mem_names_markedExpr condition h.1,
      mem_names_markedStmts (indent + 1) body h.2.1, mem_names_markedOtherwise indent orelse h.2.2,
      -List.mem_flatMap]
  | indent, .whileDo condition body, h, x => by
    simp [markedStmt, Stmt.hostNames, pick_markedOrPass, mem_names_markedExpr condition h.1,
      mem_names_markedStmts (indent + 1) body h.2, -List.mem_flatMap]
  | indent, .forIn var iterable body, h, x => by
    simp [markedStmt, Stmt.hostNames, pick_markedOrPass, mem_names_markedExpr iterable h.2.1,
      mem_names_markedStmts (indent + 1) body h.2.2, -List.mem_flatMap]
  | _, .ret none, _, x => by simp [markedStmt, Stmt.hostNames, hostNamesOfOption]
  | _, .ret (some value), h, x => by
    simp [markedStmt, Stmt.hostNames, hostNamesOfOption, mem_names_markedExpr value (h value rfl)]
  | _, .brk, _, x => by simp [markedStmt, Stmt.hostNames]
  | _, .cont, _, x => by simp [markedStmt, Stmt.hostNames]

theorem mem_names_markedStmts : ∀ (indent : Nat) (body : List Stmt), BlockSpelled body →
    ∀ x : String, x ∈ (markedStmts indent body).flatMap (pick Use.isType) ↔
      x ∈ hostNamesOfBlock body
  | _, [], _, x => by simp [markedStmts, hostNamesOfBlock]
  | indent, s :: rest, h, x => by
    rw [markedStmts, hostNamesOfBlock, List.flatMap_append, List.mem_append, List.mem_append,
      mem_names_markedStmt indent s h.1, mem_names_markedStmts indent rest h.2]

theorem mem_names_markedOtherwise : ∀ (indent : Nat) (orelse : List Stmt), BlockSpelled orelse →
    ∀ x : String, x ∈ (markedOtherwise indent orelse).flatMap (pick Use.isType) ↔
      x ∈ hostNamesOfBlock orelse
  | _, [], _, x => by simp [markedOtherwise, hostNamesOfBlock]
  | indent, s :: rest, h, x => by
    have helse : x ∈ (plain (pad indent ++ "else:") ::
        (markedStmt (indent + 1) s ++ markedStmts (indent + 1) rest)).flatMap (pick Use.isType) ↔
          x ∈ hostNamesOfBlock (s :: rest) := by
      rw [hostNamesOfBlock, List.flatMap_cons, List.flatMap_append, pick_plain, List.nil_append,
        List.mem_append, List.mem_append, mem_names_markedStmt (indent + 1) s h.1,
        mem_names_markedStmts (indent + 1) rest h.2]
    cases rest with
    | cons t rest => cases s <;> exact helse
    | nil =>
      cases s with
      | ifElse condition body orelse =>
        simp [markedOtherwise, hostNamesOfBlock, Stmt.hostNames, pick_markedOrPass,
          mem_names_markedExpr condition h.1.1, mem_names_markedStmts (indent + 1) body h.1.2.1,
          mem_names_markedOtherwise indent orelse h.1.2.2, -List.mem_flatMap]
      | _ => exact helse

end

theorem mem_names_markedBlock {body : List Stmt} (h : BlockSpelled body) (indent : Nat)
    (x : String) :
    x ∈ (markedBlock indent body).flatMap (pick Use.isType) ↔ x ∈ hostNamesOfBlock body := by
  rw [pick_markedBlock, mem_names_markedStmts indent body h]

/-! ## Modules -/

theorem mem_names_markedComponent {c : Component} (h : c.Spelled) (x : String) :
    x ∈ (markedComponent c).pick Use.isType ↔ x = c.baseCodeName ∨ x ∈ c.hostNames := by
  have hguard : x ∉ (markedGuard c.name).pick Use.isType := by simp [markedGuard]
  have hhead : x ∈ (markedHead c).pick Use.isType ↔ x = c.baseCodeName := by simp [markedHead]
  have hconstructor : x ∈ (markedConstructor c).flatMap (pick Use.isType) ↔
      x ∈ c.fields.flatMap fun f => hostNamesOfOption f.default := by
    have hdefault (f : Field) (hf : f ∈ c.fields) :
        (∃ e ∈ f.default, x ∈ (markedExpr e).pick Use.isType) ↔
        x ∈ hostNamesOfOption f.default := by
      cases he : f.default with
      | none => simp [hostNamesOfOption]
      | some e => simp [hostNamesOfOption, mem_names_markedExpr e ((h.words f hf).2 e he)]
    rw [mem_pick_markedConstructor, List.mem_flatMap]
    simp only [constructorParams, pick_append, pick_plain, pick_named, Use.isType]
    simpa using exists_congr fun f => and_congr_right (hdefault f)
  have hmethods : (∃ m ∈ c.implementations.flatMap Implementation.methods,
        x ∈ (markedMethod 1 m).flatMap (pick Use.isType)) ↔
      x ∈ c.implementations.flatMap fun i => i.methods.flatMap fun m =>
        hostNamesOfBlock m.body := by
    rw [← List.flatMap_assoc, List.mem_flatMap]
    refine exists_congr fun m => and_congr_right fun hm => ?_
    rw [pick_markedMethod, ← mem_names_markedBlock (h.bodies m hm).2.body 2]
    simp
  rw [mem_pick_markedComponent, hhead, hconstructor, hmethods, Component.hostNames, List.mem_append]
  simp [hguard]

/-- **The marked pieces are the collected names.** -/
theorem mem_names_markedChunks {m : Module} (h : m.Spelled) (x : String) :
    x ∈ (markedChunks m).flatMap (pick Use.isType) ↔ x ∈ m.hostNames := by
  have hglobals : x ∈ (m.globals.map markedGlobal).flatMap (pick Use.isType) ↔
      x ∈ m.globals.flatMap fun g => hostNamesOfOption g.value := by
    simp only [List.flatMap_map, List.mem_flatMap]
    refine exists_congr fun g => and_congr_right fun hg => ?_
    cases he : g.value with
    | none => simp [markedGlobal, markedOrNone, hostNamesOfOption, he]
    | some e =>
      simp [markedGlobal, markedOrNone, hostNamesOfOption, he,
        mem_names_markedExpr e ((h.globals g hg).2 e he)]
  have hfunctions : x ∈ (m.functions.map markedFunction).flatMap (pick Use.isType) ↔
      x ∈ m.functions.flatMap fun f => hostNamesOfBlock f.body := by
    simp only [List.flatMap_map, List.mem_flatMap (b := x)]
    refine exists_congr fun f => and_congr_right fun hf => ?_
    rw [pick_markedFunction, ← mem_names_markedBlock (h.functions f hf).body 1]
    simp
  have hcomponents : x ∈ (m.components.map markedComponent).flatMap (pick Use.isType) ↔
      x ∈ m.components.map Component.baseCodeName ∨
      x ∈ m.components.flatMap Component.hostNames := by
    simp only [List.flatMap_map, List.mem_flatMap, List.mem_map, ← exists_or]
    refine exists_congr fun c => ?_
    rw [← and_or_left, eq_comm (b := x)]
    exact and_congr_right fun hc => mem_names_markedComponent (h.components c hc) x
  simp only [markedChunks, Module.hostNames, List.flatMap_append, List.mem_append, hglobals,
    hfunctions, hcomponents]
  tauto

/-! ## The import line -/

theorem pairwise_insertBy {name : String} {names : List String} (h : names.Pairwise (· ≤ ·)) :
    (Text.insertBy id name names).Pairwise (· ≤ ·) := by
  induction names with
  | nil => simp [Text.insertBy]
  | cons b rest ih =>
    obtain ⟨hb, hrest⟩ := List.pairwise_cons.mp h
    rw [Text.insertBy]
    split_ifs with hlt
    · refine List.pairwise_cons.mpr ⟨fun x hx => ?_, ih hrest⟩
      rcases Text.mem_insertBy.mp hx with rfl | hx
      · exact le_of_lt hlt
      · exact hb x hx
    · have hle : name ≤ b := not_lt.mp hlt
      refine List.pairwise_cons.mpr ⟨fun x hx => ?_, h⟩
      rcases List.mem_cons.mp hx with rfl | hx
      · exact hle
      · exact hle.trans (hb x hx)

theorem pairwise_sortNames (names : List String) : (Text.sortNames names).Pairwise (· ≤ ·) := by
  rw [Text.sortNames]
  induction names with
  | nil => exact .nil
  | cons name rest ih => exact pairwise_insertBy ih

theorem pairwise_lt_sortNames {names : List String} (h : names.Nodup) :
    (Text.sortNames names).Pairwise (· < ·) := by
  have hnodup : (Text.sortNames names).Nodup := (Text.perm_sortBy id names).nodup_iff.mpr h
  exact ((pairwise_sortNames names).and hnodup).imp fun ⟨hle, hne⟩ => lt_of_le_of_ne hle hne

theorem pairwise_importNames (m : Module) : (importNames m).Pairwise (· < ·) :=
  pairwise_lt_sortNames ((Definition.nodup_eraseDups _).filter _)

theorem mem_importNames {m : Module} {x : String} : x ∈ importNames m ↔
    x ∈ m.hostNames ∧ x ∉ m.components.map Component.name ∧ x ∉ Host.ambientNames := by
  simp [importNames, Text.sortNames]

/-- The lines that every module starts with. -/
def heading (sourceName : Option String) : List String :=
  [ "# Generated by hostcomp" ++
      (match nonEmpty sourceName with
        | some name => " from " ++ name
        | none => "") ++ ". Do not edit.",
    "import hostcomp.runtime as " ++ Definition.runtimeAlias ]

theorem opening_eq (m : Module) {host : String} (hhost : host ≠ "") (sourceName : Option String) :
    opening m (some host) sourceName = Text.joinWith "\n" (heading sourceName ++
      if importNames m = [] then []
      else ["from " ++ host ++ " import " ++ commas (importNames m)]) := by
  have hsome : nonEmpty (some host) = some host := by simp [nonEmpty, hhost]
  rw [opening, hsome]
  cases h : importNames m with
  | nil => rfl
  | cons name rest => rfl

/-- **The import line is exact.** The text of an accepted source's module is its heading, the line
that imports the names from the host unless there are none, and the marked text. The names are in
order and once each the types that the marked text names, less the module's own components and the
types that are always there. -/
theorem host_import_exact {known : Messages} {policy : DuplicatePolicy}
    {sourcePath moduleName : Option String} {text : String} {m : Module}
    (h : (compile known policy sourcePath moduleName text).result = .ok m) {host : String}
    (hhost : host ≠ "") (sourceName : Option String) :
    ∃ names : List String, names.Pairwise (· < ·) ∧
      (∀ x, x ∈ names ↔ x ∈ (markedChunks m).flatMap Marked.names ∧
        x ∉ m.components.map Component.name ∧
        x ∉ ["object", "str", "type", "int", "float", "bool"]) ∧
      generate m (some host) sourceName =
        Text.joinWith "\n\n\n"
          (Text.joinWith "\n" (heading sourceName ++
              if names = [] then [] else ["from " ++ host ++ " import " ++ commas names])
            :: (markedChunks m).map Marked.text) ++ "\n" := by
  refine ⟨importNames m, pairwise_importNames m, fun x => ?_, ?_⟩
  · rw [mem_importNames, ← mem_names_markedChunks (spelled_of_compile h)]
    rfl
  · rw [generate_eq, opening_eq m hhost]

/-- A source that uses a type as a value, in a test and as a base. -/
def watcher : String :=
  "def f(x: object):\n" ++
  "    match x:\n" ++
  "        case Time():\n" ++
  "            return Camera\n" ++
  "        case str():\n" ++
  "            return Watcher\n" ++
  "class Watcher:\n" ++
  "    def Start(self):\n" ++
  "        return Time\n"

theorem watcher_imports :
    ∃ m names rest, (compile .standard .keepLast none none watcher).result = .ok m ∧
      names.Pairwise (· < ·) ∧ (∀ x, x ∈ names ↔ x ∈ ["Time", "Camera", "MonoBehaviour", "Time"]) ∧
      generate m (some "UnityEngine") none =
        Text.joinWith "\n\n\n"
          (Text.joinWith "\n" (heading none ++ ["from UnityEngine import " ++ commas names]) ::
            rest) ++ "\n" := by
  obtain ⟨m, h, hused⟩ : ∃ m, (compile .standard .keepLast none none watcher).result = .ok m ∧
      ((markedChunks m).flatMap Marked.names).filter (fun x =>
        x ∉ m.components.map Component.name ∧
          x ∉ ["object", "str", "type", "int", "float", "bool"]) =
        ["Time", "Camera", "MonoBehaviour", "Time"] :=
    exists_ok (by decide +kernel)
  obtain ⟨names, hsorted, hmem, htext⟩ :=
    host_import_exact h (by decide : "UnityEngine" ≠ "") none
  have hnames : ∀ x, x ∈ names ↔ x ∈ ["Time", "Camera", "MonoBehaviour", "Time"] := by
    intro x
    rw [hmem, ← hused, List.mem_filter, decide_eq_true_eq]
  have hne : names ≠ [] := List.ne_nil_of_mem ((hnames "Time").mpr List.mem_cons_self)
  rw [if_neg hne] at htext
  exact ⟨m, names, _, h, hsorted, hnames, htext⟩

end Componentry.Emit
