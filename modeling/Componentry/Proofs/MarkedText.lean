import Componentry.Emit.Module
import Componentry.Proofs.Naming

/-!
# Generated text in pieces

Generated text is written once more, in pieces: a piece is plain text, or it is a name, marked by
why it stands there. What the text says about names is read off the marks.

**Theorem (`generate_eq`).** The pieces of a module make up the text that is generated for it.

**Theorem (`from_markedExpr`, `from_markedStmt`).** The marks of code come from its parts: variables
that are read or bound are variables of the code, and types are types that it refers to. Besides
these, only two functions of the language are named.
-/

namespace Componentry.Emit

open Ir

/-! ## Pieces -/

/-- Why a name stands in generated text. -/
inductive Use where
  /-- The base of a class. -/
  | base
  /-- A type that stands for itself. -/
  | reference
  /-- The type that a generated test asks for. -/
  | test
  /-- A function of the language that the compiler calls. -/
  | helper
  /-- A variable that is read. -/
  | read
  /-- A variable that gets a value. -/
  | bound
  /-- A parameter. -/
  | param
  /-- What a definition of the module defines. -/
  | defined
deriving DecidableEq

namespace Use

/-- A type is named. -/
@[simp] def isType : Use → Bool
  | base | reference | test => true
  | _ => false

/-- The compiler has chosen the name. -/
@[simp] def isInserted (use : Use) : Bool := use.isType || use == helper

/-- The name is looked up when the text runs. -/
@[simp] def isLookup (use : Use) : Bool := use.isInserted || use == read

/-- The name is given a meaning inside of a function. -/
@[simp] def isBinding (use : Use) : Bool := use == bound || use == param

end Use

/-- A piece of generated text: plain, or a name. -/
inductive Fragment where
  | plain (text : String)
  | named (use : Use) (name : String)

/-- Generated text in pieces. -/
abbrev Marked := List Fragment

/-- Text in which no name is marked. -/
def plain (text : String) : Marked := [.plain text]

def named (use : Use) (name : String) : Marked := [.named use name]

/-- The name in a piece, if it stands there for a reason of the given kind. -/
def Fragment.name? (kind : Use → Bool) : Fragment → Option String
  | .plain _ => none
  | .named use name => if kind use then some name else none

namespace Marked

/-- The text that the pieces make up. -/
def text : Marked → String
  | [] => ""
  | .plain s :: rest => s ++ text rest
  | .named _ name :: rest => name ++ text rest

/-- The names that stand in the text for a reason of the given kind, in order and with repetitions.
-/
def pick (kind : Use → Bool) (p : Marked) : List String := p.filterMap (Fragment.name? kind)

/-- The types that the text names. -/
def names : Marked → List String := pick Use.isType

/-- The names in the text that the compiler has chosen. -/
def inserted : Marked → List String := pick Use.isInserted

/-- Puts a separator between items. -/
def join (sep : String) : List Marked → Marked
  | [] => []
  | [p] => p
  | p :: rest => p ++ plain sep ++ join sep rest

@[simp] theorem text_plain (s : String) : text (plain s) = s := by simp [plain, text]

@[simp] theorem text_named (use : Use) (name : String) : text (Emit.named use name) = name := by
  simp [Emit.named, text]

@[simp] theorem text_append (p q : Marked) : text (p ++ q) = text p ++ text q := by
  induction p with
  | nil => simp [text]
  | cons piece rest ih => cases piece <;> simp [text, ih, String.append_assoc]

theorem text_join (sep : String) (items : List Marked) :
    text (join sep items) = Text.joinWith sep (items.map text) := by
  induction items with
  | nil => rfl
  | cons p rest ih =>
    cases rest with
    | nil => rfl
    | cons q rest => simp only [join, text_append, text_plain, ih, List.map_cons, Text.joinWith]

section

variable {kind : Use → Bool}

@[simp] theorem pick_plain (s : String) : pick kind (plain s) = [] := rfl

@[simp] theorem pick_named (use : Use) (name : String) :
    pick kind (Emit.named use name) = if kind use then [name] else [] := by
  simp only [pick, Emit.named, List.filterMap_cons, Fragment.name?, List.filterMap_nil]
  split_ifs <;> rfl

@[simp] theorem pick_append (p q : Marked) : pick kind (p ++ q) = pick kind p ++ pick kind q :=
  List.filterMap_append

theorem pick_join (sep : String) (items : List Marked) :
    pick kind (join sep items) = items.flatMap (pick kind) := by
  induction items with
  | nil => rfl
  | cons p rest ih =>
    cases rest with
    | nil => simp [join]
    | cons q rest => simp [join, ih]

theorem mem_pick {p : Marked} {x : String} :
    x ∈ pick kind p ↔ ∃ use, kind use = true ∧ .named use x ∈ p := by
  rw [pick, List.mem_filterMap]
  constructor
  · rintro ⟨piece, hpiece, hx⟩
    cases piece with
    | plain s => cases hx
    | named use y =>
      rw [Fragment.name?] at hx
      split_ifs at hx with hkind
      obtain rfl := Option.some.inj hx
      exact ⟨use, hkind, hpiece⟩
  · rintro ⟨use, hkind, hmem⟩
    exact ⟨_, hmem, if_pos hkind⟩

end

end Marked

open Marked

/-! ## Where marks come from -/

/-- The parts that a mark comes from. -/
def Use.From (ps : List Part) (x : String) : Use → Prop
  | .read => .var x ∈ ps
  | .bound => .binder x ∈ ps
  | .helper => x = "isinstance" ∨ x = "float"
  | use => use.isType = true ∧ ∃ typeName, .hostType typeName x ∈ ps

/-- All marks come from the parts. -/
def Marked.From (ps : List Part) (p : Marked) : Prop :=
  ∀ use x, .named use x ∈ p → use.From ps x

section

variable {ps qs : List Part} {p q : Marked}

theorem Marked.From.mono (h : p.From ps) (hsub : ∀ part ∈ ps, part ∈ qs) : p.From qs := by
  intro use x hx
  have hfrom := h use x hx
  cases use with
  | helper => exact hfrom
  | read | bound => exact hsub _ hfrom
  | _ => exact ⟨hfrom.1, hfrom.2.imp fun _ => hsub _⟩

theorem Marked.From.left (h : p.From ps) : p.From (ps ++ qs) :=
  h.mono fun _ => List.mem_append_left _

theorem Marked.From.right (h : p.From qs) : p.From (ps ++ qs) :=
  h.mono fun _ => List.mem_append_right _

@[simp] theorem from_plain (s : String) : (plain s).From ps := by
  intro use x hx
  simp [plain] at hx

@[simp] theorem from_named {use : Use} {x : String} : (named use x).From ps ↔ use.From ps x := by
  simp [named, Marked.From]

@[simp] theorem from_append : (p ++ q).From ps ↔ p.From ps ∧ q.From ps := by
  simp only [Marked.From, List.mem_append, or_imp, forall_and]

theorem from_join {items : List Marked} (sep : String) (h : ∀ p ∈ items, p.From ps) :
    (join sep items).From ps := by
  induction items with
  | nil => simp [join, Marked.From]
  | cons p rest ih =>
    obtain ⟨hp, hrest⟩ := List.forall_mem_cons.mp h
    cases rest with
    | nil => exact hp
    | cons q rest => simpa [join, hp] using ih hrest

end

/-! ## Expressions -/

def markedItems : List Marked → Marked
  | [p] => plain "(" ++ p ++ plain ",)"
  | items => plain "(" ++ join ", " items ++ plain ")"

def markedLiteral : Literal → Marked
  | .float (.finite negative mantissa exponent) =>
    plain (literal (.float (.finite negative mantissa exponent)))
  | .float x => named .helper "float" ++ plain "('" ++ plain (x.text ++ "')")
  | value => plain (literal value)

def markedEntry (key value : Marked) : Marked := key ++ plain ": " ++ value

mutual

/-- The text of an expression in pieces. -/
def markedExpr : Expr → Marked
  | .const value => markedLiteral value
  | .var name => named .read name
  | .typeRef _ codeName => named .reference codeName
  | .attr obj field =>
    (if isConst obj then plain "(" ++ markedExpr obj ++ plain ")" else markedExpr obj) ++
      plain "." ++ plain field
  | .call func args => markedExpr func ++ plain "(" ++ join ", " (markedExprs args) ++ plain ")"
  | .unary op value =>
    plain (if op = "not" then "(not " else "(" ++ op) ++ markedExpr value ++ plain ")"
  | .binary op left right =>
    plain "(" ++ markedExpr left ++ plain (" " ++ op ++ " ") ++ markedExpr right ++ plain ")"
  | .ifExpr condition yes no =>
    plain "(" ++ markedExpr yes ++ plain " if " ++ markedExpr condition ++ plain " else " ++
      markedExpr no ++ plain ")"
  | .isInstance value _ codeName =>
    named .helper "isinstance" ++ plain "(" ++ markedExpr value ++ plain ", " ++
      named .test codeName ++ plain ")"
  | .annotated value _ => markedExpr value
  | .letIn [] body => markedExpr body
  | .letIn bindings body =>
    plain "(" ++ join ", " (markedBindings bindings ++ [markedExpr body]) ++ plain ")[-1]"
  | .list items => plain "[" ++ join ", " (markedExprs items) ++ plain "]"
  | .tuple items => markedItems (markedExprs items)
  | .dict keys values =>
    plain "\x7b" ++ join ", " (List.zipWith markedEntry (markedExprs keys) (markedExprs values)) ++
      plain "\x7d"
  | .subscript value index => markedExpr value ++ plain "[" ++ markedExpr index ++ plain "]"

def markedExprs : List Expr → List Marked
  | [] => []
  | e :: rest => markedExpr e :: markedExprs rest

def markedBindings : List (String × Expr) → List Marked
  | [] => []
  | (name, e) :: rest =>
    (plain "(" ++ named .bound name ++ plain " := " ++ markedExpr e ++ plain ")") ::
      markedBindings rest

end

theorem text_markedItems (items : List Marked) :
    (markedItems items).text = Tree.encloseItems (items.map text) := by
  rcases items with _ | ⟨p, _ | ⟨q, rest⟩⟩
  · simp [markedItems, Tree.encloseItems, text_join, String.append_assoc]
  · simp [markedItems, Tree.encloseItems, String.append_assoc]
  · simp [markedItems, Tree.encloseItems, text_join, String.append_assoc]

theorem pick_markedItems (kind : Use → Bool) (items : List Marked) :
    (markedItems items).pick kind = items.flatMap (pick kind) := by
  rcases items with _ | ⟨p, _ | ⟨q, rest⟩⟩
  · simp [markedItems, pick_join]
  · simp [markedItems]
  · simp [markedItems, pick_join]

theorem from_markedItems {ps : List Part} {items : List Marked} (h : ∀ p ∈ items, p.From ps) :
    (markedItems items).From ps := by
  rcases items with _ | ⟨p, _ | ⟨q, rest⟩⟩
  · simpa [markedItems] using from_join ", " h
  · simpa [markedItems] using h
  · simpa [markedItems] using from_join ", " h

theorem text_markedLiteral (value : Literal) : (markedLiteral value).text = literal value := by
  have hfloat : "float('" = "float" ++ "('" := by decide
  cases value with
  | float x =>
    cases x with
    | finite => simp [markedLiteral]
    | _ =>
      simp only [markedLiteral, literal, text_append, text_named, text_plain]
      rw [hfloat]
      exact String.append_assoc.symm
  | _ => simp [markedLiteral]

theorem from_markedLiteral (value : Literal) : (markedLiteral value).From [] := by
  cases value with
  | float x => cases x <;> simp [markedLiteral, Use.From]
  | _ => simp [markedLiteral]

theorem text_zipWith (ps qs : List Marked) :
    (List.zipWith markedEntry ps qs).map text =
      List.zipWith (fun k v => k ++ ": " ++ v) (ps.map text) (qs.map text) := by
  simp [List.map_zipWith, List.zipWith_map, markedEntry, String.append_assoc]

theorem from_zipWith {parts : List Part} {ps qs : List Marked} (hp : ∀ p ∈ ps, p.From parts)
    (hq : ∀ q ∈ qs, q.From parts) : ∀ p ∈ List.zipWith markedEntry ps qs, p.From parts := by
  rw [← List.map_uncurry_zip_eq_zipWith]
  refine List.forall_mem_map.mpr fun entry hentry => ?_
  obtain ⟨hkey, hvalue⟩ := List.of_mem_zip hentry
  exact from_append.mpr ⟨from_append.mpr ⟨hp _ hkey, from_plain _⟩, hq _ hvalue⟩

mutual

theorem text_markedExpr : ∀ e : Expr, (markedExpr e).text = expr e
  | .const value => by rw [markedExpr, expr, text_markedLiteral]
  | .var name => by simp [markedExpr, expr]
  | .typeRef _ codeName => by simp [markedExpr, expr]
  | .attr obj field => by
    rw [markedExpr, expr]
    split_ifs <;> simp only [text_append, text_plain, text_markedExpr obj]
  | .call func args => by
    simp [markedExpr, expr, commas, text_join, text_markedExpr func, text_markedExprs args,
      String.append_assoc]
  | .unary op value => by
    rw [markedExpr, expr, unary]
    split_ifs <;> simp [text_markedExpr value, String.append_assoc]
  | .binary op left right => by
    simp [markedExpr, expr, text_markedExpr left, text_markedExpr right, String.append_assoc]
  | .ifExpr condition yes no => by
    simp [markedExpr, expr, text_markedExpr condition, text_markedExpr yes, text_markedExpr no,
      String.append_assoc]
  | .isInstance value _ codeName => by
    have hstart : "isinstance(" = "isinstance" ++ "(" := by decide
    simp only [markedExpr, expr, text_append, text_named, text_plain, text_markedExpr value]
    rw [hstart]
  | .annotated value _ => by rw [markedExpr, expr, text_markedExpr value]
  | .letIn [] body => by rw [markedExpr, expr, text_markedExpr body]
  | .letIn (b :: bindings) body => by
    simp [markedExpr, expr, commas, text_join, text_markedBindings (b :: bindings),
      text_markedExpr body, String.append_assoc]
  | .list items => by
    simp [markedExpr, expr, commas, text_join, text_markedExprs items, String.append_assoc]
  | .tuple items => by rw [markedExpr, expr, text_markedItems, text_markedExprs items]
  | .dict keys values => by
    simp only [markedExpr, expr, commas, text_append, text_plain, text_join, text_zipWith,
      text_markedExprs keys, text_markedExprs values]
  | .subscript value index => by
    simp [markedExpr, expr, text_markedExpr value, text_markedExpr index, String.append_assoc]

theorem text_markedExprs : ∀ es : List Expr, (markedExprs es).map text = exprs es
  | [] => rfl
  | e :: rest => by
    rw [markedExprs, exprs, List.map_cons, text_markedExpr e, text_markedExprs rest]

theorem text_markedBindings : ∀ bs : List (String × Expr),
    (markedBindings bs).map text = bindingTexts bs
  | [] => rfl
  | (name, e) :: rest => by
    simp [markedBindings, bindingTexts, text_markedExpr e, text_markedBindings rest,
      String.append_assoc]

end

mutual

theorem from_markedExpr : ∀ e : Expr, (markedExpr e).From e.parts
  | .const value => by
    rw [markedExpr, Expr.parts]
    exact from_markedLiteral value
  | .var name => by simp [markedExpr, Expr.parts, Use.From]
  | .typeRef typeName codeName => by simp [markedExpr, Expr.parts, Use.From]
  | .attr obj field => by
    rw [markedExpr, Expr.parts]
    split_ifs <;> simp [from_markedExpr obj]
  | .call func args => by
    simp [markedExpr, Expr.parts, (from_markedExpr func).left,
      (from_join _ (from_markedExprs args)).right]
  | .unary op value => by simp [markedExpr, Expr.parts, from_markedExpr value]
  | .binary op left right => by
    simp [markedExpr, Expr.parts, (from_markedExpr left).left, (from_markedExpr right).right]
  | .ifExpr condition yes no => by
    simp only [markedExpr, Expr.parts, from_append, from_plain, true_and, and_true]
    exact ⟨⟨(from_markedExpr yes).right.left, (from_markedExpr condition).left.left⟩,
      (from_markedExpr no).right⟩
  | .isInstance value typeName codeName => by
    simp [markedExpr, Expr.parts, Use.From, (from_markedExpr value).left]
  | .annotated value typeName => by
    rw [markedExpr, Expr.parts]
    exact (from_markedExpr value).left
  | .letIn [] body => by
    rw [markedExpr, Expr.parts]
    exact (from_markedExpr body).right
  | .letIn (b :: bindings) body => by
    have hitems : ∀ p ∈ markedBindings (b :: bindings) ++ [markedExpr body],
        p.From (partsOfBindings (b :: bindings) ++ body.parts) := by
      refine List.forall_mem_append.mpr ⟨fun p hp => ?_, ?_⟩
      · exact (from_markedBindings (b :: bindings) p hp).left
      · exact List.forall_mem_singleton.mpr (from_markedExpr body).right
    simpa [markedExpr, Expr.parts] using from_join ", " hitems
  | .list items => by simpa [markedExpr, Expr.parts] using from_join ", " (from_markedExprs items)
  | .tuple items => by
    rw [markedExpr, Expr.parts]
    exact from_markedItems (from_markedExprs items)
  | .dict keys values => by
    have hentries := from_zipWith (fun p hp => (from_markedExprs keys p hp).left)
      fun q hq => (from_markedExprs values q hq).right
    simpa [markedExpr, Expr.parts] using from_join ", " hentries
  | .subscript value index => by
    simp [markedExpr, Expr.parts, (from_markedExpr value).left, (from_markedExpr index).right]

theorem from_markedExprs : ∀ es : List Expr, ∀ p ∈ markedExprs es, p.From (partsOfList es)
  | [] => by simp [markedExprs]
  | e :: rest => by
    rw [markedExprs, partsOfList]
    refine List.forall_mem_cons.mpr ⟨(from_markedExpr e).left, fun p hp => ?_⟩
    exact (from_markedExprs rest p hp).right

theorem from_markedBindings : ∀ bs : List (String × Expr),
    ∀ p ∈ markedBindings bs, p.From (partsOfBindings bs)
  | [] => by simp [markedBindings]
  | (name, e) :: rest => by
    rw [markedBindings, partsOfBindings]
    refine List.forall_mem_cons.mpr ⟨?_, fun p hp => (from_markedBindings rest p hp).right⟩
    have hvalue := (from_markedExpr e).mono fun _ => List.mem_cons_of_mem (Part.binder name)
    simpa [Use.From] using hvalue.left

end

/-! ## Statements -/

/-- The marked lines of a block, which must not be empty. -/
def markedOrPass (indent : Nat) (lines : List Marked) : List Marked :=
  if lines.isEmpty then [plain (pad indent ++ "pass")] else lines

/-- What is assigned to. A plain name gets the value. -/
def markedTarget : Expr → Marked
  | .var name => named .bound name
  | e => markedExpr e

mutual

/-- The lines of a statement in pieces. -/
def markedStmt (indent : Nat) : Stmt → List Marked
  | .assign target value =>
    [plain (pad indent) ++ markedTarget target ++ plain " = " ++ markedExpr value]
  | .augAssign target op value =>
    [plain (pad indent) ++ markedTarget target ++ plain (" " ++ op ++ "= ") ++ markedExpr value]
  | .exprStmt value => [plain (pad indent) ++ markedExpr value]
  | .ifElse condition body orelse =>
    (plain (pad indent ++ "if ") ++ markedExpr condition ++ plain ":") ::
      markedOrPass (indent + 1) (markedStmts (indent + 1) body) ++ markedOtherwise indent orelse
  | .whileDo condition body =>
    (plain (pad indent ++ "while ") ++ markedExpr condition ++ plain ":") ::
      markedOrPass (indent + 1) (markedStmts (indent + 1) body)
  | .forIn var iterable body =>
    (plain (pad indent ++ "for ") ++ named .bound var ++ plain " in " ++ markedExpr iterable ++
      plain ":") :: markedOrPass (indent + 1) (markedStmts (indent + 1) body)
  | .ret none => [plain (pad indent ++ "return")]
  | .ret (some value) => [plain (pad indent ++ "return ") ++ markedExpr value]
  | .brk => [plain (pad indent ++ "break")]
  | .cont => [plain (pad indent ++ "continue")]

def markedStmts (indent : Nat) : List Stmt → List Marked
  | [] => []
  | s :: rest => markedStmt indent s ++ markedStmts indent rest

/-- The lines of the other branch of a conditional statement in pieces. -/
def markedOtherwise (indent : Nat) : List Stmt → List Marked
  | [] => []
  | [.ifElse condition body orelse] =>
    (plain (pad indent ++ "elif ") ++ markedExpr condition ++ plain ":") ::
      markedOrPass (indent + 1) (markedStmts (indent + 1) body) ++ markedOtherwise indent orelse
  | s :: rest =>
    plain (pad indent ++ "else:") :: (markedStmt (indent + 1) s ++ markedStmts (indent + 1) rest)

end

theorem text_markedOrPass (indent : Nat) (lines : List Marked) :
    (markedOrPass indent lines).map text = orPass indent (lines.map text) := by
  cases lines <;> simp [markedOrPass, orPass]

theorem from_markedOrPass {ps : List Part} {lines : List Marked} (indent : Nat)
    (h : ∀ p ∈ lines, p.From ps) : ∀ p ∈ markedOrPass indent lines, p.From ps := by
  unfold markedOrPass
  split_ifs
  · exact List.forall_mem_singleton.mpr (from_plain _)
  · exact h

theorem text_markedTarget (e : Expr) : (markedTarget e).text = expr e := by
  cases e with
  | var name => simp [markedTarget, expr]
  | _ => exact text_markedExpr _

theorem from_markedTarget (e : Expr) : (markedTarget e).From (e.binders ++ e.parts) := by
  cases e with
  | var name => simp [markedTarget, Expr.binders, Use.From]
  | _ => exact (from_markedExpr _).right

mutual

theorem text_markedStmt :
    ∀ (indent : Nat) (s : Stmt), (markedStmt indent s).map text = stmt indent s
  | _, .assign target value => by
    simp [markedStmt, stmt, text_markedTarget, text_markedExpr, String.append_assoc]
  | _, .augAssign target op value => by
    simp [markedStmt, stmt, text_markedTarget, text_markedExpr, String.append_assoc]
  | _, .exprStmt value => by simp [markedStmt, stmt, text_markedExpr]
  | indent, .ifElse condition body orelse => by
    simp [markedStmt, stmt, text_markedExpr, text_markedOrPass, text_markedStmts (indent + 1) body,
      text_markedOtherwise indent orelse, String.append_assoc]
  | indent, .whileDo condition body => by
    simp [markedStmt, stmt, text_markedExpr, text_markedOrPass, text_markedStmts (indent + 1) body,
      String.append_assoc]
  | indent, .forIn var iterable body => by
    simp [markedStmt, stmt, text_markedExpr, text_markedOrPass, text_markedStmts (indent + 1) body,
      String.append_assoc]
  | _, .ret none => by simp [markedStmt, stmt]
  | _, .ret (some value) => by simp [markedStmt, stmt, text_markedExpr, String.append_assoc]
  | _, .brk => by simp [markedStmt, stmt]
  | _, .cont => by simp [markedStmt, stmt]

theorem text_markedStmts : ∀ (indent : Nat) (body : List Stmt),
    (markedStmts indent body).map text = stmts indent body
  | _, [] => rfl
  | indent, s :: rest => by
    rw [markedStmts, stmts, List.map_append, text_markedStmt indent s, text_markedStmts indent rest]

theorem text_markedOtherwise : ∀ (indent : Nat) (orelse : List Stmt),
    (markedOtherwise indent orelse).map text = otherwise indent orelse
  | _, [] => by rw [markedOtherwise, otherwise, List.map_nil]
  | indent, s :: rest => by
    have helse : (plain (pad indent ++ "else:") ::
        (markedStmt (indent + 1) s ++ markedStmts (indent + 1) rest)).map text =
          (pad indent ++ "else:") :: (stmt (indent + 1) s ++ stmts (indent + 1) rest) := by
      rw [List.map_cons, List.map_append, text_plain, text_markedStmt (indent + 1) s,
        text_markedStmts (indent + 1) rest]
    cases rest with
    | cons t rest => cases s <;> exact helse
    | nil =>
      cases s with
      | ifElse condition body orelse =>
        simp [markedOtherwise, otherwise, text_markedExpr, text_markedOrPass,
          text_markedStmts (indent + 1) body, text_markedOtherwise indent orelse,
          String.append_assoc]
      | _ => exact helse

end

mutual

theorem from_markedStmt : ∀ (indent : Nat) (s : Stmt), ∀ p ∈ markedStmt indent s, p.From s.parts
  | _, .assign target value => by
    simp [markedStmt, Stmt.parts, -List.append_assoc, (from_markedTarget target).left,
      (from_markedExpr value).right]
  | _, .augAssign target op value => by
    simp [markedStmt, Stmt.parts, -List.append_assoc, (from_markedTarget target).left,
      (from_markedExpr value).right]
  | _, .exprStmt value => by simp [markedStmt, Stmt.parts, from_markedExpr value]
  | indent, .ifElse condition body orelse => by
    rw [markedStmt, Stmt.parts]
    refine List.forall_mem_append.mpr
      ⟨List.forall_mem_cons.mpr ⟨?_, fun p hp => ?_⟩, fun p hp => ?_⟩
    · simpa using (from_markedExpr condition).left.left
    · exact (from_markedOrPass _ (from_markedStmts _ body) p hp).right.left
    · exact (from_markedOtherwise indent orelse p hp).right
  | indent, .whileDo condition body => by
    rw [markedStmt, Stmt.parts]
    refine List.forall_mem_cons.mpr ⟨?_, fun p hp => ?_⟩
    · simpa using (from_markedExpr condition).left
    · exact (from_markedOrPass _ (from_markedStmts _ body) p hp).right
  | indent, .forIn var iterable body => by
    rw [markedStmt, Stmt.parts]
    refine List.forall_mem_cons.mpr ⟨?_, fun p hp => ?_⟩
    · have hiterable := (from_markedExpr iterable).mono fun _ =>
        List.mem_cons_of_mem (Part.binder var)
      simpa [Use.From] using hiterable.left
    · exact (from_markedOrPass _ (from_markedStmts _ body) p hp).right
  | _, .ret none => by simp [markedStmt]
  | _, .ret (some value) => by
    simp [markedStmt, Stmt.parts, partsOfOption, from_markedExpr value]
  | _, .brk => by simp [markedStmt]
  | _, .cont => by simp [markedStmt]

theorem from_markedStmts : ∀ (indent : Nat) (body : List Stmt),
    ∀ p ∈ markedStmts indent body, p.From (partsOfBlock body)
  | _, [] => by simp [markedStmts]
  | indent, s :: rest => by
    rw [markedStmts, partsOfBlock]
    exact List.forall_mem_append.mpr ⟨fun p hp => (from_markedStmt indent s p hp).left,
      fun p hp => (from_markedStmts indent rest p hp).right⟩

theorem from_markedOtherwise : ∀ (indent : Nat) (orelse : List Stmt),
    ∀ p ∈ markedOtherwise indent orelse, p.From (partsOfBlock orelse)
  | _, [] => by simp [markedOtherwise]
  | indent, s :: rest => by
    have helse : ∀ p ∈ plain (pad indent ++ "else:") ::
        (markedStmt (indent + 1) s ++ markedStmts (indent + 1) rest),
          p.From (partsOfBlock (s :: rest)) := by
      refine List.forall_mem_cons.mpr ⟨from_plain _, List.forall_mem_append.mpr ⟨?_, ?_⟩⟩
      · exact fun p hp => (from_markedStmt (indent + 1) s p hp).left
      · exact fun p hp => (from_markedStmts (indent + 1) rest p hp).right
    cases rest with
    | cons t rest => cases s <;> exact helse
    | nil =>
      cases s with
      | ifElse condition body orelse =>
        rw [markedOtherwise, partsOfBlock, Stmt.parts]
        refine List.forall_mem_append.mpr
          ⟨List.forall_mem_cons.mpr ⟨?_, fun p hp => ?_⟩, fun p hp => ?_⟩
        · simpa using (from_markedExpr condition).left.left.left
        · exact (from_markedOrPass _ (from_markedStmts _ body) p hp).right.left.left
        · exact (from_markedOtherwise indent orelse p hp).right.left
      | _ => exact helse

end

def markedBlock (indent : Nat) (body : List Stmt) : List Marked :=
  markedOrPass indent (markedStmts indent body)

theorem text_markedBlock (indent : Nat) (body : List Stmt) :
    (markedBlock indent body).map text = block indent body := by
  rw [markedBlock, text_markedOrPass, text_markedStmts, block]

theorem from_markedBlock (indent : Nat) (body : List Stmt) :
    ∀ p ∈ markedBlock indent body, p.From (partsOfBlock body) :=
  from_markedOrPass indent (from_markedStmts indent body)

/-! ## Modules -/

def markedOrNone : Option Expr → Marked
  | none => plain "None"
  | some e => markedExpr e

def markedGlobal (g : Global) : Marked :=
  named .defined g.name ++ plain " = " ++ markedOrNone g.value

def markedParams (params : List Param) : Marked :=
  plain "(" ++ join ", " (params.map fun p => named .param p.name) ++ plain "):"

def markedFunction (f : Function) : Marked :=
  join "\n" ((plain "def " ++ named .defined f.name ++ markedParams f.params) ::
    markedBlock 1 f.body)

def markedMethod (indent : Nat) (m : Method) : List Marked :=
  (plain (pad indent ++ "def " ++ m.name) ++ markedParams m.params) ::
    markedBlock (indent + 1) m.body

def markedMethods (indent : Nat) : List Method → List Marked
  | [] => []
  | [m] => markedMethod indent m
  | m :: rest => markedMethod indent m ++ plain "" :: markedMethods indent rest

def markedImplementation (i : Implementation) : List Marked :=
  plain "" :: plain (pad 1 ++ "# " ++ i.interface) :: markedMethods 1 i.methods

/-- The parameters of a constructor in pieces. -/
def constructorParams : Marked :=
  plain "(" ++ named .param "self" ++ plain ", *" ++ named .param "args" ++ plain ", **" ++
    named .param "kwargs" ++ plain "):"

def markedConstructor (c : Component) : List Marked :=
  (plain (pad 1 ++ "def __init__") ++ constructorParams)
    :: (plain (pad 2) ++ named .helper "super" ++ plain "().__init__(*args, **kwargs)")
    :: c.fields.filterMap fun f =>
      f.default.map fun e => plain (pad 2 ++ "self." ++ f.name ++ " = ") ++ markedExpr e

/-- The line that a class starts with, in pieces. -/
def markedHead (c : Component) : Marked :=
  plain "class " ++ named .defined c.name ++ plain "(" ++ named .base c.baseCodeName ++ plain "):"

def markedClass (c : Component) : List Marked :=
  markedHead c
    :: (metadata c).map (fun line => plain (pad 1 ++ line))
    ++ c.fields.map (fun f => plain (pad 1 ++ f.name ++ " = None"))
    ++ plain "" :: markedConstructor c
    ++ c.implementations.flatMap markedImplementation

/-- The line that lets a component be defined only once, in pieces. -/
def markedGuard (name : String) : Marked :=
  plain ("if \"" ++ name ++ "\" not in ") ++ named .helper "globals" ++ plain "():"

def markedGuarded (name : String) (lines : List Marked) : List Marked :=
  markedGuard name :: lines.map fun line =>
    if line.text = "" then line else plain indentUnit ++ line

def markedComponent (c : Component) : Marked :=
  join "\n" (if c.constant then markedGuarded c.name (markedClass c) else markedClass c)

/-- The text of a module behind its opening, in pieces. -/
def markedChunks (m : Module) : List Marked :=
  m.globals.map markedGlobal ++ m.functions.map markedFunction ++ m.components.map markedComponent

theorem text_markedParams (params : List Param) :
    (markedParams params).text = "(" ++ commas (params.map Param.name) ++ "):" := by
  simp [markedParams, commas, text_join, Function.comp_def, String.append_assoc]

theorem text_markedMethods (indent : Nat) (ms : List Method) :
    (markedMethods indent ms).map text = methods indent ms := by
  have hmethod (m : Method) : (markedMethod indent m).map text = method indent m := by
    simp [markedMethod, method, functionHead, text_markedParams, text_markedBlock,
      String.append_assoc]
  induction ms with
  | nil => rfl
  | cons m rest ih =>
    cases rest with
    | nil => exact hmethod m
    | cons m' rest =>
      rw [markedMethods, methods, List.map_append, List.map_cons, hmethod m, ih, text_plain]
      · simp
      · simp

theorem text_markedClass (c : Component) : (markedClass c).map text = classLines c := by
  have himplementation (i : Implementation) :
      (markedImplementation i).map text = implementation i := by
    simp [markedImplementation, implementation, text_markedMethods]
  have hparams : "def __init__" ++ constructorParams.text =
      "def __init__(self, *args, **kwargs):" := by
    decide +kernel
  have hsuper : "super" ++ "().__init__(*args, **kwargs)" =
      "super().__init__(*args, **kwargs)" := by
    decide
  have hconstructor : (markedConstructor c).map text = constructorLines c := by
    simp only [markedConstructor, constructorLines, List.map_cons, text_append, text_plain,
      text_named, List.map_filterMap, Option.map_map, Function.comp_def, text_markedExpr]
    rw [String.append_assoc, hparams, String.append_assoc, hsuper]
  simp [markedClass, markedHead, classLines, Function.comp_def, List.map_flatMap, himplementation,
    hconstructor, String.append_assoc]

theorem text_markedGuarded (name : String) (lines : List Marked) :
    (markedGuarded name lines).map text = guarded name (lines.map text) := by
  have hguard : "\" not in " ++ ("globals" ++ "():") = "\" not in globals():" := by decide
  simp only [markedGuarded, markedGuard, guarded, List.map_cons, List.map_map, text_append,
    text_named, text_plain]
  refine congrArg₂ _ ?_ (List.map_congr_left fun line _ => ?_)
  · simp only [String.append_assoc, hguard]
  · simp only [Function.comp_apply]
    split_ifs <;> simp

theorem text_markedComponent (c : Component) : (markedComponent c).text = component c := by
  rw [markedComponent, component, text_join]
  split_ifs
  · rw [text_markedGuarded, text_markedClass]
  · rw [text_markedClass]

/-- The pieces make up the generated text, but for the opening. -/
theorem text_markedChunks (m : Module) :
    (markedChunks m).map text =
      m.globals.map global ++ m.functions.map function ++ m.components.map component := by
  have hglobal (g : Global) : (markedGlobal g).text = global g := by
    cases h : g.value <;>
      simp [markedGlobal, global, markedOrNone, exprOrNone, h, text_markedExpr, String.append_assoc]
  have hfunction (f : Function) : (markedFunction f).text = function f := by
    simp [markedFunction, function, functionHead, text_join, text_markedParams, text_markedBlock,
      String.append_assoc]
  simp [markedChunks, Function.comp_def, hglobal, hfunction, text_markedComponent]

/-- **The pieces make up the generated text.** -/
theorem generate_eq (m : Module) (hostModule sourceName : Option String) :
    generate m hostModule sourceName = Text.joinWith "\n\n\n"
      (opening m hostModule sourceName :: (markedChunks m).map text) ++ "\n" := by
  rw [generate, chunks, text_markedChunks, List.cons_append, List.cons_append]

/-! ## Names in a module -/

section

variable {kind : Use → Bool} {x : String}

@[simp] theorem pick_markedParams (params : List Param) :
    (markedParams params).pick kind = if kind .param then params.map Param.name else [] := by
  simp only [markedParams, pick_append, pick_plain, pick_join, List.flatMap_map, pick_named,
    List.nil_append, List.append_nil]
  split_ifs <;> simp [List.map_eq_flatMap]

theorem pick_markedOrPass (indent : Nat) (lines : List Marked) :
    (markedOrPass indent lines).flatMap (pick kind) = lines.flatMap (pick kind) := by
  cases lines <;> simp [markedOrPass]

theorem pick_markedBlock (indent : Nat) (body : List Stmt) :
    (markedBlock indent body).flatMap (pick kind) = (markedStmts indent body).flatMap (pick kind) :=
  pick_markedOrPass indent _

/-- No names stand in the blanks in front of a line. -/
theorem pick_indented (line : Marked) :
    (if line.text = "" then line else plain indentUnit ++ line).pick kind = line.pick kind := by
  split_ifs <;> simp

theorem pick_markedFunction (f : Function) :
    (markedFunction f).pick kind = (if kind .defined then [f.name] else []) ++
      ((if kind .param then f.params.map Param.name else []) ++
        (markedBlock 1 f.body).flatMap (pick kind)) := by
  simp [markedFunction, pick_join]

theorem pick_markedMethod (m : Method) :
    (markedMethod 1 m).flatMap (pick kind) =
      (if kind .param then m.params.map Param.name else []) ++
      (markedBlock 2 m.body).flatMap (pick kind) := by
  simp [markedMethod]

theorem mem_pick_markedMethods {ms : List Method} :
    x ∈ (markedMethods 1 ms).flatMap (pick kind) ↔
      ∃ m ∈ ms, x ∈ (markedMethod 1 m).flatMap (pick kind) := by
  induction ms with
  | nil => simp [markedMethods]
  | cons m rest ih =>
    rw [List.exists_mem_cons_iff, ← ih]
    cases rest with
    | nil => simp [markedMethods]
    | cons m' rest => simp [markedMethods, -List.mem_flatMap]

theorem mem_pick_markedConstructor {c : Component} :
    x ∈ (markedConstructor c).flatMap (pick kind) ↔ x ∈ constructorParams.pick kind ∨
      x ∈ (named .helper "super").pick kind ∨
      ∃ f ∈ c.fields, ∃ e ∈ f.default, x ∈ (markedExpr e).pick kind := by
  simp only [markedConstructor, List.flatMap_cons, List.mem_append, pick_append, pick_plain,
    List.nil_append, List.append_nil, List.mem_flatMap, List.mem_filterMap]
  refine or_congr_right (or_congr_right ⟨?_, ?_⟩)
  · rintro ⟨line, ⟨f, hf, hline⟩, hx⟩
    obtain ⟨e, he, rfl⟩ := Option.map_eq_some_iff.mp hline
    exact ⟨f, hf, e, he, by simpa using hx⟩
  · rintro ⟨f, hf, e, he, hx⟩
    exact ⟨_, ⟨f, hf, Option.map_eq_some_iff.mpr ⟨e, he, rfl⟩⟩, by simpa using hx⟩

/-- The names in the text of a component stand on its first lines, in its constructor, and in its
methods. -/
theorem mem_pick_markedComponent {c : Component} :
    x ∈ (markedComponent c).pick kind ↔
      (c.constant = true ∧ x ∈ (markedGuard c.name).pick kind) ∨ x ∈ (markedHead c).pick kind ∨
        x ∈ (markedConstructor c).flatMap (pick kind) ∨
        ∃ m ∈ c.implementations.flatMap Implementation.methods,
          x ∈ (markedMethod 1 m).flatMap (pick kind) := by
  have hguarded (lines : List Marked) : (markedGuarded c.name lines).flatMap (pick kind) =
      (markedGuard c.name).pick kind ++ lines.flatMap (pick kind) := by
    simp [markedGuarded, List.flatMap_map, pick_indented]
  have himplementation (i : Implementation) : x ∈ (markedImplementation i).flatMap (pick kind) ↔
      ∃ m ∈ i.methods, x ∈ (markedMethod 1 m).flatMap (pick kind) := by
    rw [← mem_pick_markedMethods, markedImplementation, List.flatMap_cons, List.flatMap_cons]
    rfl
  have himplementations : x ∈ (c.implementations.flatMap markedImplementation).flatMap (pick kind) ↔
      ∃ m ∈ c.implementations.flatMap Implementation.methods,
        x ∈ (markedMethod 1 m).flatMap (pick kind) := by
    rw [List.flatMap_assoc, List.mem_flatMap]
    simp only [himplementation]
    constructor
    · rintro ⟨i, hi, m, hm, hx⟩
      exact ⟨m, List.mem_flatMap.mpr ⟨i, hi, hm⟩, hx⟩
    · rintro ⟨m, hm, hx⟩
      obtain ⟨i, hi, hm⟩ := List.mem_flatMap.mp hm
      exact ⟨i, hi, m, hm, hx⟩
  have hmetadata :
      ((metadata c).map fun line => plain (pad 1 ++ line)).flatMap (pick kind) = [] := by
    simp
  have hattributes :
      (c.fields.map fun f => plain (pad 1 ++ f.name ++ " = None")).flatMap (pick kind) = [] := by
    simp
  have hclass : x ∈ (markedClass c).flatMap (pick kind) ↔ x ∈ (markedHead c).pick kind ∨
      x ∈ (markedConstructor c).flatMap (pick kind) ∨
      ∃ m ∈ c.implementations.flatMap Implementation.methods,
        x ∈ (markedMethod 1 m).flatMap (pick kind) := by
    rw [← himplementations, markedClass]
    simp only [List.cons_append, List.flatMap_cons, List.flatMap_append, pick_plain, hmetadata,
      hattributes, List.nil_append, List.mem_append]
  rw [markedComponent, pick_join, ← hclass]
  split_ifs with hconstant
  · rw [hguarded, List.mem_append]
    simp [hconstant]
  · simp [hconstant]

end

end Componentry.Emit
