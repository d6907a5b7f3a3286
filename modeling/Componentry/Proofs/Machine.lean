import Componentry.Ir.Basic
import Componentry.Proofs.Yields
import Mathlib.Logic.Relation

/-!
# Running generated code

A `Machine` is what generated code runs on: the values and what the host does with them. `eval`
gives an expression its value, and `advance` takes one step of a body of statements. Both keep,
beside the world that the host changes, the list of all type tests that generated code has made.

No statement assigns a module-level name, so the values of those names are fixed while code runs.
The names that a `letIn` binds are local to its body.
-/

namespace Componentry.Run

/-! ## Machines -/

/-- What the host does when it is asked: it changes the world and answers or fails. -/
abbrev Effect (World Fault α : Type) := World → Except Fault α × World

/-- The values of a host and what can be done with them. -/
structure Machine where
  Value : Type
  World : Type
  Fault : Type
  /-- Whether a value is an instance of the type with the given full name. -/
  isInstance : Value → String → Bool
  constant : Ir.Literal → Value
  /-- The type with the given full name as a value. -/
  typeValue : String → Value
  /-- The values of module-level names and built-in functions. -/
  global : String → Option Value
  /-- The fault of reading a name without a value. -/
  unbound : String → Fault
  /-- The fault of code that is no program, such as a `break` outside loops. -/
  malformed : Fault
  truth : Value → Effect World Fault Bool
  attr : Value → String → Effect World Fault Value
  item : Value → Value → Effect World Fault Value
  call : Value → List Value → Effect World Fault Value
  unary : String → Value → Effect World Fault Value
  binary : String → Value → Value → Effect World Fault Value
  augment : String → Value → Value → Effect World Fault Value
  list : List Value → Effect World Fault Value
  tuple : List Value → Effect World Fault Value
  dict : List (Value × Value) → Effect World Fault Value
  setAttr : Value → String → Value → Effect World Fault Unit
  setItem : Value → Value → Value → Effect World Fault Unit
  iterator : Value → Effect World Fault Value
  /-- The next item of an iterator, if there is one. -/
  next : Value → Effect World Fault (Option Value)
  /-- Truth values are what they are called. -/
  truth_bool : ∀ b w, truth (constant (.bool b)) w = (.ok b, w)

/-- The state of the host and the type tests made so far: each a value with a full name. -/
structure Memory (M : Machine) where
  world : M.World
  tests : List (M.Value × String) := []

/-- A piece of a run. -/
abbrev Action (M : Machine) := ExceptT M.Fault (StateM (Memory M))

/-- The values of local names. -/
abbrev Locals (M : Machine) := String → Option M.Value

variable {M : Machine}

def Memory.tested (m : Memory M) (tests : List (M.Value × String)) : Memory M :=
  { m with tests := m.tests ++ tests }

def Locals.set (ρ : Locals M) (name : String) (value : M.Value) : Locals M := fun x =>
  if x = name then some value else ρ x

/-- The value of a name: a local one hides a module-level one. -/
def Locals.read (ρ : Locals M) (name : String) : Option M.Value := (ρ name).or (M.global name)

/-- Asks the host. -/
def perform {α : Type} (effect : Effect M.World M.Fault α) : Action M α := fun m =>
  let (answer, world) := effect m.world
  (answer, { m with world })

def readName (ρ : Locals M) (name : String) : Action M M.Value :=
  match ρ.read name with
  | some v => pure v
  | none => throw (M.unbound name)

/-- Tests whether a value is an instance of a type. -/
def testType (v : M.Value) (typeName : String) : Action M M.Value := do
  modify (·.tested [(v, typeName)])
  return M.constant (.bool (M.isInstance v typeName))

@[simp] theorem Memory.tested_nil (m : Memory M) : m.tested [] = m := by
  simp [Memory.tested]

@[simp] theorem Memory.tested_tested (m : Memory M) (as bs : List (M.Value × String)) :
    (m.tested as).tested bs = m.tested (as ++ bs) := by
  simp [Memory.tested]

@[simp] theorem Locals.read_set_self (ρ : Locals M) (x : String) (v : M.Value) :
    (ρ.set x v).read x = some v := by
  simp [Locals.set, Locals.read]

theorem Locals.read_set_of_ne (ρ : Locals M) {x y : String} (v : M.Value) (h : y ≠ x) :
    (ρ.set x v).read y = ρ.read y := by
  simp [Locals.set, Locals.read, h]

theorem runFrom_readName {ρ : Locals M} {x : String} {v : M.Value} {m : Memory M}
    (h : ρ.read x = some v) : runFrom (readName ρ x) m = (.ok v, m) := by
  simp [readName, h]

@[simp] theorem runFrom_truth_bool (b : Bool) (m : Memory M) :
    runFrom (perform (M.truth (M.constant (.bool b)))) m = (.ok b, m) := by
  simp [runFrom, perform, ExceptT.run, StateT.run, M.truth_bool]

/-! ## Expressions -/

/-- Evaluates keys and values in turn; what has no partner is left out. -/
def inPairs : List (Action M M.Value) → List (Action M M.Value) →
    Action M (List (M.Value × M.Value))
  | k :: ks, v :: vs => do
    let key ← k
    let value ← v
    return (key, value) :: (← inPairs ks vs)
  | _, _ => pure []

/-- Evaluates from left to right. -/
def inOrder : List (Action M M.Value) → Action M (List M.Value)
  | [] => pure []
  | a :: rest => do
    let v ← a
    return v :: (← inOrder rest)

mutual

def eval (M : Machine) : Ir.Expr → Locals M → Action M M.Value
  | .const value, _ => pure (M.constant value)
  | .var name, ρ => readName ρ name
  | .typeRef typeName _, _ => pure (M.typeValue typeName)
  | .attr obj field, ρ => do
    let v ← eval M obj ρ
    perform (M.attr v field)
  | .call func args, ρ => do
    let f ← eval M func ρ
    let vs ← inOrder (evalEach M args ρ)
    perform (M.call f vs)
  | .unary op value, ρ => do
    let v ← eval M value ρ
    perform (M.unary op v)
  | .binary op left right, ρ => do
    let v ← eval M left ρ
    -- The connectives evaluate their right side only if the left one does not decide.
    if op = "and" then
      if ← perform (M.truth v) then eval M right ρ else return v
    else if op = "or" then
      if ← perform (M.truth v) then return v else eval M right ρ
    else
      let w ← eval M right ρ
      perform (M.binary op v w)
  | .ifExpr condition yes no, ρ => do
    let v ← eval M condition ρ
    if ← perform (M.truth v) then eval M yes ρ else eval M no ρ
  | .isInstance value typeName _, ρ => do
    let v ← eval M value ρ
    testType v typeName
  | .annotated value _, ρ => eval M value ρ
  | .letIn bindings body, ρ => do
    let ρ ← evalBindings M bindings ρ
    eval M body ρ
  | .list items, ρ => do
    let vs ← inOrder (evalEach M items ρ)
    perform (M.list vs)
  | .tuple items, ρ => do
    let vs ← inOrder (evalEach M items ρ)
    perform (M.tuple vs)
  | .dict keys values, ρ => do
    let entries ← inPairs (evalEach M keys ρ) (evalEach M values ρ)
    perform (M.dict entries)
  | .subscript value index, ρ => do
    let v ← eval M value ρ
    let i ← eval M index ρ
    perform (M.item v i)

def evalEach (M : Machine) : List Ir.Expr → Locals M → List (Action M M.Value)
  | [], _ => []
  | e :: rest, ρ => eval M e ρ :: evalEach M rest ρ

/-- The local names after bindings, each of which sees those before it. -/
def evalBindings (M : Machine) : List (String × Ir.Expr) → Locals M → Action M (Locals M)
  | [], ρ => pure ρ
  | (name, e) :: rest, ρ => do
    let v ← eval M e ρ
    evalBindings M rest (ρ.set name v)

end

/-! ## Statements -/

/-- A loop that is being run, with the statements after it. -/
inductive Loop (M : Machine) where
  | whileDo (condition : Ir.Expr) (body after : List Ir.Stmt)
  | forIn (var : String) (iterator : M.Value) (body after : List Ir.Stmt)

def Loop.after : Loop M → List Ir.Stmt
  | whileDo _ _ after => after
  | forIn _ _ _ after => after

/-- Where a body of statements has come to: the statements that are left of the innermost loop's
body, the loops around them from the inside out, and the local names. -/
structure Control (M : Machine) where
  code : List Ir.Stmt
  loops : List (Loop M)
  locals : Locals M

/-- Puts a value where the target of an assignment says. -/
def store (ρ : Locals M) (target : Ir.Expr) (value : M.Value) : Action M (Locals M) :=
  match target with
  | .var name => pure (ρ.set name value)
  | .attr obj field => do
    let o ← eval M obj ρ
    perform (M.setAttr o field value)
    return ρ
  | .subscript obj index => do
    let o ← eval M obj ρ
    let i ← eval M index ρ
    perform (M.setItem o i value)
    return ρ
  | _ => throw M.malformed

/-- Changes the value where the target of an augmented assignment says. The parts of the target are
evaluated once. -/
def change (ρ : Locals M) (target : Ir.Expr) (op : String) (value : Ir.Expr) :
    Action M (Locals M) :=
  match target with
  | .var name => do
    let old ← readName ρ name
    let v ← eval M value ρ
    return ρ.set name (← perform (M.augment op old v))
  | .attr obj field => do
    let o ← eval M obj ρ
    let old ← perform (M.attr o field)
    let v ← eval M value ρ
    let new ← perform (M.augment op old v)
    perform (M.setAttr o field new)
    return ρ
  | .subscript obj index => do
    let o ← eval M obj ρ
    let i ← eval M index ρ
    let old ← perform (M.item o i)
    let v ← eval M value ρ
    let new ← perform (M.augment op old v)
    perform (M.setItem o i new)
    return ρ
  | _ => throw M.malformed

/-- One step of a body: where it comes to, or the value that it returns. -/
def advance (M : Machine) : Control M → Action M (Control M ⊕ M.Value)
  | ⟨[], [], _⟩ => return .inr (M.constant .none)
  | ⟨[], .whileDo condition body after :: loops, ρ⟩ =>
    return .inl ⟨.whileDo condition body :: after, loops, ρ⟩
  | ⟨[], .forIn var iterator body after :: loops, ρ⟩ => do
    match ← perform (M.next iterator) with
    | some v => return .inl ⟨body, .forIn var iterator body after :: loops, ρ.set var v⟩
    | none => return .inl ⟨after, loops, ρ⟩
  | ⟨.assign target value :: rest, loops, ρ⟩ => do
    let v ← eval M value ρ
    return .inl ⟨rest, loops, ← store ρ target v⟩
  | ⟨.augAssign target op value :: rest, loops, ρ⟩ =>
    return .inl ⟨rest, loops, ← change ρ target op value⟩
  | ⟨.exprStmt value :: rest, loops, ρ⟩ => do
    let _ ← eval M value ρ
    return .inl ⟨rest, loops, ρ⟩
  | ⟨.ifElse condition body orelse :: rest, loops, ρ⟩ => do
    let v ← eval M condition ρ
    if ← perform (M.truth v) then return .inl ⟨body ++ rest, loops, ρ⟩
    else return .inl ⟨orelse ++ rest, loops, ρ⟩
  | ⟨.whileDo condition body :: rest, loops, ρ⟩ => do
    let v ← eval M condition ρ
    if ← perform (M.truth v) then return .inl ⟨body, .whileDo condition body rest :: loops, ρ⟩
    else return .inl ⟨rest, loops, ρ⟩
  | ⟨.forIn var iterable body :: rest, loops, ρ⟩ => do
    let v ← eval M iterable ρ
    let iterator ← perform (M.iterator v)
    return .inl ⟨[], .forIn var iterator body rest :: loops, ρ⟩
  | ⟨.ret none :: _, _, _⟩ => return .inr (M.constant .none)
  | ⟨.ret (some value) :: _, _, ρ⟩ => return .inr (← eval M value ρ)
  | ⟨.brk :: _, loop :: loops, ρ⟩ => return .inl ⟨loop.after, loops, ρ⟩
  | ⟨.cont :: _, loop :: loops, ρ⟩ => return .inl ⟨[], loop :: loops, ρ⟩
  | ⟨.brk :: _, [], _⟩ | ⟨.cont :: _, [], _⟩ => throw M.malformed

/-- One step takes a body in a memory to where it comes to. -/
def Step (M : Machine) (p q : Control M × Memory M) : Prop :=
  Yields (advance M p.1) p.2 (.inl q.1) q.2

/-- Any number of steps. -/
def Steps (M : Machine) : Control M × Memory M → Control M × Memory M → Prop :=
  Relation.ReflTransGen (Step M)

theorem Steps.refl (p : Control M × Memory M) : Steps M p p := Relation.ReflTransGen.refl

theorem Steps.head {p q s : Control M × Memory M} (h : Step M p q) (hs : Steps M q s) :
    Steps M p s :=
  Relation.ReflTransGen.head h hs

end Componentry.Run
