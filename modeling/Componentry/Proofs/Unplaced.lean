import Componentry.Compile.Component

/-!
# Trees without places

A source tree says of every node where it stands. `unplaced` forgets that, so that two trees are the
same construct exactly if their unplaced trees are equal. What the compiler reads off a tree other
than for a diagnostic does not depend on places: the names that it spells and the names that it
binds.
-/

namespace Componentry.Source

/-- The extent of a node that stands in no text. -/
def Span.nowhere : Span := ⟨.start, .start⟩

/-- A name that is read, in no text. -/
def Expr.load (x : String) : Expr := .name .nowhere x .load

/-- The assignment of one name to another, in no text. -/
def Stmt.copy (x y : String) : Stmt := .assign .nowhere [.name .nowhere x .store] (.load y)

/-! ## Expressions and patterns -/

mutual

/-- The expression without its places. -/
def Expr.unplaced : Expr → Expr
  | .constant _ value => .constant .nowhere value
  | .name _ id use => .name .nowhere id use
  | .attr _ value member => .attr .nowhere value.unplaced member
  | .call _ func args keywords =>
    .call .nowhere func.unplaced (unplacedExprs args) (unplacedExprs keywords)
  | .list _ items => .list .nowhere (unplacedExprs items)
  | .tuple _ items => .tuple .nowhere (unplacedExprs items)
  | .dict _ keys values => .dict .nowhere (unplacedExprs keys) (unplacedExprs values)
  | .subscript _ value index => .subscript .nowhere value.unplaced index.unplaced
  | .binary _ left op right => .binary .nowhere left.unplaced op right.unplaced
  | .connective _ op values => .connective .nowhere op (unplacedExprs values)
  | .unary _ op operand => .unary .nowhere op operand.unplaced
  | .compare _ left ops comparators =>
    .compare .nowhere left.unplaced ops (unplacedExprs comparators)
  | .ifExpr _ test body orelse => .ifExpr .nowhere test.unplaced body.unplaced orelse.unplaced
  | .form _ form parts => .form .nowhere form (unplacedExprs parts)

def unplacedExprs : List Expr → List Expr
  | [] => []
  | e :: rest => e.unplaced :: unplacedExprs rest

end

theorem unplacedExprs_eq_map (es : List Expr) : unplacedExprs es = es.map Expr.unplaced := by
  induction es with
  | nil => rfl
  | cons e rest ih => simp [unplacedExprs, ih]

mutual

def Pattern.unplaced : Pattern → Pattern
  | .value _ value => .value .nowhere value.unplaced
  | .singleton _ => .singleton .nowhere
  | .sequence _ patterns => .sequence .nowhere (unplacedPatterns patterns)
  | .mapping _ keys patterns => .mapping .nowhere (unplacedExprs keys) (unplacedPatterns patterns)
  | .ofClass _ cls patterns keywords =>
    .ofClass .nowhere cls.unplaced (unplacedPatterns patterns) (unplacedPatterns keywords)
  | .star _ => .star .nowhere
  | .wildcard _ => .wildcard .nowhere
  | .capture _ name => .capture .nowhere name
  | .bound _ pattern name => .bound .nowhere pattern.unplaced name
  | .either _ patterns => .either .nowhere (unplacedPatterns patterns)

def unplacedPatterns : List Pattern → List Pattern
  | [] => []
  | p :: rest => p.unplaced :: unplacedPatterns rest

end

/-! ## Statements -/

def Param.unplaced (p : Param) : Param := ⟨.nowhere, p.name, p.annot.map Expr.unplaced⟩

def Params.unplaced (ps : Params) : Params where
  positionalOnly := ps.positionalOnly.map Param.unplaced
  regular := ps.regular.map Param.unplaced
  variadic := ps.variadic.map Param.unplaced
  keywordOnly := ps.keywordOnly.map Param.unplaced
  keywordDefaults := ps.keywordDefaults.map (Option.map Expr.unplaced)
  keywords := ps.keywords.map Param.unplaced
  defaults := ps.defaults.map Expr.unplaced

mutual

def Stmt.unplaced : Stmt → Stmt
  | .functionDef _ name params body decorators returns =>
    .functionDef .nowhere name params.unplaced (unplacedBlock body) (unplacedExprs decorators)
      (returns.map Expr.unplaced)
  | .classDef _ name bases keywords body decorators =>
    .classDef .nowhere name (unplacedExprs bases) (unplacedExprs keywords) (unplacedBlock body)
      (unplacedExprs decorators)
  | .ret _ value => .ret .nowhere (value.map Expr.unplaced)
  | .assign _ targets value => .assign .nowhere (unplacedExprs targets) value.unplaced
  | .augAssign _ target op value => .augAssign .nowhere target.unplaced op value.unplaced
  | .annAssign _ target annot value =>
    .annAssign .nowhere target.unplaced annot.unplaced (value.map Expr.unplaced)
  | .forIn _ target iter body orelse =>
    .forIn .nowhere target.unplaced iter.unplaced (unplacedBlock body) (unplacedBlock orelse)
  | .whileDo _ test body orelse =>
    .whileDo .nowhere test.unplaced (unplacedBlock body) (unplacedBlock orelse)
  | .ifElse _ test body orelse =>
    .ifElse .nowhere test.unplaced (unplacedBlock body) (unplacedBlock orelse)
  | .matchOn _ subject cases => .matchOn .nowhere subject.unplaced (unplacedCases cases)
  | .expr _ value => .expr .nowhere value.unplaced
  | .pass _ => .pass .nowhere
  | .brk _ => .brk .nowhere
  | .cont _ => .cont .nowhere
  | .form _ form parts => .form .nowhere form (unplacedParts parts)

def unplacedBlock : List Stmt → List Stmt
  | [] => []
  | s :: rest => s.unplaced :: unplacedBlock rest

def Case.unplaced : Case → Case
  | .mk pattern guard body => .mk pattern.unplaced (guard.map Expr.unplaced) (unplacedBlock body)

def unplacedCases : List Case → List Case
  | [] => []
  | c :: rest => c.unplaced :: unplacedCases rest

def Part.unplaced : Part → Part
  | .expr value => .expr value.unplaced
  | .stmt value => .stmt value.unplaced
  | .node parts => .node (unplacedParts parts)

def unplacedParts : List Part → List Part
  | [] => []
  | p :: rest => p.unplaced :: unplacedParts rest

end

theorem unplacedBlock_eq_map (stmts : List Stmt) :
    unplacedBlock stmts = stmts.map Stmt.unplaced := by
  induction stmts with
  | nil => rfl
  | cons s rest ih => simp [unplacedBlock, ih]

/-! ## What a tree spells -/

@[simp] theorem Expr.dotted?_unplaced (e : Expr) : e.unplaced.dotted? = e.dotted? := by
  fun_induction Expr.dotted? e with
  | case1 => rfl
  | case2 span value member ih => simp [unplaced, dotted?, ih]
  | case3 e hname hattr => cases e <;> first | rfl | simp_all

@[simp] theorem Expr.root?_unplaced (e : Expr) : e.unplaced.root? = e.root? := by
  fun_induction Expr.root? e with
  | case1 => rfl
  | case2 span value member ih => simpa [unplaced, root?] using ih
  | case3 e hname hattr => cases e <;> first | rfl | simp_all

@[simp] theorem Expr.text?_unplaced (e : Expr) : e.unplaced.text? = e.text? := by
  cases e with
  | constant span value =>
    cases value with
    | literal v => cases v <;> rfl
    | _ => rfl
  | _ => rfl

@[simp] theorem Expr.hasForm_unplaced (e : Expr) (f : ExprForm) :
    e.unplaced.hasForm f = e.hasForm f := by
  cases e <;> rfl

@[simp] theorem Stmt.isDocstring_unplaced (s : Stmt) : s.unplaced.isDocstring = s.isDocstring := by
  cases s <;> simp [unplaced, isDocstring]

/-! ## Names that a tree binds -/

mutual

theorem Expr.levels_unplaced : ∀ e : Expr, e.unplaced.levels = e.levels
  | .constant _ _ => rfl
  | .name _ _ _ => rfl
  | .attr _ value _ => by simp [Expr.unplaced, Expr.levels, value.levels_unplaced]
  | .call _ func args keywords => by
    simp [Expr.unplaced, Expr.levels, func.levels_unplaced, levelsOfExprs_unplaced]
  | .list _ items => by simp [Expr.unplaced, Expr.levels, levelsOfExprs_unplaced]
  | .tuple _ items => by simp [Expr.unplaced, Expr.levels, levelsOfExprs_unplaced]
  | .dict _ keys values => by simp [Expr.unplaced, Expr.levels, levelsOfExprs_unplaced]
  | .subscript _ value index => by
    simp [Expr.unplaced, Expr.levels, value.levels_unplaced, index.levels_unplaced]
  | .binary _ left _ right => by
    simp [Expr.unplaced, Expr.levels, left.levels_unplaced, right.levels_unplaced]
  | .connective _ _ values => by simp [Expr.unplaced, Expr.levels, levelsOfExprs_unplaced]
  | .unary _ _ operand => by simp [Expr.unplaced, Expr.levels, operand.levels_unplaced]
  | .compare _ left _ comparators => by
    simp [Expr.unplaced, Expr.levels, left.levels_unplaced, levelsOfExprs_unplaced]
  | .ifExpr _ test body orelse => by
    simp [Expr.unplaced, Expr.levels, test.levels_unplaced, body.levels_unplaced,
      orelse.levels_unplaced]
  | .form _ _ parts => by simp [Expr.unplaced, Expr.levels, levelsOfExprs_unplaced]

theorem levelsOfExprs_unplaced :
    ∀ es : List Expr, levelsOfExprs (unplacedExprs es) = levelsOfExprs es
  | [] => rfl
  | e :: rest => by
    simp [unplacedExprs, levelsOfExprs, e.levels_unplaced, levelsOfExprs_unplaced rest]

end

theorem levelsOfOption_unplaced (e : Option Expr) :
    levelsOfOption (e.map Expr.unplaced) = levelsOfOption e := by
  cases e with
  | none => rfl
  | some e => exact e.levels_unplaced

theorem levelsOfParams_unplaced (ps : List Param) :
    levelsOfParams (ps.map Param.unplaced) = levelsOfParams ps := by
  simp only [levelsOfParams, List.foldr_map]
  simp [Param.levels, Param.unplaced, levelsOfOption_unplaced]

theorem Params.levels_unplaced (ps : Params) : ps.unplaced.levels = ps.levels := by
  have htoList (p : Option Param) :
      (p.map Param.unplaced).toList = p.toList.map Param.unplaced := by
    cases p <;> rfl
  simp only [levels, unplaced, htoList, levelsOfParams_unplaced, List.foldr_map,
    levelsOfOption_unplaced, ← unplacedExprs_eq_map, levelsOfExprs_unplaced]

mutual

theorem Pattern.levels_unplaced : ∀ p : Pattern, p.unplaced.levels = p.levels
  | .value _ value => by simp [Pattern.unplaced, Pattern.levels, value.levels_unplaced]
  | .singleton _ => rfl
  | .sequence _ patterns => by simp [Pattern.unplaced, Pattern.levels, levelsOfPatterns_unplaced]
  | .mapping _ keys patterns => by
    simp [Pattern.unplaced, Pattern.levels, levelsOfExprs_unplaced, levelsOfPatterns_unplaced]
  | .ofClass _ cls patterns keywords => by
    simp [Pattern.unplaced, Pattern.levels, cls.levels_unplaced, levelsOfPatterns_unplaced]
  | .star _ => rfl
  | .wildcard _ => rfl
  | .capture _ _ => rfl
  | .bound _ pattern _ => by simp [Pattern.unplaced, Pattern.levels, pattern.levels_unplaced]
  | .either _ patterns => by simp [Pattern.unplaced, Pattern.levels, levelsOfPatterns_unplaced]

theorem levelsOfPatterns_unplaced :
    ∀ ps : List Pattern, levelsOfPatterns (unplacedPatterns ps) = levelsOfPatterns ps
  | [] => rfl
  | p :: rest => by
    simp [unplacedPatterns, levelsOfPatterns, p.levels_unplaced, levelsOfPatterns_unplaced rest]

end

mutual

theorem Stmt.levels_unplaced : ∀ s : Stmt, s.unplaced.levels = s.levels
  | .functionDef _ _ params body decorators returns => by
    simp [Stmt.unplaced, Stmt.levels, params.levels_unplaced, levelsOfBlock_unplaced,
      levelsOfExprs_unplaced, levelsOfOption_unplaced]
  | .classDef _ _ bases keywords body decorators => by
    simp [Stmt.unplaced, Stmt.levels, levelsOfBlock_unplaced, levelsOfExprs_unplaced]
  | .ret _ value => by simp [Stmt.unplaced, Stmt.levels, levelsOfOption_unplaced]
  | .assign _ targets value => by
    simp [Stmt.unplaced, Stmt.levels, levelsOfExprs_unplaced, value.levels_unplaced]
  | .augAssign _ target _ value => by
    simp [Stmt.unplaced, Stmt.levels, target.levels_unplaced, value.levels_unplaced]
  | .annAssign _ target annot value => by
    simp [Stmt.unplaced, Stmt.levels, target.levels_unplaced, annot.levels_unplaced,
      levelsOfOption_unplaced]
  | .forIn _ target iter body orelse => by
    simp [Stmt.unplaced, Stmt.levels, target.levels_unplaced, iter.levels_unplaced,
      levelsOfBlock_unplaced]
  | .whileDo _ test body orelse => by
    simp [Stmt.unplaced, Stmt.levels, test.levels_unplaced, levelsOfBlock_unplaced]
  | .ifElse _ test body orelse => by
    simp [Stmt.unplaced, Stmt.levels, test.levels_unplaced, levelsOfBlock_unplaced]
  | .matchOn _ subject cases => by
    simp [Stmt.unplaced, Stmt.levels, subject.levels_unplaced, levelsOfCases_unplaced]
  | .expr _ value => by simp [Stmt.unplaced, Stmt.levels, value.levels_unplaced]
  | .pass _ => rfl
  | .brk _ => rfl
  | .cont _ => rfl
  | .form _ _ parts => by simp [Stmt.unplaced, Stmt.levels, levelsOfParts_unplaced]

theorem levelsOfBlock_unplaced :
    ∀ stmts : List Stmt, levelsOfBlock (unplacedBlock stmts) = levelsOfBlock stmts
  | [] => rfl
  | s :: rest => by
    simp [unplacedBlock, levelsOfBlock, s.levels_unplaced, levelsOfBlock_unplaced rest]

theorem Case.levels_unplaced : ∀ c : Case, c.unplaced.levels = c.levels
  | .mk pattern guard body => by
    simp [Case.unplaced, Case.levels, pattern.levels_unplaced, levelsOfOption_unplaced,
      levelsOfBlock_unplaced]

theorem levelsOfCases_unplaced :
    ∀ cases : List Case, levelsOfCases (unplacedCases cases) = levelsOfCases cases
  | [] => rfl
  | c :: rest => by
    simp [unplacedCases, levelsOfCases, c.levels_unplaced, levelsOfCases_unplaced rest]

theorem Part.levels_unplaced : ∀ p : Part, p.unplaced.levels = p.levels
  | .expr value => by simp [Part.unplaced, Part.levels, value.levels_unplaced]
  | .stmt value => by simp [Part.unplaced, Part.levels, value.levels_unplaced]
  | .node parts => by simp [Part.unplaced, Part.levels, levelsOfParts_unplaced]

theorem levelsOfParts_unplaced :
    ∀ parts : List Part, levelsOfParts (unplacedParts parts) = levelsOfParts parts
  | [] => rfl
  | p :: rest => by
    simp [unplacedParts, levelsOfParts, p.levels_unplaced, levelsOfParts_unplaced rest]

end

@[simp] theorem boundNames_unplaced (stmts : List Stmt) :
    boundNames (unplacedBlock stmts) = boundNames stmts := by
  simp [boundNames, unplacedBlock_eq_map, List.flatMap_map, Stmt.levels_unplaced]

@[simp] theorem boundInCases_unplaced (cases : List Case) :
    boundInCases (unplacedCases cases) = boundInCases cases := by
  have hmap : unplacedCases cases = cases.map Case.unplaced := by
    induction cases with
    | nil => rfl
    | cons c rest ih => simp [unplacedCases, ih]
  simp [boundInCases, hmap, List.flatMap_map, Case.levels_unplaced]

/-! ## Designators -/

theorem Expr.expectDotted_unplaced (label : String) (e : Expr) :
    (e.unplaced.expectDotted label).toOption = (e.expectDotted label).toOption := by
  unfold expectDotted
  rw [dotted?_unplaced]
  cases e.dotted? <;> rfl

theorem Expr.designator_unplaced (e : Expr) :
    e.unplaced.designator.toOption = e.designator.toOption := by
  unfold designator
  rw [text?_unplaced]
  cases e.text? with
  | some s => rfl
  | none =>
    have h := e.expectDotted_unplaced "type"
    cases hx : e.unplaced.expectDotted "type" <;> cases hy : e.expectDotted "type" <;>
      simp_all [Except.toOption, bind, Except.bind]

end Componentry.Source
