import Componentry.Source.Tree

/-!
# Names that statements bind

The names bound anywhere inside statements, by assignment in any form or by a capture pattern. They
are listed as a breadth-first walk meets them: `levels` gives the names bound at each depth below a
node, and the levels of several nodes are laid side by side. Names of functions, classes, imports
and exception handlers are not among them.
-/

namespace Componentry.Source

/-- Lays two trees of names side by side, depth by depth. -/
def beside : List (List String) → List (List String) → List (List String)
  | [], ys => ys
  | xs, [] => xs
  | x :: xs, y :: ys => (x ++ y) :: beside xs ys

/-! ## Expressions -/

mutual

def Expr.levels : Expr → List (List String)
  | .constant _ _ => []
  | .name _ id use => if use = .store then [[id]] else []
  | .attr _ value _ => [] :: value.levels
  | .call _ func args keywords =>
    [] :: beside func.levels (beside (levelsOfExprs args) (levelsOfExprs keywords))
  | .list _ items => [] :: levelsOfExprs items
  | .tuple _ items => [] :: levelsOfExprs items
  | .dict _ keys values => [] :: beside (levelsOfExprs keys) (levelsOfExprs values)
  | .subscript _ value index => [] :: beside value.levels index.levels
  | .binary _ left _ right => [] :: beside left.levels right.levels
  | .connective _ _ values => [] :: levelsOfExprs values
  | .unary _ _ operand => [] :: operand.levels
  | .compare _ left _ comparators => [] :: beside left.levels (levelsOfExprs comparators)
  | .ifExpr _ test body orelse => [] :: beside test.levels (beside body.levels orelse.levels)
  | .form _ _ parts => [] :: levelsOfExprs parts

def levelsOfExprs : List Expr → List (List String)
  | [] => []
  | e :: rest => beside e.levels (levelsOfExprs rest)

end

def levelsOfOption : Option Expr → List (List String)
  | none => []
  | some e => e.levels

def Param.levels (p : Param) : List (List String) := [] :: levelsOfOption p.annot

def levelsOfParams (ps : List Param) : List (List String) :=
  ps.foldr (fun p rest => beside p.levels rest) []

def Params.levels (ps : Params) : List (List String) :=
  [] :: beside (levelsOfParams ps.positionalOnly) (beside (levelsOfParams ps.regular)
    (beside (levelsOfParams ps.variadic.toList) (beside (levelsOfParams ps.keywordOnly)
      (beside (ps.keywordDefaults.foldr (fun d rest => beside (levelsOfOption d) rest) [])
        (beside (levelsOfParams ps.keywords.toList) (levelsOfExprs ps.defaults))))))

/-! ## Patterns -/

mutual

/-- Names bound at each depth of a pattern. Only captures count, not the rest of a sequence or a
mapping. -/
def Pattern.levels : Pattern → List (List String)
  | .value _ value => [] :: value.levels
  | .singleton _ => []
  | .sequence _ patterns => [] :: levelsOfPatterns patterns
  | .mapping _ keys patterns => [] :: beside (levelsOfExprs keys) (levelsOfPatterns patterns)
  | .ofClass _ cls patterns keywords =>
    [] :: beside cls.levels (beside (levelsOfPatterns patterns) (levelsOfPatterns keywords))
  | .star _ => []
  | .wildcard _ => []
  | .capture _ name => [[name]]
  | .bound _ pattern name => [name] :: pattern.levels
  | .either _ patterns => [] :: levelsOfPatterns patterns

def levelsOfPatterns : List Pattern → List (List String)
  | [] => []
  | p :: rest => beside p.levels (levelsOfPatterns rest)

end

/-! ## Statements -/

mutual

def Stmt.levels : Stmt → List (List String)
  | .functionDef _ _ params body decorators returns =>
    [] :: beside params.levels
      (beside (levelsOfBlock body) (beside (levelsOfExprs decorators) (levelsOfOption returns)))
  | .classDef _ _ bases keywords body decorators =>
    [] :: beside (levelsOfExprs bases)
      (beside (levelsOfExprs keywords) (beside (levelsOfBlock body) (levelsOfExprs decorators)))
  | .ret _ value => [] :: levelsOfOption value
  | .assign _ targets value => [] :: beside (levelsOfExprs targets) value.levels
  | .augAssign _ target _ value => [] :: beside target.levels value.levels
  | .annAssign _ target annot value =>
    [] :: beside target.levels (beside annot.levels (levelsOfOption value))
  | .forIn _ target iter body orelse =>
    [] :: beside target.levels
      (beside iter.levels (beside (levelsOfBlock body) (levelsOfBlock orelse)))
  | .whileDo _ test body orelse =>
    [] :: beside test.levels (beside (levelsOfBlock body) (levelsOfBlock orelse))
  | .ifElse _ test body orelse =>
    [] :: beside test.levels (beside (levelsOfBlock body) (levelsOfBlock orelse))
  | .matchOn _ subject cases => [] :: beside subject.levels (levelsOfCases cases)
  | .expr _ value => [] :: value.levels
  | .pass _ => []
  | .brk _ => []
  | .cont _ => []
  | .form _ _ parts => [] :: levelsOfParts parts

def levelsOfBlock : List Stmt → List (List String)
  | [] => []
  | s :: rest => beside s.levels (levelsOfBlock rest)

def Case.levels : Case → List (List String)
  | .mk pattern guard body =>
    [] :: beside pattern.levels (beside (levelsOfOption guard) (levelsOfBlock body))

def levelsOfCases : List Case → List (List String)
  | [] => []
  | c :: rest => beside c.levels (levelsOfCases rest)

def Part.levels : Part → List (List String)
  | .expr value => value.levels
  | .stmt value => value.levels
  | .node parts => [] :: levelsOfParts parts

def levelsOfParts : List Part → List (List String)
  | [] => []
  | p :: rest => beside p.levels (levelsOfParts rest)

end

/-- Names bound inside statements, each once, statement by statement. -/
def boundNames (stmts : List Stmt) : List String :=
  (stmts.flatMap fun s => s.levels.flatten).eraseDups

/-- Names bound inside match cases, each once, case by case. -/
def boundInCases (cases : List Case) : List String :=
  (cases.flatMap fun c => c.levels.flatten).eraseDups

end Componentry.Source
