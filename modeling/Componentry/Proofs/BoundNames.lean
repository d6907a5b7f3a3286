import Componentry.Source.Binding

/-!
# Membership in the bound names

`boundNames` lists names in the order of a breadth-first walk. Proofs only ask whether a name is
among them, and that follows the shape of the statement: `beside` is a union, and a nested block
contributes what it binds itself.

The walk tells targets by how a name is used. A tree is *marked* if every name that a statement
assigns is used as a target; then the walk finds it. All trees of the grammar are marked.
-/

namespace Componentry.Source

variable {x : String}

/-- Whether a tree of names mentions a name. -/
def Mentions (levels : List (List String)) (x : String) : Prop := x ∈ levels.flatten

@[simp] theorem not_mentions_nil : ¬ Mentions [] x := by simp [Mentions]

@[simp] theorem mentions_cons {names : List String} {rest : List (List String)} :
    Mentions (names :: rest) x ↔ x ∈ names ∨ Mentions rest x := by
  simp [Mentions]

@[simp] theorem mentions_beside {xs ys : List (List String)} :
    Mentions (beside xs ys) x ↔ Mentions xs x ∨ Mentions ys x := by
  fun_induction beside xs ys with
  | case1 => simp
  | case2 => simp
  | case3 names xs more ys ih =>
    simp only [mentions_cons, List.mem_append, ih]
    exact or_or_or_comm

theorem mem_boundNames {stmts : List Stmt} :
    x ∈ boundNames stmts ↔ ∃ s ∈ stmts, Mentions s.levels x := by
  simp [boundNames, Mentions]

theorem mem_boundInCases {cases : List Case} :
    x ∈ boundInCases cases ↔ ∃ c ∈ cases, Mentions c.levels x := by
  simp [boundInCases, Mentions]

@[simp] theorem mentions_levelsOfBlock {stmts : List Stmt} :
    Mentions (levelsOfBlock stmts) x ↔ x ∈ boundNames stmts := by
  rw [mem_boundNames]
  induction stmts with
  | nil => simp [levelsOfBlock]
  | cons s rest ih => simp [levelsOfBlock, ih]

@[simp] theorem mentions_levelsOfCases {cases : List Case} :
    Mentions (levelsOfCases cases) x ↔ x ∈ boundInCases cases := by
  rw [mem_boundInCases]
  induction cases with
  | nil => simp [levelsOfCases]
  | cons c rest ih => simp [levelsOfCases, ih]

theorem mem_boundNames_cons {s : Stmt} {rest : List Stmt} :
    x ∈ boundNames (s :: rest) ↔ Mentions s.levels x ∨ x ∈ boundNames rest := by
  simp [mem_boundNames]

theorem mem_boundNames_singleton {s : Stmt} : x ∈ boundNames [s] ↔ Mentions s.levels x := by
  simp [mem_boundNames]

/-- The name that a case captures is bound in the cases. -/
theorem mem_boundInCases_of_bound {cases : List Case} {span : Span} {inner : Pattern}
    {guard : Option Expr} {body : List Stmt} (h : .mk (.bound span inner x) guard body ∈ cases) :
    x ∈ boundInCases cases :=
  mem_boundInCases.mpr ⟨_, h, by simp [Case.levels, Pattern.levels]⟩

/-! ## Marked trees -/

/-- Whether an expression may be a target: a plain name must be used as one. -/
def Expr.isTarget : Expr → Bool
  | .name _ _ use => use = .store
  | _ => true

mutual

/-- Whether the names that a statement assigns are used as targets. -/
def Stmt.isMarked : Stmt → Bool
  | .functionDef _ _ _ body _ _ => areMarked body
  | .classDef _ _ _ _ body _ => areMarked body
  | .assign _ targets _ => targets.all Expr.isTarget
  | .augAssign _ target _ _ => target.isTarget
  | .annAssign _ target _ _ => target.isTarget
  | .forIn _ target _ body orelse => target.isTarget && areMarked body && areMarked orelse
  | .whileDo _ _ body orelse => areMarked body && areMarked orelse
  | .ifElse _ _ body orelse => areMarked body && areMarked orelse
  | .matchOn _ _ cases => areMarkedCases cases
  | _ => true

def areMarked : List Stmt → Bool
  | [] => true
  | s :: rest => s.isMarked && areMarked rest

def areMarkedCases : List Case → Bool
  | [] => true
  | .mk _ _ body :: rest => areMarked body && areMarkedCases rest

end

theorem mentions_levels_of_isTarget {span : Span} {use : NameUse}
    (h : (Expr.name span x use).isTarget = true) : Mentions (Expr.name span x use).levels x := by
  have huse : use = .store := by simpa [Expr.isTarget] using h
  simp [Expr.levels, huse]

theorem areMarked_iff {stmts : List Stmt} :
    areMarked stmts = true ↔ ∀ s ∈ stmts, s.isMarked = true := by
  induction stmts with
  | nil => simp [areMarked]
  | cons s rest ih => simp [areMarked, ih]

theorem areMarked_flatten {blocks : List (List Stmt)} (h : ∀ b ∈ blocks, areMarked b = true) :
    areMarked blocks.flatten = true := by
  rw [areMarked_iff]
  intro s hs
  obtain ⟨b, hb, hsb⟩ := List.mem_flatten.mp hs
  exact areMarked_iff.mp (h b hb) s hsb

theorem areMarkedCases_iff {cases : List Case} :
    areMarkedCases cases = true ↔
      ∀ pattern guard body, .mk pattern guard body ∈ cases → areMarked body = true := by
  induction cases with
  | nil => simp [areMarkedCases]
  | cons c rest ih =>
    obtain ⟨pattern, guard, body⟩ := c
    simp only [areMarkedCases, Bool.and_eq_true, ih, List.mem_cons, Case.mk.injEq]
    constructor
    · rintro ⟨hbody, hrest⟩ pattern' guard' body' (⟨rfl, rfl, rfl⟩ | hmem)
      · exact hbody
      · exact hrest pattern' guard' body' hmem
    · intro h
      exact ⟨h pattern guard body (.inl ⟨rfl, rfl, rfl⟩), fun p g b hb => h p g b (.inr hb)⟩

end Componentry.Source
