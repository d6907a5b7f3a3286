import Componentry.Proofs.Stepwise

/-!
# Where refusals point

A diagnostic carries the place of what it is about. Many functions of the compiler refuse without
knowing a place: the registry, the plan of a dispatch, the definition of a component. Their callers
supply the place of the construct they are at.

**Theorem (`refusal_points_into_source`).** A source that is neither blank nor beyond the grammar is
refused only at a node of its tree, and the text of the diagnostic has a line with the position of
that node. The two causes that concern the text as a whole do not occur.
-/

namespace Componentry

open CompileM

/-- A refusal stands at one of the places `A` and is not about the text as a whole. -/
def RefusesOnlyIn {α : Type} (A : Option Place → Prop) (x : CompileM α) : Prop :=
  ∀ t d t', runFrom x t = (.error d, t') →
    A d.place ∧ d.cause ≠ .emptySource ∧ d.cause ≠ .invalidSyntax

theorem Cause.ne_of_isPlain {c : Cause} (h : c.isPlain = true) :
    c ≠ .emptySource ∧ c ≠ .invalidSyntax := by
  constructor
  · rintro rfl
    cases h
  · rintro rfl
    cases h

theorem refusesOnlyIn_refuse {α : Type} {A : Option Place → Prop} {place : Option Place}
    {cause : Cause} (hplace : A place) (hc : cause ≠ .emptySource ∧ cause ≠ .invalidSyntax) :
    RefusesOnlyIn A (refuse place cause : CompileM α) := by
  intro t d t' hrun
  obtain ⟨hd, -⟩ := Prod.mk.inj hrun
  obtain rfl := Except.error.inj hd
  exact ⟨hplace, hc⟩

/-- **The steps of a compilation are refused only at given places.** -/
theorem stepwise_refusesOnlyIn (A : Option Place → Prop) : StepwiseAll A (RefusesOnlyIn A) where
  pure a t d t' hrun := by cases hrun
  refuse hplace hc := refusesOnlyIn_refuse hplace (Cause.ne_of_isPlain hc)
  conflict hspan := refusesOnlyIn_refuse hspan (by simp)
  step {α β x f} hx hf t d t' hrun := by
    rw [runFrom_bind] at hrun
    split at hrun
    · next a t₁ ha => exact hf a t t₁ ha t₁ d t' hrun
    · next e t₁ he =>
      obtain ⟨hd, rfl⟩ := Prod.mk.inj hrun
      obtain rfl := Except.error.inj hd
      exact hx t e t₁ he
  fresh stem t d t' hrun := by cases hrun
  record type t d t' hrun := by cases hrun
  warn w t d t' hrun := by cases hrun

/-- The line of a diagnostic that gives the position of a node: its line, and its column counted
from one. -/
def positionLine (s : Source.Span) : String :=
  "Location: line " ++ toString s.start.line ++ ", column " ++ toString (s.start.column + 1)

/-- The text of a diagnostic about a node is its message, the position and maybe the code there. -/
theorem text_of_place {d : Diagnostic} {s : Source.Span} (h : d.place = some (.ofSpan s))
    (source : Option String) :
    ∃ code, d.text source = Text.joinWith "\n" (d.cause.message :: positionLine s :: code) := by
  rw [Diagnostic.text, located, h]
  exact ⟨_, rfl⟩

namespace Compile

/-- **A source that parses is refused only at one of its nodes**, and the diagnostic says at
which. Trees may be nested to any depth: no limit on the depth of a recursion is modelled. -/
theorem refusal_points_into_source {known : Messages} {policy : DuplicatePolicy}
    {sourcePath moduleName : Option String} {text : String} {stmts : List Source.Stmt}
    {d : Diagnostic} (hblank : Text.isBlankText text.toList = false)
    (hparse : Source.parse text = some stmts)
    (h : (compile known policy sourcePath moduleName text).result = .error d) :
    ∃ s ∈ Source.spansOfBlock stmts, d.place = some (.ofSpan s) ∧
      (∃ code, d.text (some text) =
        Text.joinWith "\n" (d.cause.message :: positionLine s :: code)) ∧
      d.cause ≠ .emptySource ∧ d.cause ≠ .invalidSyntax := by
  have hmodule := stepwise_module
    (stepwise_refusesOnlyIn fun place => ∃ s ∈ Source.spansOfBlock stmts, place = some (.ofSpan s))
    known policy (moduleNameFor sourcePath moduleName) fun s hs => ⟨s, hs, rfl⟩
  have hsource : source known policy (moduleNameFor sourcePath moduleName) text =
      module known policy (moduleNameFor sourcePath moduleName) stmts := by
    simp [source, hblank, hparse]
  have hrun : runFrom (module known policy (moduleNameFor sourcePath moduleName) stmts) {} =
      (.error d,
        (runFrom (module known policy (moduleNameFor sourcePath moduleName) stmts) {}).2) :=
    Prod.ext (hsource ▸ h) rfl
  obtain ⟨⟨s, hs, hplace⟩, hcause⟩ := hmodule _ d _ hrun
  exact ⟨s, hs, hplace, text_of_place hplace (some text), hcause⟩

/-- A component with one method declared twice; the place is found by the definition, not by what
compiles the class. -/
def twice : String :=
  "class Door:\n" ++
  "    def Start(self):\n" ++
  "        pass\n" ++
  "    class Start:\n" ++
  "        def Start(self):\n" ++
  "            pass\n"

theorem twice_points_into_source :
    Text.isBlankText twice.toList = false ∧ ∃ stmts, Source.parse twice = some stmts ∧
      ∃ d, (compile .standard .refuse none none twice).result = .error d ∧
        ∃ s ∈ Source.spansOfBlock stmts, d.place = some (.ofSpan s) ∧
          (∃ code, d.text (some twice) =
            Text.joinWith "\n" (d.cause.message :: positionLine s :: code)) ∧
          d.cause ≠ .emptySource ∧ d.cause ≠ .invalidSyntax := by
  have hblank : Text.isBlankText twice.toList = false := by decide +kernel
  obtain ⟨stmts, hparse, -⟩ : ∃ stmts, Source.parse twice = some stmts ∧ True :=
    exists_some (by decide +kernel)
  obtain ⟨d, h, -⟩ : ∃ d, (compile .standard .refuse none none twice).result = .error d ∧ True :=
    exists_error (by decide +kernel)
  exact ⟨hblank, stmts, hparse, d, h, refusal_points_into_source hblank hparse h⟩

end Compile

end Componentry
