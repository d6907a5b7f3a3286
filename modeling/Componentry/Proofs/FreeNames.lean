import Componentry.Proofs.Machine

/-!
# Names that expressions read

`ReadsOnly A e` says that `e` reads no names from outside but those in `A`; the names that a `letIn`
binds are its own.

**Theorem (`eval_congr`).** Local names on which two scopes differ make no difference to an
expression that does not read them.
-/

namespace Componentry

open Run

namespace Ir

theorem Expr.isVar_iff {e : Expr} {x : String} : e.isVar x = true ↔ e = .var x := by
  cases e <;> simp [isVar]

mutual

/-- The expression reads only allowed names from outside. -/
def Expr.ReadsOnly : Expr → (String → Prop) → Prop
  | .const _, _ => True
  | .var name, A => A name
  | .typeRef _ _, _ => True
  | .attr obj _, A => obj.ReadsOnly A
  | .call func args, A => func.ReadsOnly A ∧ AllReadOnly args A
  | .unary _ value, A => value.ReadsOnly A
  | .binary _ left right, A => left.ReadsOnly A ∧ right.ReadsOnly A
  | .ifExpr condition yes no, A => condition.ReadsOnly A ∧ yes.ReadsOnly A ∧ no.ReadsOnly A
  | .isInstance value _ _, A => value.ReadsOnly A
  | .annotated value _, A => value.ReadsOnly A
  | .letIn bindings body, A =>
    BindingsReadOnly bindings A ∧ body.ReadsOnly fun x => A x ∨ x ∈ bindings.map Prod.fst
  | .list items, A => AllReadOnly items A
  | .tuple items, A => AllReadOnly items A
  | .dict keys values, A => AllReadOnly keys A ∧ AllReadOnly values A
  | .subscript value index, A => value.ReadsOnly A ∧ index.ReadsOnly A

def AllReadOnly : List Expr → (String → Prop) → Prop
  | [], _ => True
  | e :: rest, A => e.ReadsOnly A ∧ AllReadOnly rest A

/-- The bound values read only allowed names and those bound before. -/
def BindingsReadOnly : List (String × Expr) → (String → Prop) → Prop
  | [], _ => True
  | (x, e) :: rest, A => e.ReadsOnly A ∧ BindingsReadOnly rest fun y => A y ∨ y = x

end

mutual

theorem Expr.readsOnly_mono : ∀ (e : Expr) {A B : String → Prop}, (∀ x, A x → B x) →
    e.ReadsOnly A → e.ReadsOnly B
  | .const _, _, _, _, _ => trivial
  | .var name, _, _, hAB, h => hAB name h
  | .typeRef _ _, _, _, _, _ => trivial
  | .attr obj _, _, _, hAB, h => obj.readsOnly_mono hAB h
  | .call func args, _, _, hAB, h => ⟨func.readsOnly_mono hAB h.1, allReadOnly_mono args hAB h.2⟩
  | .unary _ value, _, _, hAB, h => value.readsOnly_mono hAB h
  | .binary _ left right, _, _, hAB, h =>
    ⟨left.readsOnly_mono hAB h.1, right.readsOnly_mono hAB h.2⟩
  | .ifExpr condition yes no, _, _, hAB, h =>
    ⟨condition.readsOnly_mono hAB h.1, yes.readsOnly_mono hAB h.2.1, no.readsOnly_mono hAB h.2.2⟩
  | .isInstance value _ _, _, _, hAB, h => value.readsOnly_mono hAB h
  | .annotated value _, _, _, hAB, h => value.readsOnly_mono hAB h
  | .letIn bindings body, _, _, hAB, h =>
    ⟨bindingsReadOnly_mono bindings hAB h.1, body.readsOnly_mono (fun x => Or.imp_left (hAB x)) h.2⟩
  | .list items, _, _, hAB, h => allReadOnly_mono items hAB h
  | .tuple items, _, _, hAB, h => allReadOnly_mono items hAB h
  | .dict keys values, _, _, hAB, h =>
    ⟨allReadOnly_mono keys hAB h.1, allReadOnly_mono values hAB h.2⟩
  | .subscript value index, _, _, hAB, h =>
    ⟨value.readsOnly_mono hAB h.1, index.readsOnly_mono hAB h.2⟩

theorem allReadOnly_mono : ∀ (es : List Expr) {A B : String → Prop}, (∀ x, A x → B x) →
    AllReadOnly es A → AllReadOnly es B
  | [], _, _, _, _ => trivial
  | e :: rest, _, _, hAB, h => ⟨e.readsOnly_mono hAB h.1, allReadOnly_mono rest hAB h.2⟩

theorem bindingsReadOnly_mono : ∀ (bs : List (String × Expr)) {A B : String → Prop},
    (∀ x, A x → B x) → BindingsReadOnly bs A → BindingsReadOnly bs B
  | [], _, _, _, _ => trivial
  | (_, e) :: rest, _, _, hAB, h =>
    ⟨e.readsOnly_mono hAB h.1, bindingsReadOnly_mono rest (fun y => Or.imp_left (hAB y)) h.2⟩

end

theorem allReadOnly_iff {es : List Expr} {A : String → Prop} :
    AllReadOnly es A ↔ ∀ e ∈ es, e.ReadsOnly A := by
  induction es with
  | nil => simp [AllReadOnly]
  | cons e rest ih => simp [AllReadOnly, ih]

end Ir

namespace Run

variable {M : Machine}

/-- Two scopes give the allowed names the same values. -/
def Agree (A : String → Prop) (ρ ρ' : Locals M) : Prop := ∀ x, A x → ρ.read x = ρ'.read x

theorem Agree.set {A : String → Prop} {ρ ρ' : Locals M} (h : Agree A ρ ρ') (y : String)
    (v : M.Value) : Agree (fun x => A x ∨ x = y) (ρ.set y v) (ρ'.set y v) := by
  intro x hx
  by_cases hxy : x = y
  · subst hxy
    simp
  · rw [ρ.read_set_of_ne v hxy, ρ'.read_set_of_ne v hxy, h x (hx.resolve_right hxy)]

mutual

/-- **An expression depends only on the names that it reads.** -/
theorem eval_congr : ∀ (e : Ir.Expr) {A : String → Prop} {ρ ρ' : Locals M}, Agree A ρ ρ' →
    e.ReadsOnly A → eval M e ρ = eval M e ρ'
  | .const _, _, _, _, _, _ => rfl
  | .var name, _, _, _, hρ, h => by simp only [eval, readName, hρ name h]
  | .typeRef _ _, _, _, _, _, _ => rfl
  | .attr obj _, _, _, _, hρ, h => by simp only [eval, eval_congr obj hρ h]
  | .call func args, _, _, _, hρ, h => by
    simp only [eval, eval_congr func hρ h.1, evalEach_congr args hρ h.2]
  | .unary _ value, _, _, _, hρ, h => by simp only [eval, eval_congr value hρ h]
  | .binary _ left right, _, _, _, hρ, h => by
    simp only [eval, eval_congr left hρ h.1, eval_congr right hρ h.2]
  | .ifExpr condition yes no, _, _, _, hρ, h => by
    simp only [eval, eval_congr condition hρ h.1, eval_congr yes hρ h.2.1, eval_congr no hρ h.2.2]
  | .isInstance value _ _, _, _, _, hρ, h => by simp only [eval, eval_congr value hρ h]
  | .annotated value _, _, _, _, hρ, h => by simp only [eval, eval_congr value hρ h]
  | .letIn bindings body, _, _, _, hρ, h => by
    simp only [eval]
    exact evalBindings_congr bindings hρ h.1 fun hρ₁ => eval_congr body hρ₁ h.2
  | .list items, _, _, _, hρ, h => by simp only [eval, evalEach_congr items hρ h]
  | .tuple items, _, _, _, hρ, h => by simp only [eval, evalEach_congr items hρ h]
  | .dict keys values, _, _, _, hρ, h => by
    simp only [eval, evalEach_congr keys hρ h.1, evalEach_congr values hρ h.2]
  | .subscript value index, _, _, _, hρ, h => by
    simp only [eval, eval_congr value hρ h.1, eval_congr index hρ h.2]

theorem evalEach_congr : ∀ (es : List Ir.Expr) {A : String → Prop} {ρ ρ' : Locals M},
    Agree A ρ ρ' → Ir.AllReadOnly es A → evalEach M es ρ = evalEach M es ρ'
  | [], _, _, _, _, _ => rfl
  | e :: rest, _, _, _, hρ, h => by
    simp only [evalEach, eval_congr e hρ h.1, evalEach_congr rest hρ h.2]

/-- After the same bindings two scopes agree on the bound names too. -/
theorem evalBindings_congr : ∀ (bs : List (String × Ir.Expr)) {A : String → Prop}
    {ρ ρ' : Locals M} {α : Type} {k : Locals M → Action M α}, Agree A ρ ρ' →
    Ir.BindingsReadOnly bs A →
    (∀ {ρ₁ ρ₁' : Locals M}, Agree (fun x => A x ∨ x ∈ bs.map Prod.fst) ρ₁ ρ₁' → k ρ₁ = k ρ₁') →
    (evalBindings M bs ρ >>= k) = (evalBindings M bs ρ' >>= k)
  | [], _, _, _, _, _, hρ, _, hk => by
    simpa [evalBindings] using hk (by simpa using hρ)
  | (x, e) :: rest, _, _, _, _, _, hρ, h, hk => by
    simp only [evalBindings, eval_congr e hρ h.1, bind_assoc]
    congr 1
    funext v
    refine evalBindings_congr rest (hρ.set x v) h.2 fun hρ₁ => hk ?_
    simpa [or_assoc] using hρ₁

end

end Run

end Componentry
