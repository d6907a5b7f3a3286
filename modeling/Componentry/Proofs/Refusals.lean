import Componentry.Proofs.Stepwise

/-!
# Refusals

`Refuses x t c` says that the computation `x`, started in `t`, is refused for the cause `c`. As a
computation goes step by step, a refusal is one of its first step or of what follows
(`refuses_bind`).

Only one step of a compilation refuses an annotation because it conflicts with an earlier one. All
others are said to spare annotations (`Spares`). So does every function of the compiler but those
that compile statements, as it is put together from such steps.
-/

namespace Componentry

open CompileM

/-! ## Steps of a computation -/

/-- The computation `x`, started in `t`, is refused for the cause `c`. -/
def Refuses {α : Type} (x : CompileM α) (t : Trace) (c : Cause) : Prop :=
  ∃ place t', runFrom x t = (.error ⟨c, place⟩, t')

section Refuses

variable {α β : Type} {x : CompileM α} {f : α → CompileM β} {t t' : Trace} {c : Cause}

@[simp] theorem refuses_pure {a : α} : ¬ Refuses (pure a) t c := by
  simp [Refuses]

@[simp] theorem refuses_bind :
    Refuses (x >>= f) t c ↔ Refuses x t c ∨ ∃ a t₁, Yields x t a t₁ ∧ Refuses (f a) t₁ c := by
  unfold Refuses Yields
  rw [runFrom_bind]
  rcases hx : runFrom x t with ⟨d | a, t₁⟩
  · simp
  · constructor
    · exact fun h => .inr ⟨a, t₁, rfl, h⟩
    · rintro (⟨place, t', h⟩ | ⟨a', t₁', h, hf⟩)
      · simp at h
      · obtain ⟨rfl, rfl⟩ : a = a' ∧ t₁ = t₁' := by simpa using h
        exact hf

@[simp] theorem refuses_map {g : α → β} : Refuses (g <$> x) t c ↔ Refuses x t c := by
  rw [map_eq_pure_bind, refuses_bind]
  simp

@[simp] theorem refuses_refuse {place : Option Place} {cause : Cause} :
    Refuses (refuse place cause : CompileM α) t c ↔ cause = c := by
  have hrun : runFrom (refuse place cause : CompileM α) t = (.error ⟨cause, place⟩, t) := rfl
  simp [Refuses, hrun]

@[simp] theorem refuses_refuseAt {span : Source.Span} {cause : Cause} :
    Refuses (refuseAt span cause : CompileM α) t c ↔ cause = c := refuses_refuse

theorem refuses_check {γ : Type} {p : Prop} [Decidable p] {span : Source.Span} {cause : Cause}
    {g : γ → CompileM α} :
    Refuses (if p then refuseAt span cause >>= g else x) t c ↔
      p ∧ cause = c ∨ ¬ p ∧ Refuses x t c := by
  by_cases hp : p <;> simp [hp]

/-- Of computations in a row one is refused, after those before it gave their results. -/
theorem refuses_mapM {γ : Type} {g : γ → CompileM α} {cs : List γ} :
    Refuses (cs.mapM g) t c ↔ ∃ before k after as t', cs = before ++ k :: after ∧
      Yields (before.mapM g) t as t' ∧ Refuses (g k) t' c := by
  induction cs generalizing t with
  | nil => simp
  | cons k rest ih =>
    rw [List.mapM_cons, refuses_bind]
    simp only [refuses_bind, refuses_pure, and_false, exists_false, or_false, ih]
    constructor
    · rintro (h | ⟨a, t₁, ha, before, k', after, as, t', rfl, has, hk'⟩)
      · exact ⟨[], k, rest, [], t, rfl, yields_pure.mpr ⟨rfl, rfl⟩, h⟩
      · refine ⟨k :: before, k', after, a :: as, t', rfl, ?_, hk'⟩
        rw [List.mapM_cons]
        exact yields_bind.mpr ⟨a, t₁, ha, yields_bind.mpr ⟨as, t', has, yields_pure.mpr ⟨rfl, rfl⟩⟩⟩
    · rintro ⟨before, k', after, as, t', heq, has, hk'⟩
      cases before with
      | nil =>
        obtain ⟨rfl, rfl⟩ := List.cons.inj heq
        obtain ⟨-, rfl⟩ := yields_pure.mp has
        exact .inl hk'
      | cons k₀ before =>
        obtain ⟨rfl, rfl⟩ := List.cons.inj heq
        rw [List.mapM_cons] at has
        simp only [yields_bind, yields_pure] at has
        obtain ⟨a, t₁, ha, as', t₂, has, -, rfl⟩ := has
        exact .inr ⟨a, t₁, ha, before, k', after, as', t₂, rfl, has, hk'⟩

end Refuses

/-! ## Computations that spare annotations -/

/-- The cause is an annotation that conflicts with an earlier one. -/
def Cause.isConflict : Cause → Bool
  | .conflictingAnnot _ => true
  | _ => false

theorem Cause.isConflict_of_isPlain {c : Cause} (h : c.isPlain = true) : c.isConflict = false := by
  cases c with
  | conflictingAnnot name => cases h
  | _ => rfl

/-- The computation is never refused for an annotation that conflicts with an earlier one. -/
def Spares {α : Type} (x : CompileM α) : Prop := ∀ t c, Refuses x t c → c.isConflict = false

section Spares

variable {α β : Type} {x : CompileM α} {f : α → CompileM β}

theorem Spares.not_refuses (hx : Spares x) {t : Trace} {id : String} :
    ¬ Refuses x t (.conflictingAnnot id) := fun h => by simpa [Cause.isConflict] using hx t _ h

/-- After a step that spares annotations, one is refused in what follows. -/
theorem Spares.refuses_bind_iff (hx : Spares x) {t : Trace} {id : String} :
    Refuses (x >>= f) t (.conflictingAnnot id) ↔
      ∃ a t', Yields x t a t' ∧ Refuses (f a) t' (.conflictingAnnot id) := by
  rw [refuses_bind, or_iff_right hx.not_refuses]

theorem spares_refuseAt {span : Source.Span} {cause : Cause} (h : cause.isConflict = false) :
    Spares (refuseAt span cause : CompileM α) := fun _ _ hc => refuses_refuse.mp hc ▸ h

theorem stepwise_spares : Stepwise (fun _ => True) Spares where
  pure _ _ _ h := absurd h refuses_pure
  refuse _ h _ _ hc := refuses_refuse.mp hc ▸ Cause.isConflict_of_isPlain h
  step {α β x f} hx hf t c h := by
    rcases refuses_bind.mp h with h | ⟨a, t₁, ha, h⟩
    · exact hx t c h
    · exact hf a t t₁ ha t₁ c h
  fresh := by
    rintro stem t c ⟨place, t', hrun⟩
    cases hrun
  record := by
    rintro type t c ⟨place, t', hrun⟩
    cases hrun
  warn := by
    rintro w t c ⟨place, t', hrun⟩
    cases hrun

theorem spares_pure (a : α) : Spares (pure a) := stepwise_spares.pure a

theorem Spares.bind (hx : Spares x) (hf : ∀ a, Spares (f a)) : Spares (x >>= f) :=
  stepwise_spares.bind hx hf

theorem spares_ite {p : Prop} [Decidable p] {x y : CompileM α} (hx : Spares x) (hy : Spares y) :
    Spares (if p then x else y) := stepwise_spares.ite hx hy

theorem spares_ofRegistry {place : Option Place} {x : Except Registry.Error α} :
    Spares (ofRegistry place x) := stepwise_spares.ofRegistry trivial

theorem spares_record (type : Option HostType) : Spares (record type) := stepwise_spares.record type

theorem spares_warn (w : Warning) : Spares (warn w) := stepwise_spares.warn w

theorem spares_mapM {γ : Type} {g : γ → CompileM α} (h : ∀ k, Spares (g k)) (cs : List γ) :
    Spares (cs.mapM g) := stepwise_spares.mapM fun k _ => h k

theorem spares_forM {γ : Type} {g : γ → CompileM PUnit} (h : ∀ k, Spares (g k)) (cs : List γ) :
    Spares (cs.forM g) := stepwise_spares.forM fun k _ => h k

end Spares

/-! ## Functions that spare annotations

A refusal counts wherever it is. -/

/-- Every node stands somewhere. -/
theorem placedIn_true (spans : List Source.Span) : PlacedIn (fun _ => True) spans :=
  fun _ _ => trivial

namespace Compile

section

variable (r : Registry) (env : TypeEnv)

theorem spares_expectDotted (label : String) (e : Source.Expr) :
    Spares (ofExcept (e.expectDotted label) : CompileM String) :=
  stepwise_spares.ofExcept (refusedIn_expectDotted label (placedIn_true _))

theorem spares_checkName (span : Source.Span) (id : String) : Spares (checkName span id) :=
  stepwise_checkName stepwise_spares trivial id

theorem spares_annotType (span : Source.Span) (annot : Option Source.Expr) :
    Spares (annotType r span annot) :=
  stepwise_annotType stepwise_spares r trivial (placedIn_true _)

theorem spares_expr (e : Source.Expr) : Spares (expr r env e) :=
  stepwise_expr stepwise_spares r env e (placedIn_true _)

theorem spares_exprOption (e : Option Source.Expr) : Spares (exprOption r env e) :=
  stepwise_exprOption stepwise_spares r env (placedIn_true _)

theorem spares_assign (span : Source.Span) (targets : List Source.Expr) (value : Source.Expr) :
    Spares (assign r env span targets value) :=
  stepwise_assign stepwise_spares r env trivial (placedIn_true _) (placedIn_true _)

theorem spares_augAssign (span : Source.Span) (t : Source.Expr) (op : Source.BinaryOp)
    (value : Source.Expr) : Spares (augAssign r env span t op value) :=
  stepwise_augAssign stepwise_spares r env trivial op (placedIn_true _) (placedIn_true _)

theorem spares_caseHeads (cases : List Source.Case) (heads : Heads) :
    Spares (caseHeads heads cases) :=
  stepwise_caseHeads stepwise_spares (placedIn_true _) heads

theorem spares_subjectName (heads : Heads) : Spares (subjectName heads) :=
  stepwise_subjectName stepwise_spares heads

theorem spares_params (fn : FunctionSource) (receiver : Option HostType) :
    Spares (params r fn receiver env) :=
  stepwise_params stepwise_spares r env trivial (fun _ _ => placedIn_true _) receiver

theorem spares_checkFieldTypes (body : List Source.Stmt) : Spares (checkFieldTypes r body) :=
  stepwise_checkFieldTypes stepwise_spares r (placedIn_true _)

theorem spares_field (span : Source.Span) (t annot : Source.Expr) (value : Option Source.Expr) :
    Spares (field r env span t annot value) :=
  stepwise_field stepwise_spares r env trivial t (placedIn_true _) (placedIn_true _)

end

theorem spares_collect (stmts : List Source.Stmt) (met : List String) :
    Spares (collect met stmts) :=
  stepwise_collect stepwise_spares (placedIn_true _) met

theorem spares_registerAll (classes : List ClassSource) (r : Registry) :
    Spares (registerAll r classes) :=
  stepwise_registerAll stepwise_spares (fun _ _ => placedIn_true _) r

theorem spares_globalTypes (r : Registry) (globals : List GlobalSource) :
    Spares (globalTypes r globals) :=
  stepwise_globalTypes stepwise_spares r fun _ _ => placedIn_true _

theorem spares_global (r : Registry) (env : TypeEnv) (g : GlobalSource) : Spares (global r env g) :=
  stepwise_global stepwise_spares r env (placedIn_true _)

theorem spares_warnUnused (functions : List FunctionSource) (m : Ir.Module) :
    Spares (warnUnused functions m) :=
  stepwise_warnUnused stepwise_spares functions m

end Compile

theorem Definition.spares_compile (known : Messages) (policy : DuplicatePolicy)
    (ambient : Option Place) (d : Input) : Spares (compile known policy ambient d) :=
  stepwise_compile stepwise_spares known policy trivial d fun _ _ => trivial

end Componentry
