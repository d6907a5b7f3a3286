import Componentry.Proofs.Flow
import Componentry.Proofs.Renaming
import Componentry.Proofs.Unplaced

/-!
# Two compilations in step

A declaration may be compiled twice: at other places of a source, after other declarations, with a
registry and an environment that list the same facts in another order. The two runs are `InStep d`
if they both refuse, or both succeed with results that correspond, and the second is always `d`
generated names ahead. What corresponds to code is then the same code with its generated names
renumbered by `d`.

Environments only have to agree on the names of sources (`TypeEnv.Alike`). A generated name is
looked up nowhere but in the lookup that has just bound it, so there the types are carried along by
hand.

**Theorem (`resolve_rename`).** Code that corresponds has the same static type.
-/

namespace Componentry

open CompileM

/-! ## Runs in step -/

section InStep

variable {α β γ δ : Type} {d : Int} {R : α → β → Prop} {Q : γ → δ → Prop}

/-- Both ends are refusals, or results that correspond with `d` more names in the second. -/
def EndInStep (d : Int) (R : α → β → Prop) :
    Except Diagnostic α × Trace → Except Diagnostic β × Trace → Prop
  | (.ok a, s), (.ok b, s') => (s'.generated : Int) = s.generated + d ∧ R a b
  | (.error _, _), (.error _, _) => True
  | _, _ => False

/-- The runs of `x` from `t` and of `y` from `t'` end in step. -/
def InStepAt (d : Int) (R : α → β → Prop) (x : CompileM α) (t : Trace) (y : CompileM β)
    (t' : Trace) : Prop :=
  EndInStep d R (runFrom x t) (runFrom y t')

/-- Runs that start with `d` more names in the second end in step. -/
def InStep (d : Int) (R : α → β → Prop) (x : CompileM α) (y : CompileM β) : Prop :=
  ∀ t t' : Trace, (t'.generated : Int) = t.generated + d → InStepAt d R x t y t'

variable {x : CompileM α} {y : CompileM β} {f : α → CompileM γ} {g : β → CompileM δ} {t t' : Trace}

theorem InStepAt.bind (h : InStepAt d R x t y t')
    (hf : ∀ a s b s', Yields x t a s → Yields y t' b s' → (s'.generated : Int) = s.generated + d →
      R a b → InStepAt d Q (f a) s (g b) s') :
    InStepAt d Q (x >>= f) t (y >>= g) t' := by
  unfold InStepAt at h ⊢
  rw [runFrom_bind, runFrom_bind]
  rcases hx : runFrom x t with ⟨_ | a, s⟩ <;> rcases hy : runFrom y t' with ⟨_ | b, s'⟩ <;>
    rw [hx, hy] at h
  · trivial
  · exact h.elim
  · exact h.elim
  · exact hf a s b s' hx hy h.1 h.2

/-- The second run gives what corresponds to the result of the first. -/
theorem InStepAt.exists_yields (h : InStepAt d R x t y t') {a : α} {s : Trace}
    (hx : Yields x t a s) :
    ∃ b s', Yields y t' b s' ∧ (s'.generated : Int) = s.generated + d ∧ R a b := by
  unfold InStepAt at h
  rw [show runFrom x t = (.ok a, s) from hx] at h
  rcases hy : runFrom y t' with ⟨_ | b, s'⟩ <;> rw [hy] at h
  · exact h.elim
  · exact ⟨b, s', hy, h.1, h.2⟩

theorem InStep.bind (hx : InStep d R x y) (hf : ∀ a b, R a b → InStep d Q (f a) (g b)) :
    InStep d Q (x >>= f) (y >>= g) := by
  intro t t' ht
  exact (hx t t' ht).bind fun a s b s' _ _ hs hR => hf a b hR s s' hs

theorem inStep_pure {a : α} {b : β} (h : R a b) : InStep d R (pure a) (pure b) :=
  fun _ _ ht => ⟨ht, h⟩

theorem inStep_refuse {place place' : Option Place} {cause cause' : Cause} :
    InStep d R (refuse place cause) (refuse place' cause') :=
  fun _ _ _ => trivial

theorem inStep_refuseAt {span span' : Source.Span} {cause cause' : Cause} :
    InStep d R (refuseAt span cause) (refuseAt span' cause') :=
  inStep_refuse

/-- Results may be compared more loosely, with what is known of the first run. -/
theorem InStep.imp_of_yields {R' : α → β → Prop} (hx : InStep d R x y)
    (h : ∀ t a s b, Yields x t a s → R a b → R' a b) : InStep d R' x y := by
  intro t t' ht
  have hxt := hx t t' ht
  unfold InStepAt at hxt ⊢
  rcases hx : runFrom x t with ⟨_ | a, s⟩ <;> rcases hy : runFrom y t' with ⟨_ | b, s'⟩ <;>
    rw [hx, hy] at hxt
  · trivial
  · exact hxt.elim
  · exact hxt.elim
  · exact ⟨hxt.1, h t a s b hx hxt.2⟩

theorem InStep.mono {R' : α → β → Prop} (hx : InStep d R x y) (h : ∀ a b, R a b → R' a b) :
    InStep d R' x y :=
  hx.imp_of_yields fun _ a _ b _ => h a b

/-- What the first run ensures is known of its result. -/
theorem InStep.and_ensures {P : α → Prop} (hx : InStep d R x y) (hP : Ensures x P) :
    InStep d (fun a b => R a b ∧ P a) x y :=
  hx.imp_of_yields fun t a s _ ha hR => ⟨hR, (hP t a s ha).2⟩

theorem inStep_ite {c c' : Prop} [Decidable c] [Decidable c'] {x' : CompileM α} {y' : CompileM β}
    (hc : c ↔ c') (hx : InStep d R x y) (hx' : InStep d R x' y') :
    InStep d R (if c then x else x') (if c' then y else y') := by
  by_cases h : c
  · rw [if_pos h, if_pos (hc.mp h)]
    exact hx
  · rw [if_neg h, if_neg fun h' => h (hc.mpr h')]
    exact hx'

theorem inStep_check {c c' : Prop} [Decidable c] [Decidable c'] {span span' : Source.Span}
    {cause cause' : Cause} {f : γ → CompileM α} {g : δ → CompileM β} (hc : c ↔ c')
    (hx : InStep d R x y) :
    InStep d R (if c then refuseAt span cause >>= f else x)
      (if c' then refuseAt span' cause' >>= g else y) :=
  inStep_ite hc (inStep_refuseAt (R := fun _ _ => False).bind fun _ _ h => h.elim) hx

theorem inStep_ofExcept {x y : Except Diagnostic α} (h : x.toOption = y.toOption) :
    InStep d Eq (ofExcept x : CompileM α) (ofExcept y : CompileM α) := by
  cases x <;> cases y
  · exact fun _ _ _ => trivial
  · simp [Except.toOption] at h
  · simp [Except.toOption] at h
  · exact inStep_pure (by simpa [Except.toOption] using h)

theorem inStep_ofRegistry {place place' : Option Place} {x : Except Registry.Error α} :
    InStep d Eq (ofRegistry place x) (ofRegistry place' x) := by
  cases x with
  | error e => exact inStep_refuse
  | ok a => exact inStep_pure rfl

theorem inStep_record (T T' : Option HostType) :
    InStep d (fun _ _ => True) (record T) (record T') :=
  fun _ _ ht => ⟨ht, trivial⟩

theorem inStep_warn (w w' : Warning) : InStep d (fun _ _ => True) (warn w) (warn w') :=
  fun _ _ ht => ⟨ht, trivial⟩

theorem inStep_mapM {cs : List γ} {cs' : List δ} {f : γ → CompileM α} {g : δ → CompileM β}
    (h : List.Forall₂ (fun c c' => InStep d R (f c) (g c')) cs cs') :
    InStep d (List.Forall₂ R) (cs.mapM f) (cs'.mapM g) := by
  induction h with
  | nil => exact inStep_pure .nil
  | cons hc _ ih =>
    rw [List.mapM_cons, List.mapM_cons]
    exact hc.bind fun a b hab => ih.bind fun as bs habs => inStep_pure (.cons hab habs)

theorem inStep_forIn {cs : List γ} {a : α} {b : β} {f : γ → α → CompileM (ForInStep α)}
    {g : γ → β → CompileM (ForInStep β)} (hab : R a b)
    (h : ∀ c a b, R a b → InStep d (fun p q => (∃ a' b', p = .yield a' ∧ q = .yield b' ∧ R a' b') ∨
      ∃ a' b', p = .done a' ∧ q = .done b' ∧ R a' b') (f c a) (g c b)) :
    InStep d R (forIn cs a f) (forIn cs b g) := by
  induction cs generalizing a b with
  | nil => exact inStep_pure hab
  | cons c rest ih =>
    rw [List.forIn_cons, List.forIn_cons]
    refine (h c a b hab).bind fun p q hpq => ?_
    rcases hpq with ⟨a', b', rfl, rfl, hab'⟩ | ⟨a', b', rfl, rfl, hab'⟩
    · exact ih hab'
    · exact inStep_pure hab'

end InStep

/-! ## Renumbered by a distance -/

/-- The name with its number moved by `d`. -/
def moved (d : Int) : String → String := renumber fun k => ((k : Int) + d).toNat

theorem moved_of_source {x : String} (h : Compile.isGenerated x = false) (d : Int) :
    moved d x = x := renumber_of_source h _

theorem moved_zero : moved 0 = id := by
  funext x
  have hid : (fun k : Nat => ((k : Int) + 0).toNat) = id := by
    funext k
    simp
  rw [moved, hid, renumber_id, id]

/-- The next generated names of two runs of which the second is `d` names ahead. -/
def Next (d : Int) (stem x x' : String) : Prop :=
  ∃ n n' : Nat, (n' : Int) = n + d ∧ x = generatedName stem (n + 1) ∧
    x' = generatedName stem (n' + 1)

namespace Next

variable {d : Int} {stem x x' : String}

theorem isGenerated (h : Next d stem x x') :
    Compile.isGenerated x = true ∧ Compile.isGenerated x' = true := by
  obtain ⟨n, n', -, rfl, rfl⟩ := h
  exact ⟨Compile.isGenerated_generatedName _ _, Compile.isGenerated_generatedName _ _⟩

/-- A name becomes the next one of the second run only if it is the next one of the first. -/
theorem moved_eq_iff (h : Next d stem x x') (hstem : stem ∈ stems) {y : String} :
    moved d y = x' ↔ y = x := by
  obtain ⟨n, n', hn, rfl, rfl⟩ := h
  rcases renumber_cases (fun k => ((k : Int) + d).toNat) y with
    ⟨stem', hstem', k, rfl, hmoved⟩ | ⟨hne, hmoved⟩
  · rw [moved, hmoved]
    constructor
    · intro heq
      obtain ⟨rfl, hk⟩ := generatedName_inj hstem' hstem heq
      congr 1
      omega
    · intro heq
      obtain ⟨rfl, hk⟩ := generatedName_inj hstem' hstem heq
      congr 1
      omega
  · rw [moved, hmoved]
    exact iff_of_false (hne stem hstem _) (hne stem hstem _)

theorem eq_moved (h : Next d stem x x') (hstem : stem ∈ stems) : x' = moved d x :=
  ((h.moved_eq_iff hstem).mpr rfl).symm

end Next

theorem inStep_fresh {d : Int} (stem : String) :
    InStep d (Next d stem) (fresh stem) (fresh stem) := by
  intro t t' ht
  refine ⟨?_, t.generated, t'.generated, ht, rfl, rfl⟩
  change ((t'.generated + 1 : Nat) : Int) = (t.generated + 1 : Nat) + d
  omega

/-- The code is the same up to the numbers of generated names. -/
def Moved (d : Int) (code code' : Ir.Expr) : Prop := code' = code.rename (moved d)

/-- The statements are the same up to the numbers of generated names. -/
def BlockMoved (d : Int) (code code' : List Ir.Stmt) : Prop :=
  code' = Ir.renameBlock (moved d) code

/-! ## Alike environments -/

/-- The environments agree on the names of sources. -/
structure TypeEnv.Alike (env env' : TypeEnv) : Prop where
  locals : ∀ x, Compile.isGenerated x = false → env.locals.get? x = env'.locals.get? x
  declared : ∀ x, Compile.isGenerated x = false → env.isDeclared x = env'.isDeclared x
  globals : ∀ x, env.globals.get? x = env'.globals.get? x
  callables : ∀ x, env.callables.contains x = env'.callables.contains x
  hostTypes : env.hostTypes = env'.hostTypes

namespace TypeEnv.Alike

variable {env env' : TypeEnv} {x x' : String} {T : Option HostType}

theorem isLocal (h : env.Alike env') (hx : Compile.isGenerated x = false) :
    env.isLocal x = env'.isLocal x := by
  simp [TypeEnv.isLocal, Table.contains, h.locals x hx]

theorem knows (h : env.Alike env') (hx : Compile.isGenerated x = false) :
    env.knows x = env'.knows x := by
  simp only [TypeEnv.knows, Table.contains, h.locals x hx, h.globals x, h.callables x, h.hostTypes]

theorem localType (h : env.Alike env') (hx : Compile.isGenerated x = false) :
    env.localType x = env'.localType x := by
  simp [TypeEnv.localType, h.locals x hx]

theorem declaredType (h : env.Alike env') (hx : Compile.isGenerated x = false) :
    env.declaredType x = env'.declaredType x := by
  simp [TypeEnv.declaredType, h.declared x hx, h.localType hx]

theorem nameType (h : env.Alike env') (hx : Compile.isGenerated x = false) :
    nameType env x = Componentry.nameType env' x := by
  simp only [Componentry.nameType, h.isLocal hx, h.localType hx, h.callables x, h.globals x]

theorem bind (h : env.Alike env') (x : String) (T : Option HostType) :
    (env.bind x T).Alike (env'.bind x T) where
  locals y hy := by simp [h.locals y hy]
  declared y hy := by simp [h.declared y hy]
  globals := h.globals
  callables := h.callables
  hostTypes := h.hostTypes

theorem bind_left (h : env.Alike env') (hx : Compile.isGenerated x = true) (T : Option HostType) :
    (env.bind x T).Alike env' where
  locals y hy := by
    have hyx : y ≠ x := by rintro rfl; simp [hx] at hy
    simp [hyx, h.locals y hy]
  declared y hy := by simp [h.declared y hy]
  globals := h.globals
  callables := h.callables
  hostTypes := h.hostTypes

theorem symm (h : env.Alike env') : env'.Alike env where
  locals x hx := (h.locals x hx).symm
  declared x hx := (h.declared x hx).symm
  globals x := (h.globals x).symm
  callables x := (h.callables x).symm
  hostTypes := h.hostTypes.symm

theorem bind_generated (h : env.Alike env') (hx : Compile.isGenerated x = true)
    (hx' : Compile.isGenerated x' = true) (T T' : Option HostType) :
    (env.bind x T).Alike (env'.bind x' T') :=
  ((h.bind_left hx T).symm.bind_left hx' T').symm

theorem declare (h : env.Alike env') (x : String) (T : Option HostType) :
    (env.declare x T).Alike (env'.declare x T) where
  locals y hy := by simp [h.locals y hy]
  declared y hy := by
    rw [Bool.eq_iff_iff, isDeclared_declare, isDeclared_declare, h.declared y hy]
  globals := h.globals
  callables := h.callables
  hostTypes := h.hostTypes

theorem forget (h : env.Alike env') (names : List String) :
    (env.forget names).Alike (env'.forget names) where
  locals y hy := by simp [h.locals y hy, h.declared y hy]
  declared y hy := by simp [h.declared y hy]
  globals := h.globals
  callables := h.callables
  hostTypes := h.hostTypes

theorem merge (h : env.Alike env') {a a' b b' : TypeEnv} (ha : a.Alike a') (hb : b.Alike b') :
    (env.merge [a, b]).Alike (env'.merge [a', b']) where
  locals y hy := by
    have hjoined : joined env [a, b] y = joined env' [a', b'] y := by
      simp [joined, agreed, h.declared y hy, h.localType hy, ha.locals y hy, hb.locals y hy]
    simp [get?_merge, hjoined, h.locals y hy, ha.locals y hy, hb.locals y hy]
  declared y hy := by
    rw [Bool.eq_iff_iff, isDeclared_merge, isDeclared_merge]
    simp [h.declared y hy, ha.declared y hy, hb.declared y hy]
  globals := h.globals
  callables := h.callables
  hostTypes := h.hostTypes

end TypeEnv.Alike

/-! ## Alike registries -/

/-- The registries answer alike, and no designator looks like a generated name. -/
structure Registry.Alike (r r' : Registry) : Prop where
  lookup : ∀ d, r.lookup d = r'.lookup d
  ancestors : ∀ t, r.ancestors t = r'.ancestors t
  source : ∀ d, Compile.isGenerated d = true → r.lookup d = none

namespace Registry.Alike

variable {r r' : Registry} (h : r.Alike r')

include h

theorem ensure (d : String) : r.ensure d = r'.ensure d := by
  simp [Registry.ensure, h.lookup d]

theorem isSubtype (s t : HostType) : r.isSubtype s t = r'.isSubtype s t := by
  simp [Registry.isSubtype, h.ancestors]

theorem fieldType (t : HostType) (field : String) : r.fieldType t field = r'.fieldType t field := by
  rw [Registry.fieldType, Registry.fieldType, h.ancestors, funext h.lookup]

theorem literalType (value : Ir.Literal) :
    literalType r value = Componentry.literalType r' value := by
  cases value <;> simp [Componentry.literalType, h.lookup]

theorem mostSpecific (types : List (Option HostType)) :
    mostSpecific r types = Componentry.mostSpecific r' types := by
  have hchallenge : challenge r = challenge r' := by
    funext champion candidate
    simp [challenge, isStrictSubtype, h.isSubtype]
  rw [Componentry.mostSpecific, Componentry.mostSpecific, hchallenge]

theorem resolveClauses {α : Type} (clauses : List (String × α)) :
    resolveClauses r clauses = Componentry.resolveClauses r' clauses := by
  induction clauses with
  | nil => rfl
  | cons c rest ih => simp [Componentry.resolveClauses, h.ensure, ih]

theorem make {α : Type} (static : Option HostType) (cs : List (Clause α)) :
    Plan.make r static cs = Plan.make r' static cs := by
  have hsurvivors (t : HostType) (cs : List (Clause α)) :
      Plan.survivors r t cs = Plan.survivors r' t cs := by
    induction cs with
    | nil => rfl
    | cons c rest ih => simp [Plan.survivors, areRelated, h.isSubtype, ih]
  simp only [Plan.make, hsurvivors]

end Registry.Alike

/-- The static type of code does not depend on the numbers of generated names. -/
theorem resolve_rename {r r' : Registry} {env env' : TypeEnv} (hr : r.Alike r')
    (henv : env.Alike env') (d : Int) {e : Ir.Expr} (he : Compile.ReadsSource e) :
    resolve r' env' (e.rename (moved d)) = resolve r env e := by
  fun_induction resolve r env e with
  | case1 value typeName => simp [Ir.Expr.rename, resolve, hr.lookup]
  | case2 value => simp [Ir.Expr.rename, resolve, hr.literalType]
  | case3 typeName codeName => simp [Ir.Expr.rename, resolve, hr.lookup]
  | case4 x =>
    have hx : Compile.isGenerated x = false := he
    simp [Ir.Expr.rename, resolve, moved_of_source hx, henv.nameType hx]
  | case5 obj field ih =>
    have hfield : (r'.fieldType · field) = (r.fieldType · field) := by
      funext T
      rw [hr.fieldType]
    simp [Ir.Expr.rename, resolve, ih he, hfield]
  | case6 e => cases e <;> simp_all [Ir.Expr.rename, resolve]

end Componentry
