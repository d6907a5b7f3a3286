import Componentry.Compile.Trace

/-!
# Results of computations with a state

Compiling and running are computations that change a state and end with a result or without one.
`runFrom x s` is what becomes of `x` when it starts in `s`, and `Yields x s a s'` says that it
gives `a` and leaves `s'`. The lemmas take such a fact apart along the computation, so that proofs
about the compiler never unfold its monad.
-/

namespace Componentry

section

variable {ε σ α β : Type}

/-- The end of a computation that starts in `s`: a result or a refusal, and the state it leaves. -/
def runFrom (x : ExceptT ε (StateM σ) α) (s : σ) : Except ε α × σ := x.run.run s

@[simp] theorem runFrom_pure (a : α) (s : σ) :
    runFrom (pure a : ExceptT ε (StateM σ) α) s = (.ok a, s) := rfl

@[simp] theorem runFrom_throw (e : ε) (s : σ) :
    runFrom (throw e : ExceptT ε (StateM σ) α) s = (.error e, s) := rfl

theorem runFrom_bind (x : ExceptT ε (StateM σ) α) (f : α → ExceptT ε (StateM σ) β) (s : σ) :
    runFrom (x >>= f) s =
      match runFrom x s with
      | (.ok a, s') => runFrom (f a) s'
      | (.error e, s') => (.error e, s') := by
  simp only [runFrom, ExceptT.run, StateT.run, bind, ExceptT.bind, ExceptT.mk, StateT.bind]
  rcases x s with ⟨_ | _, _⟩ <;> rfl

/-- The computation `x`, started in `s`, gives `a` and leaves `s'`. -/
def Yields (x : ExceptT ε (StateM σ) α) (s : σ) (a : α) (s' : σ) : Prop := runFrom x s = (.ok a, s')

variable {x : ExceptT ε (StateM σ) α} {f : α → ExceptT ε (StateM σ) β} {s s' : σ} {a a' : α} {b : β}

@[simp] theorem yields_pure :
    Yields (pure a : ExceptT ε (StateM σ) α) s a' s' ↔ a = a' ∧ s = s' := by
  simp [Yields]

@[simp] theorem yields_throw {e : ε} : ¬ Yields (throw e : ExceptT ε (StateM σ) α) s a s' := by
  simp [Yields]

@[simp] theorem yields_bind :
    Yields (x >>= f) s b s' ↔ ∃ a s₁, Yields x s a s₁ ∧ Yields (f a) s₁ b s' := by
  unfold Yields
  rw [runFrom_bind]
  rcases hx : runFrom x s with ⟨_ | a, s₁⟩
  · simp
  · constructor
    · exact fun h => ⟨a, s₁, rfl, h⟩
    · rintro ⟨a', s₁', he, h⟩
      obtain ⟨rfl, rfl⟩ : a = a' ∧ s₁ = s₁' := by simpa using he
      exact h

@[simp] theorem yields_map {g : α → β} :
    Yields (g <$> x) s b s' ↔ ∃ a, Yields x s a s' ∧ g a = b := by
  rw [map_eq_pure_bind, yields_bind]
  simp only [yields_pure]
  constructor
  · rintro ⟨a, s₁, h, rfl, rfl⟩
    exact ⟨a, h, rfl⟩
  · rintro ⟨a, h, rfl⟩
    exact ⟨a, s', h, rfl, rfl⟩

/-- What is found in the result of a run is found in a result. -/
theorem exists_yields_of_bind {g : α → Option β}
    (h : ((runFrom x s).1.toOption.bind g) = some b) : ∃ a s', Yields x s a s' ∧ g a = some b := by
  unfold Yields
  rcases hx : runFrom x s with ⟨_ | a, s'⟩
  · simp [hx, Except.toOption] at h
  · exact ⟨a, s', rfl, by simpa [hx, Except.toOption] using h⟩

/-- What is decided of the result of an attempt. -/
theorem exists_ok {r : Except ε α} {P : α → Prop} [DecidablePred P]
    (h : r.toOption.any (fun a => decide (P a)) = true) : ∃ a, r = .ok a ∧ P a := by
  cases r with
  | error e => simp [Except.toOption] at h
  | ok a => exact ⟨a, rfl, by simpa [Except.toOption] using h⟩

theorem exists_some {o : Option α} {P : α → Prop} [DecidablePred P]
    (h : o.any (fun a => decide (P a)) = true) : ∃ a, o = some a ∧ P a := by
  cases o with
  | none => simp at h
  | some a => exact ⟨a, rfl, by simpa using h⟩

theorem exists_ok_some {r : Except ε α} {o : Option β} {P : α → β → Prop}
    [∀ a b, Decidable (P a b)]
    (h : r.toOption.any (fun a => decide (o.any fun b => decide (P a b))) = true) :
    ∃ a b, r = .ok a ∧ o = some b ∧ P a b := by
  obtain ⟨a, hr, h⟩ := exists_ok h
  obtain ⟨b, ho, h⟩ := exists_some h
  exact ⟨a, b, hr, ho, h⟩

/-- The refusal of an attempt. -/
def refusal? : Except ε α → Option ε
  | .ok _ => none
  | .error e => some e

theorem exists_error {r : Except ε α} {P : ε → Prop} [DecidablePred P]
    (h : (refusal? r).any (fun e => decide (P e)) = true) : ∃ e, r = .error e ∧ P e := by
  cases r with
  | ok a => simp [refusal?] at h
  | error e => exact ⟨e, rfl, by simpa [refusal?] using h⟩

theorem Yields.unique {s₁ : σ} (h : Yields x s a s') (h₁ : Yields x s a' s₁) :
    a = a' ∧ s' = s₁ := by
  unfold Yields at h h₁
  simpa using h.symm.trans h₁

end

namespace CompileM

variable {α : Type} {t t' : Trace} {a : α}

@[simp] theorem yields_refuse {place : Option Place} {cause : Cause} :
    ¬ Yields (refuse place cause : CompileM α) t a t' :=
  yields_throw

@[simp] theorem yields_refuseAt {span : Source.Span} {cause : Cause} :
    ¬ Yields (refuseAt span cause : CompileM α) t a t' :=
  yields_throw

/-- A check that refuses lets through what it does not refuse. -/
theorem yields_check {β : Type} {c : Prop} [Decidable c] {span : Source.Span} {cause : Cause}
    {f : β → CompileM α} {x : CompileM α} :
    Yields (if c then refuseAt span cause >>= f else x) t a t' ↔ ¬ c ∧ Yields x t a t' := by
  by_cases h : c <;> simp [h]

@[simp] theorem yields_ofRegistry {place : Option Place} {x : Except Registry.Error α} :
    Yields (ofRegistry place x) t a t' ↔ x = .ok a ∧ t = t' := by
  cases x <;> simp [ofRegistry]

@[simp] theorem yields_ofExcept {x : Except Diagnostic α} :
    Yields (ofExcept x : CompileM α) t a t' ↔ x = .ok a ∧ t = t' := by
  cases x <;> simp [ofExcept]

/-- The generated name with the given stem and number. -/
def generatedName (stem : String) (n : Nat) : String := generatedStart ++ stem ++ toString n

@[simp] theorem yields_fresh {stem x : String} :
    Yields (fresh stem) t x t' ↔
      generatedName stem (t.generated + 1) = x ∧ { t with generated := t.generated + 1 } = t' := by
  have h : runFrom (fresh stem) t =
      (.ok (generatedName stem (t.generated + 1)), { t with generated := t.generated + 1 }) := rfl
  simp [Yields, h]

@[simp] theorem yields_record {type : Option HostType} {u : Unit} :
    Yields (record type) t u t' ↔ { t with log := t.log ++ [type.map HostType.fullName] } = t' := by
  have h : runFrom (record type) t =
      (.ok (), { t with log := t.log ++ [type.map HostType.fullName] }) := rfl
  simp [Yields, h]

/-! ## Results of any run

Compiling never takes back a generated name, so the number of names generated so far only grows. -/

/-- From any state, `x` only gives results with the property `P`, and takes back no name. -/
def Ensures (x : CompileM α) (P : α → Prop) : Prop :=
  ∀ t a t', Yields x t a t' → t.generated ≤ t'.generated ∧ P a

section Ensures

variable {β : Type} {P : α → Prop} {Q : β → Prop} {x : CompileM β} {f : β → CompileM α}

theorem ensures_pure (h : P a) : Ensures (pure a) P := by
  intro t b t' hb
  obtain ⟨rfl, rfl⟩ := yields_pure.mp hb
  exact ⟨Nat.le_refl _, h⟩

theorem Ensures.bind (hx : Ensures x Q) (hf : ∀ b, Q b → Ensures (f b) P) :
    Ensures (x >>= f) P := by
  intro t a t' h
  obtain ⟨b, t₁, hb, ha⟩ := yields_bind.mp h
  obtain ⟨hle, hQ⟩ := hx t b t₁ hb
  obtain ⟨hle', hP⟩ := hf b hQ t₁ a t' ha
  exact ⟨Nat.le_trans hle hle', hP⟩

theorem ensures_ite {c : Prop} [Decidable c] {x y : CompileM α} (hx : Ensures x P)
    (hy : Ensures y P) : Ensures (if c then x else y) P := by
  split
  · exact hx
  · exact hy

theorem ensures_refuse {place : Option Place} {cause : Cause} :
    Ensures (refuse place cause : CompileM α) P := fun _ _ _ h => absurd h yields_refuse

theorem ensures_refuseAt {span : Source.Span} {cause : Cause} :
    Ensures (refuseAt span cause : CompileM α) P := ensures_refuse

theorem ensures_ofRegistry {place : Option Place} {x : Except Registry.Error α}
    (h : ∀ a, x = .ok a → P a) : Ensures (ofRegistry place x) P := by
  intro t a t' ha
  obtain ⟨hok, rfl⟩ := yields_ofRegistry.mp ha
  exact ⟨Nat.le_refl _, h a hok⟩

theorem ensures_ofExcept {x : Except Diagnostic α} (h : ∀ a, x = .ok a → P a) :
    Ensures (ofExcept x) P := by
  intro t a t' ha
  obtain ⟨hok, rfl⟩ := yields_ofExcept.mp ha
  exact ⟨Nat.le_refl _, h a hok⟩

theorem ensures_fresh (stem : String) :
    Ensures (fresh stem) fun x => ∃ n, generatedName stem n = x := by
  intro t x t' h
  obtain ⟨rfl, rfl⟩ := yields_fresh.mp h
  exact ⟨Nat.le_succ _, t.generated + 1, rfl⟩

theorem ensures_record (type : Option HostType) : Ensures (record type) fun _ => True := by
  intro t u t' h
  obtain rfl := yields_record.mp h
  exact ⟨Nat.le_refl _, trivial⟩

theorem ensures_mapM {γ : Type} {g : γ → CompileM α} {cs : List γ} (h : ∀ c ∈ cs, Ensures (g c) P) :
    Ensures (cs.mapM g) fun as => ∀ a ∈ as, P a := by
  induction cs with
  | nil => exact ensures_pure (by simp)
  | cons c rest ih =>
    rw [List.mapM_cons]
    refine (h c List.mem_cons_self).bind fun a ha => ?_
    refine (ih fun c' hc' => h c' (List.mem_cons_of_mem c hc')).bind fun as has => ensures_pure ?_
    exact List.forall_mem_cons.mpr ⟨ha, has⟩

theorem ensures_warn (w : Warning) : Ensures (warn w) fun _ => True := by
  intro t u t' h
  have h : runFrom (warn w) t = (.ok u, t') := h
  obtain ⟨-, rfl⟩ := Prod.mk.inj h
  exact ⟨Nat.le_refl _, trivial⟩

theorem ensures_forIn {γ : Type} {g : γ → β → CompileM (ForInStep β)} (cs : List γ) (b : β)
    (h : ∀ c b, Ensures (g c b) fun _ => True) : Ensures (forIn cs b g) fun _ => True := by
  induction cs generalizing b with
  | nil => exact ensures_pure trivial
  | cons c rest ih =>
    rw [List.forIn_cons]
    refine (h c b).bind fun step _ => ?_
    cases step with
    | done b' => exact ensures_pure trivial
    | yield b' => exact ih b'

end Ensures

/-! ## Computations that do not refuse -/

/-- From any state, `x` gives a result. -/
def Total (x : CompileM α) : Prop := ∀ t, ∃ a t', Yields x t a t'

section Total

variable {β : Type} {x : CompileM β} {f : β → CompileM α}

theorem total_pure (a : α) : Total (pure a) := fun t => ⟨a, t, yields_pure.mpr ⟨rfl, rfl⟩⟩

theorem Total.bind (hx : Total x) (hf : ∀ b t t', Yields x t b t' → Total (f b)) :
    Total (x >>= f) := by
  intro t
  obtain ⟨b, t₁, hb⟩ := hx t
  obtain ⟨a, t₂, ha⟩ := hf b t t₁ hb t₁
  exact ⟨a, t₂, yields_bind.mpr ⟨b, t₁, hb, ha⟩⟩

theorem total_ofRegistry {place : Option Place} {x : Except Registry.Error α} (h : x = .ok a) :
    Total (ofRegistry place x) := fun t => ⟨a, t, yields_ofRegistry.mpr ⟨h, rfl⟩⟩

theorem total_fresh (stem : String) : Total (fresh stem) := fun _ =>
  ⟨_, _, yields_fresh.mpr ⟨rfl, rfl⟩⟩

theorem total_record (type : Option HostType) : Total (record type) := fun _ =>
  ⟨(), _, yields_record.mpr rfl⟩

end Total

end CompileM

end Componentry
