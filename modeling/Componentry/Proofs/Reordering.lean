import Mathlib.Data.List.Forall2
import Mathlib.Logic.Equiv.Basic
import Componentry.Proofs.BlankTexts
import Componentry.Proofs.FirstPass

/-!
# The order of top-level statements

The second pass compiles values, functions and components one after the other, and the numbers of
generated names run through all of them. In another order every declaration starts from another
number, so its code differs by a shift, and the shifts of all declarations fit together to one
permutation of the numbers.

**Theorem (`perm_mapM`).** Compiling the members of a list in another order gives the same results
in that order, renumbered by a permutation of the numbers that the whole list generates.

**Theorem (`order_of_statements_is_free`).** Of two sources with the same top-level statements in
any order, both are accepted or none. If they are, their values, functions and components are the
same up to one renumbering of generated names, and only the order of the lists differs.
-/

namespace Componentry

open CompileM Compile

open Ir (Part Has Coded)

/-! ## Ranges of numbers -/

/-- The generated names of the parts have numbers above `n` and up to `n'`. -/
structure Within (n n' : Nat) (ps : List Part) : Prop where
  le : n ≤ n'
  numbered : ∀ x, isGenerated x = true → Has ps x → Numbered n n' x

theorem within_of_distinct {n n' : Nat} {ps : List Part} (h : Distinct n n' ps)
    (hbound : SelfBound ps) : Within n n' ps where
  le := h.le
  numbered x hx hmem := by
    rcases hmem with hmem | hmem
    · exact h.numbered x hx (hbound x hx hmem)
    · exact h.numbered x hx hmem

section Rename

variable {α : Type} [Coded α] {a : α} {n n' : Nat} {σ τ : Nat → Nat}

/-- Renumberings that agree on the range do the same. -/
theorem Within.rename_congr (h : Within n n' (Coded.parts a))
    (hστ : ∀ k, n < k → k ≤ n' → σ k = τ k) :
    Coded.rename (renumber σ) a = Coded.rename (renumber τ) a := by
  refine Coded.rename_congr fun x hx => ?_
  cases hgen : isGenerated x with
  | false => rw [renumber_of_source hgen, renumber_of_source hgen]
  | true => exact (h.numbered x hgen hx).renumber_congr hστ

theorem Within.rename_eq_self (h : Within n n' (Coded.parts a))
    (hσ : ∀ k, n < k → k ≤ n' → σ k = k) : Coded.rename (renumber σ) a = a := by
  rw [h.rename_congr (τ := id) hσ, funext renumber_id]
  exact Coded.rename_id a

end Rename

/-- The permutation changes no number outside of the range. -/
structure Inside (σ : Equiv.Perm Nat) (n n' : Nat) : Prop where
  below : ∀ k, k ≤ n → σ k = k
  above : ∀ k, n' < k → σ k = k

theorem Inside.mem_range {σ : Equiv.Perm Nat} {n n' k : Nat} (h : Inside σ n n') (hk : n < k)
    (hk' : k ≤ n') : n < σ k ∧ σ k ≤ n' := by
  constructor
  · by_contra hle
    have hfix : σ k = k := σ.injective (h.below (σ k) (by omega))
    omega
  · by_contra hlt
    have hfix : σ k = k := σ.injective (h.above (σ k) (by omega))
    omega

/-- Two ranges that follow each other from `n` on, of `a` and of `b` numbers, change places. -/
def swapRanges (n a b : Nat) : Equiv.Perm Nat where
  toFun k := if k ≤ n then k else if k ≤ n + a then k + b else if k ≤ n + a + b then k - a else k
  invFun k := if k ≤ n then k else if k ≤ n + b then k + a else if k ≤ n + b + a then k - b else k
  left_inv k := by dsimp only; split_ifs <;> omega
  right_inv k := by dsimp only; split_ifs <;> omega

theorem swapRanges_apply (n a b k : Nat) : swapRanges n a b k =
    if k ≤ n then k else if k ≤ n + a then k + b else if k ≤ n + a + b then k - a else k := rfl

/-! ## Lists of declarations -/

section Lists

variable {α γ : Type} [Coded α]

/-- The second result is the first with its numbers moved. -/
def Shifted (d : Int) (a a' : α) : Prop := a' = Coded.rename (moved d) a

theorem shifted_zero {a a' : α} : Shifted 0 a a' ↔ a' = a := by
  rw [Shifted, moved_zero, Coded.rename_id]

/-- Compiling `c` depends on the state by a shift of numbers only, and its generated names have the
next numbers. -/
structure Shifts (f : γ → CompileM α) (c : γ) : Prop where
  inStep : ∀ d, InStep d (Shifted d) (f c) (f c)
  within : ∀ t a t', Yields (f c) t a t' → Within t.generated t'.generated (Coded.parts a)

variable {f : γ → CompileM α} {cs cs' : List γ} {as : List α} {t t' s : Trace}

theorem within_mapM (hf : ∀ c ∈ cs, Shifts f c) (h : Yields (cs.mapM f) t as s) :
    t.generated ≤ s.generated ∧
      ∀ a ∈ as, Within t.generated s.generated (Coded.parts a) := by
  induction cs generalizing t as with
  | nil =>
    obtain ⟨rfl, rfl⟩ := yields_pure.mp h
    simp
  | cons c rest ih =>
    rw [List.mapM_cons] at h
    simp only [yields_bind, yields_pure] at h
    obtain ⟨a, t₁, ha, as', t₂, has, rfl, rfl⟩ := h
    obtain ⟨hc, hrest⟩ := List.forall_mem_cons.mp hf
    have hfirst := hc.within t a t₁ ha
    obtain ⟨hle, hall⟩ := ih hrest has
    refine ⟨hfirst.le.trans hle, List.forall_mem_cons.mpr ⟨?_, fun b hb => ?_⟩⟩
    · exact ⟨hfirst.le.trans hle, fun x hx hmem =>
        (hfirst.numbered x hx hmem).mono (le_refl _) hle⟩
    · exact ⟨hfirst.le.trans hle, fun x hx hmem =>
        ((hall b hb).numbered x hx hmem).mono hfirst.le (le_refl _)⟩

/-- Only the number of generated names counts in a state. -/
theorem mapM_of_generated_eq (hf : ∀ c ∈ cs, Shifts f c) (ht : t'.generated = t.generated)
    (h : Yields (cs.mapM f) t as s) :
    ∃ s', Yields (cs.mapM f) t' as s' ∧ s'.generated = s.generated := by
  have hstep : InStep 0 (List.Forall₂ (Shifted 0)) (cs.mapM f) (cs.mapM f) :=
    inStep_mapM (List.forall₂_same.mpr fun c hc => (hf c hc).inStep 0)
  obtain ⟨as', s', hrun, hs, has⟩ := (hstep t t' (by omega)).exists_yields h
  have has : List.Forall₂ Eq as as' := has.imp fun _ _ h => (shifted_zero.mp h).symm
  rw [List.forall₂_eq_eq_eq] at has
  exact ⟨s', has ▸ hrun, by omega⟩

/-- **Another order gives the same results, renumbered.** Two neighbours that change places exchange
their ranges of numbers. -/
theorem perm_mapM (hperm : cs.Perm cs') (hf : ∀ c ∈ cs, Shifts f c)
    (ht : t'.generated = t.generated) (h : Yields (cs.mapM f) t as s) :
    ∃ as' s' σ, Yields (cs'.mapM f) t' as' s' ∧ s'.generated = s.generated ∧
      Inside σ t.generated s.generated ∧
      (as.map (Coded.rename (renumber σ))).Perm as' := by
  induction hperm generalizing t t' as s with
  | nil =>
    obtain ⟨rfl, rfl⟩ := yields_pure.mp h
    exact ⟨[], t', .refl _, yields_pure.mpr ⟨rfl, rfl⟩, ht, ⟨fun _ _ => rfl, fun _ _ => rfl⟩, .nil⟩
  | @cons c rest rest' _ ih =>
    obtain ⟨hc, hrest⟩ := List.forall_mem_cons.mp hf
    rw [List.mapM_cons] at h
    simp only [yields_bind, yields_pure] at h
    obtain ⟨a, t₁, ha, as', t₂, has, rfl, rfl⟩ := h
    obtain ⟨a', t₁', ha', ht₁, hshift⟩ := (hc.inStep 0 t t' (by omega)).exists_yields ha
    obtain rfl := shifted_zero.mp hshift
    have ht₁ : t₁'.generated = t₁.generated := by omega
    obtain ⟨bs, s', σ, hbs, hs', hσ, hperm⟩ := ih hrest ht₁ has
    have hfirst := hc.within t a' t₁ ha
    refine ⟨a' :: bs, s', σ, ?_, hs', ⟨fun k hk => hσ.below k (hk.trans hfirst.le), hσ.above⟩, ?_⟩
    · rw [List.mapM_cons]
      simp only [yields_bind, yields_pure]
      exact ⟨a', t₁', ha', bs, s', hbs, rfl, rfl⟩
    · rw [List.map_cons, hfirst.rename_eq_self fun k _ hk => hσ.below k hk]
      exact hperm.cons a'
  | swap x y rest =>
    obtain ⟨hy, hrest⟩ := List.forall_mem_cons.mp hf
    obtain ⟨hx, hrest⟩ := List.forall_mem_cons.mp hrest
    rw [List.mapM_cons, List.mapM_cons] at h
    simp only [yields_bind, yields_pure] at h
    obtain ⟨b, t₁, hb, _, _, ⟨a, t₂, ha, as', t₃, has, rfl, rfl⟩, rfl, rfl⟩ := h
    have hbin := hy.within t b t₁ hb
    have hain := hx.within t₁ a t₂ ha
    obtain ⟨hle, hall⟩ := within_mapM hrest has
    obtain ⟨p, hp⟩ := Nat.exists_eq_add_of_le hbin.le
    obtain ⟨q, hq⟩ := Nat.exists_eq_add_of_le hain.le
    -- The second run is behind by the names of `y` at `x`, and ahead by those of `x` at `y`.
    obtain ⟨a', u₁, ha', hu₁, hashift⟩ := (hx.inStep (-p) t₁ t' (by omega)).exists_yields ha
    obtain ⟨b', u₂, hb', hu₂, hbshift⟩ := (hy.inStep q t u₁ (by omega)).exists_yields hb
    obtain ⟨s', hs', hgen⟩ :=
      mapM_of_generated_eq hrest (by omega : u₂.generated = t₂.generated) has
    have hσ := swapRanges_apply t.generated p q
    refine ⟨a' :: b' :: as', s', swapRanges t.generated p q, ?_, hgen, ⟨fun k hk => ?_,
      fun k hk => ?_⟩, ?_⟩
    · rw [List.mapM_cons, List.mapM_cons]
      simp only [yields_bind, yields_pure]
      exact ⟨a', u₁, ha', _, s', ⟨b', u₂, hb', as', s', hs', rfl, rfl⟩, rfl, rfl⟩
    · rw [hσ, if_pos hk]
    · rw [hσ]
      split_ifs <;> omega
    · have hb'' : Coded.rename (renumber (swapRanges t.generated p q)) b = b' := by
        rw [show b' = _ from hbshift]
        refine hbin.rename_congr fun k hk hk' => ?_
        rw [hσ]
        split_ifs <;> omega
      have ha'' : Coded.rename (renumber (swapRanges t.generated p q)) a = a' := by
        rw [show a' = _ from hashift]
        refine hain.rename_congr fun k hk hk' => ?_
        rw [hσ]
        split_ifs <;> omega
      have has' : as'.map (Coded.rename (renumber (swapRanges t.generated p q))) = as' := by
        refine (List.map_congr_left fun e he => ?_).trans (List.map_id' as')
        refine (hall e he).rename_eq_self fun k hk _ => ?_
        rw [hσ]
        split_ifs <;> omega
      rw [List.map_cons, List.map_cons, hb'', ha'', has']
      exact .swap _ _ _
  | @trans cs₁ cs₂ cs₃ h₁ _ ih₁ ih₂ =>
    obtain ⟨as₁, s₁, σ₁, hrun₁, hs₁, hσ₁, hperm₁⟩ := ih₁ hf (rfl : t.generated = t.generated) h
    obtain ⟨as₂, s₂, σ₂, hrun₂, hs₂, hσ₂, hperm₂⟩ :=
      ih₂ (fun c hc => hf c (h₁.mem_iff.mpr hc)) ht hrun₁
    refine ⟨as₂, s₂, σ₁.trans σ₂, hrun₂, hs₂.trans hs₁, ⟨fun k hk => ?_, fun k hk => ?_⟩, ?_⟩
    · rw [Equiv.trans_apply, hσ₁.below k hk, hσ₂.below k hk]
    · rw [Equiv.trans_apply, hσ₁.above k hk, hσ₂.above k (by omega)]
    · have hcomp : as.map (Coded.rename (renumber (σ₁.trans σ₂))) =
          (as.map (Coded.rename (renumber σ₁))).map (Coded.rename (renumber σ₂)) := by
        rw [List.map_map]
        refine List.map_congr_left fun a _ => ?_
        rw [Function.comp_apply, Coded.rename_rename]
        congr 1
        funext x
        rw [Function.comp_apply, renumber_renumber]
        rfl
      rw [hcomp]
      exact (hperm₁.map _).trans hperm₂

/-- A run that agrees with the second one takes its place. -/
theorem InStep.trans_symm {α β : Type} {d : Int} {R : α → β → Prop} {x : CompileM α}
    {y z : CompileM β} (h : InStep d R x z) (hyz : InStep 0 (fun b c => c = b) y z) :
    InStep d R x y := by
  intro t t' ht
  have hxz := h t t' ht
  have hyz := hyz t' t' (by omega)
  unfold InStepAt at hxz hyz ⊢
  rcases hx : runFrom x t with ⟨_ | a, s⟩ <;> rcases hy : runFrom y t' with ⟨_ | b, s'⟩ <;>
    rcases hz : runFrom z t' with ⟨_ | c, s''⟩ <;> rw [hx, hz] at hxz <;> rw [hy, hz] at hyz
  all_goals first
    | exact hxz.elim
    | exact hyz.elim
    | trivial
    | skip
  obtain ⟨hs, hR⟩ := hxz
  obtain ⟨hs', rfl⟩ := hyz
  exact ⟨by omega, hR⟩

/-- The second list in the order of the first one. -/
theorem exists_reordered {unplaced : γ → γ} (hperm : (cs.map unplaced).Perm (cs'.map unplaced)) :
    ∃ ws, List.Forall₂ (fun c w => unplaced c = unplaced w) cs ws ∧ ws.Perm cs' := by
  obtain ⟨ws, hws, hwperm⟩ := List.perm_comp_forall₂ hperm
    (List.forall₂_map_left_iff.mpr (List.forall₂_same.mpr fun _ _ => rfl) :
      List.Forall₂ (fun x c => x = unplaced c) (cs'.map unplaced) cs')
  exact ⟨ws, List.forall₂_map_left_iff.mp hws, hwperm⟩

/-- Lists with the same members up to places give the same values, in another order. -/
theorem perm_map_of_unplaced {β : Type} {unplaced : γ → γ} {g : γ → β}
    (hperm : (cs.map unplaced).Perm (cs'.map unplaced))
    (hg : ∀ c c', unplaced c = unplaced c' → g c = g c') : (cs.map g).Perm (cs'.map g) := by
  obtain ⟨ws, hws, hwperm⟩ := exists_reordered hperm
  have heq : cs.map g = ws.map g := by
    rw [← List.forall₂_eq_eq_eq, List.forall₂_map_left_iff, List.forall₂_map_right_iff]
    exact hws.imp hg
  rw [heq]
  exact hwperm.map g

theorem perm_of_agree {as' : List α} {n n' : Nat} {σ τ : Nat → Nat}
    (has : ∀ a ∈ as, Within n n' (Coded.parts a)) (hστ : ∀ k, n < k → k ≤ n' → τ k = σ k)
    (h : (as.map (Coded.rename (renumber σ))).Perm as') :
    (as.map (Coded.rename (renumber τ))).Perm as' := by
  rwa [List.map_congr_left fun a ha => (has a ha).rename_congr hστ]

variable {g : γ → CompileM α} {unplaced : γ → γ}

/-- Places do not matter either. -/
theorem reordered_mapM (hperm : (cs.map unplaced).Perm (cs'.map unplaced))
    (hfg : ∀ c, InStep 0 (Shifted 0) (f c) (g (unplaced c)))
    (hg : ∀ c d, InStep d (Shifted d) (g c) (g (unplaced c)))
    (hwithin : ∀ c ∈ cs', ∀ t a t', Yields (g c) t a t' →
      Within t.generated t'.generated (Coded.parts a))
    (ht : t'.generated = t.generated) (h : Yields (cs.mapM f) t as s) :
    (t.generated ≤ s.generated ∧ ∀ a ∈ as, Within t.generated s.generated (Coded.parts a)) ∧
    ∃ as' s' σ, Yields (cs'.mapM g) t' as' s' ∧ s'.generated = s.generated ∧
      Inside σ t.generated s.generated ∧
      (as.map (Coded.rename (renumber σ))).Perm as' := by
  have hplaces (c : γ) : InStep 0 (fun b c => c = b) (g c) (g (unplaced c)) :=
    (hg c 0).mono fun _ _ => shifted_zero.mp
  have hshifts (c : γ) (hc : c ∈ cs') : Shifts g c :=
    ⟨fun d => (hg c d).trans_symm (hplaces c), hwithin c hc⟩
  obtain ⟨ws, hws, hwperm⟩ := exists_reordered hperm
  have hstep : InStep 0 (List.Forall₂ (Shifted 0)) (cs.mapM f) (ws.mapM g) := by
    refine inStep_mapM (hws.imp fun c w hcw => ?_)
    exact (hcw ▸ hfg c).trans_symm (hplaces w)
  obtain ⟨as', s₁, hrun, hs₁, has⟩ := (hstep t t (by omega)).exists_yields h
  have has : List.Forall₂ Eq as as' := has.imp fun _ _ h => (shifted_zero.mp h).symm
  rw [List.forall₂_eq_eq_eq] at has
  subst has
  have hws (c : γ) (hc : c ∈ ws) : Shifts g c := hshifts c (hwperm.mem_iff.mp hc)
  obtain ⟨as', s', σ, hrun', hs', hσ, hperm'⟩ := perm_mapM hwperm hws ht hrun
  have hgen : s₁.generated = s.generated := by omega
  rw [← hgen]
  exact ⟨within_mapM hws hrun, as', s', σ, hrun', hs', hσ, hperm'⟩

end Lists

/-! ## Modules -/

/-- The values, functions and components are the same up to their order and a renumbering. -/
structure Renumbered (σ : Equiv.Perm Nat) (m m' : Ir.Module) : Prop where
  globals : (m.globals.map (Ir.Global.rename (renumber σ))).Perm m'.globals
  functions : (m.functions.map (Ir.Function.rename (renumber σ))).Perm m'.functions
  components : (m.components.map (Ir.Component.rename (renumber σ))).Perm m'.components
  moduleName : m'.moduleName = m.moduleName

theorem Registry.Alike.refl_right {r r' : Registry} (h : r.Alike r') : r'.Alike r' :=
  ⟨fun _ => rfl, fun _ => rfl, fun d hd => (h.lookup d).symm.trans (h.source d hd)⟩

theorem TypeEnv.Alike.refl (env : TypeEnv) : env.Alike env :=
  ⟨fun _ _ => rfl, fun _ _ => rfl, fun _ => rfl, fun _ => rfl, rfl⟩

theorem inStep_global {d : Int} {r r' : Registry} {env env' : TypeEnv} (hr : r.Alike r')
    (henv : env.Alike env') (g : GlobalSource) :
    InStep d (Shifted d) (global r env g) (global r' env' g.unplaced) := by
  refine (inStep_exprOption hr henv g.value).bind ?_
  rintro code _ rfl
  refine inStep_pure ?_
  simp [Shifted, Coded.rename, Ir.Global.rename, GlobalSource.unplaced, henv.globals]

theorem total_forIn {β γ : Type} {g : γ → β → CompileM (ForInStep β)} (hg : ∀ c b, Total (g c b))
    (cs : List γ) (b : β) : Total (forIn cs b g) := by
  induction cs generalizing b with
  | nil => exact total_pure b
  | cons c rest ih =>
    rw [List.forIn_cons]
    refine (hg c b).bind fun step _ _ _ => ?_
    cases step with
    | done b => exact total_pure b
    | yield b => exact ih b

theorem total_warnUnused (functions : List FunctionSource) (m : Ir.Module) :
    Total (warnUnused functions m) := by
  have hwarn (w : Warning) : Total (warn w) := fun _ => ⟨(), _, rfl⟩
  refine (total_forIn (fun f _ => ?_) functions _).bind fun _ _ _ _ => total_pure ()
  split_ifs
  · exact (hwarn _).bind fun _ _ _ _ => total_pure _
  · exact total_pure _

section Modules

variable {known : Messages} {policy : DuplicatePolicy} {moduleName : Option String}
  {stmts stmts' : List Source.Stmt} {m : Ir.Module} {t s : Trace}

theorem covers_envOf (h : Admissible stmts) : Covers (IsModuleName stmts) (envOf stmts) := by
  have hcollects : Collects stmts ⟨globalsIn stmts, functionsIn stmts, classesIn stmts⟩ :=
    ⟨rfl, rfl, rfl⟩
  have hrun : Yields (globalTypes (registryOf stmts) (globalsIn stmts)) {}
      (envOf stmts).globals {} :=
    yields_globalTypes.mpr ⟨h.values, rfl, rfl⟩
  exact covers_module hcollects hrun

/-- **The second pass over reordered statements.** -/
theorem secondPass_reordered (h : Admissible stmts) (hs : Reordered stmts stmts')
    (hm : Source.areMarked stmts' = true)
    (hrun : Yields (secondPass known policy moduleName stmts) t m s) :
    ∃ m' s' σ, Yields (secondPass known policy moduleName stmts') t m' s' ∧
      Renumbered σ m m' := by
  have hr := h.alike hs
  have henv := h.env_alike hs
  have hr' := hr.refl_right
  have henv' := TypeEnv.Alike.refl (envOf stmts')
  have hcovers := covers_envOf (h.reordered hs)
  simp only [secondPass, yields_bind, yields_pure] at hrun
  obtain ⟨gs, t₁, hgs, fs, t₂, hfs, ks, t₃, hks, _, t₄, -, rfl, rfl⟩ := hrun
  obtain ⟨⟨hle₁, hgin⟩, gs', t₁', σ₁, hgs', ht₁, hσ₁, hgperm⟩ := reordered_mapM hs.globals
    (fun g => inStep_global hr henv g) (fun g d => inStep_global hr' henv' g)
    (fun g _ τ g' τ' hg => by
      simp only [global, yields_bind, yields_pure] at hg
      obtain ⟨value, τ₁, hvalue, rfl, rfl⟩ := hg
      obtain ⟨hclosed, hdistinct⟩ :=
        closedValue_of_exprOption hcovers (fun x hx => .inr (.inr hx)) hvalue
      exact within_of_distinct hdistinct (selfBound_option hclosed)) rfl hgs
  obtain ⟨⟨hle₂, hfin⟩, fs', t₂', σ₂, hfs', ht₂, hσ₂, hfperm⟩ := reordered_mapM hs.functions
    (fun f => inStep_function hr henv f) (fun f d => inStep_function hr' henv' f)
    (fun f hf τ f' τ' hyields => by
      obtain ⟨himpl, hdistinct⟩ :=
        implements_function (marked_of_mem_functionsIn hm hf) hcovers hyields
      exact within_of_distinct hdistinct himpl.1.closed.selfBound) ht₁ hfs
  have hclasses : (((classesIn stmts).map ClassSource.component).map ComponentSource.unplaced).Perm
      (((classesIn stmts').map ClassSource.component).map ComponentSource.unplaced) := by
    rw [List.map_map, List.map_map]
    exact perm_map_of_unplaced hs.classes fun c c' heq => ClassSource.component_congr heq
  obtain ⟨⟨hle₃, hkin⟩, ks', t₃', σ₃, hks', ht₃, hσ₃, hkperm⟩ := reordered_mapM hclasses
    (fun k => inStep_component hr henv known policy moduleName k)
    (fun k d => inStep_component hr' henv' known policy moduleName k)
    (fun k hk τ k' τ' hyields => by
      obtain ⟨c, hc, rfl⟩ := List.mem_map.mp hk
      obtain ⟨hclosed, hdistinct⟩ := yields_component (rfl : c.component.name = c.name) rfl
        (marked_of_mem_classesIn hm hc) hcovers hyields
      exact within_of_distinct hdistinct hclosed.1.selfBound) ht₂ hks
  obtain ⟨_, s', hwarn⟩ := total_warnUnused (functionsIn stmts')
    { globals := gs', functions := fs', components := ks', moduleName } t₃'
  refine ⟨{ globals := gs', functions := fs', components := ks', moduleName }, s',
    σ₁.trans (σ₂.trans σ₃), ?_, perm_of_agree hgin (fun k hk hk' => ?_) hgperm,
    perm_of_agree hfin (fun k hk hk' => ?_) hfperm, perm_of_agree hkin (fun k hk hk' => ?_) hkperm,
    rfl⟩
  · simp only [secondPass, yields_bind, yields_pure]
    exact ⟨gs', t₁', hgs', fs', t₂', hfs', ks', t₃', hks', _, s', hwarn, rfl, rfl⟩
  -- Each of the three permutations leaves the ranges of the other two alone.
  · have hrange := hσ₁.mem_range hk hk'
    simp only [Equiv.trans_apply]
    rw [hσ₂.below _ hrange.2, hσ₃.below _ (hrange.2.trans hle₂)]
  · simp only [Equiv.trans_apply]
    rw [hσ₁.above k hk, hσ₃.below _ (hσ₂.mem_range hk hk').2]
  · simp only [Equiv.trans_apply]
    rw [hσ₁.above k (hle₂.trans_lt hk), hσ₂.above k hk]

theorem yields_module_reordered (hs : Reordered stmts stmts') (hm : Source.areMarked stmts' = true)
    (hrun : Yields (module known policy moduleName stmts) t m s) :
    ∃ m' s' σ, Yields (module known policy moduleName stmts') t m' s' ∧ Renumbered σ m m' := by
  obtain ⟨h, hrun⟩ := yields_module.mp hrun
  obtain ⟨m', s', σ, hrun', hσ⟩ := secondPass_reordered h hs hm hrun
  exact ⟨m', s', σ, yields_module.mpr ⟨h.reordered hs, hrun'⟩, hσ⟩

end Modules

/-! ## Texts -/

/-- The second text has the top-level statements of the first in some order, wherever they stand. Of
texts without statements none is blank or both are. -/
def Reorders (text text' : String) : Prop :=
  ∃ stmts stmts', Source.parse text = some stmts ∧ Source.parse text' = some stmts' ∧
    Reordered stmts stmts' ∧
    (stmts = [] → Text.isBlankText text.toList = Text.isBlankText text'.toList)

theorem Reorders.symm {text text' : String} (h : Reorders text text') : Reorders text' text := by
  obtain ⟨stmts, stmts', hparse, hparse', hs, hblank⟩ := h
  refine ⟨stmts', stmts, hparse', hparse, hs.symm, fun hnil => (hblank ?_).symm⟩
  simpa [hnil, Reordered] using hs

section Texts

variable {known : Messages} {policy : DuplicatePolicy} {sourcePath moduleName : Option String}
  {text text' : String}

/-- A text is accepted if it is not blank and its statements compile. -/
theorem result_eq_ok_iff {m : Ir.Module} :
    (compile known policy sourcePath moduleName text).result = .ok m ↔
      Text.isBlankText text.toList = false ∧ ∃ stmts s, Source.parse text = some stmts ∧
        Yields (module known policy (moduleNameFor sourcePath moduleName) stmts) {} m s := by
  have hresult : (compile known policy sourcePath moduleName text).result = .ok m ↔
      ∃ s, Yields (source known policy (moduleNameFor sourcePath moduleName) text) {} m s :=
    ⟨fun h => ⟨_, Prod.ext h rfl⟩, fun ⟨s, h⟩ => congrArg Prod.fst h⟩
  rw [hresult, source]
  cases hblank : Text.isBlankText text.toList with
  | true => simp
  | false => cases hparse : Source.parse text <;> simp

theorem accepted_of_reorders (h : Reorders text text') {m : Ir.Module}
    (hm : (compile known policy sourcePath moduleName text).result = .ok m) :
    ∃ m' σ, (compile known policy sourcePath moduleName text').result = .ok m' ∧
      Renumbered σ m m' := by
  obtain ⟨stmts, stmts', hparse, hparse', hs, hnil⟩ := h
  obtain ⟨hblank, _, s, hparse₁, hrun⟩ := result_eq_ok_iff.mp hm
  obtain rfl : stmts = _ := Option.some.inj (hparse.symm.trans hparse₁)
  obtain ⟨m', s', σ, hrun', hσ⟩ :=
    yields_module_reordered hs (Source.areMarked_of_parse hparse') hrun
  refine ⟨m', σ, result_eq_ok_iff.mpr ⟨?_, stmts', s', hparse', hrun'⟩, hσ⟩
  cases hblank' : Text.isBlankText text'.toList with
  | false => rfl
  | true =>
    -- A blank text has no statements, so the first one has none either.
    obtain rfl : stmts' = [] := Source.parse_of_isBlank hblank' hparse'
    have hempty : stmts = [] := by simpa [Reordered] using hs
    simp [hnil hempty, hblank'] at hblank

/-- **The order of top-level statements is free.** -/
theorem order_of_statements_is_free (known : Messages) (policy : DuplicatePolicy)
    (sourcePath moduleName : Option String) (h : Reorders text text') :
    ((∃ m, (compile known policy sourcePath moduleName text).result = .ok m) ↔
      ∃ m', (compile known policy sourcePath moduleName text').result = .ok m') ∧
    ∀ m m', (compile known policy sourcePath moduleName text).result = .ok m →
      (compile known policy sourcePath moduleName text').result = .ok m' →
      ∃ σ, Renumbered σ m m' := by
  refine ⟨⟨fun ⟨m, hm⟩ => ?_, fun ⟨m', hm'⟩ => ?_⟩, fun m m' hm hm' => ?_⟩
  · obtain ⟨m', -, hm', -⟩ := accepted_of_reorders h hm
    exact ⟨m', hm'⟩
  · obtain ⟨m, -, hm, -⟩ := accepted_of_reorders h.symm hm'
    exact ⟨m, hm⟩
  · obtain ⟨m₁, σ, hm₁, hσ⟩ := accepted_of_reorders h hm
    obtain rfl : m₁ = m' := Except.ok.inj (hm₁.symm.trans hm')
    exact ⟨σ, hσ⟩

end Texts

/-- Whether a statement is `x: Any = get_component(y, s)`. -/
def isLookup (x y s : String) : Source.Stmt → Bool
  | .annAssign _ (.name _ x' .store) (.name _ "Any" .load)
      (some (.call _ (.name _ "get_component" .load)
        [.name _ y' .load, .constant _ (.literal (.str s'))] [])) => x' = x && y' = y && s' = s
  | _ => false

theorem unplaced_of_isLookup {x y s : String} {stmt stmt' : Source.Stmt}
    (h : isLookup x y s stmt = true) (h' : isLookup x y s stmt' = true) :
    stmt.unplaced = stmt'.unplaced := by
  unfold isLookup at h h'
  split at h <;> split at h' <;>
    simp_all [Source.Stmt.unplaced, Source.Expr.unplaced, Source.unplacedExprs]

/-- Two values that look each other up, so each is used before or after it is declared. -/
def eachOther : String :=
  "a: Any = get_component(b, \"y\")\n" ++
  "b: Any = get_component(a, \"z\")\n"

/-- The same values in the other order. -/
def eachOtherReversed : String :=
  "b: Any = get_component(a, \"z\")\n" ++
  "# The other one.\n" ++
  "a: Any = get_component(b, \"y\")\n"

theorem reorders_eachOther : Reorders eachOther eachOtherReversed := by
  obtain ⟨stmts, hparse, htwo, hs, hu⟩ : ∃ stmts, Source.parse eachOther = some stmts ∧
      stmts.length = 2 ∧ stmts.head?.any (isLookup "a" "b" "y") = true ∧
      stmts.getLast?.any (isLookup "b" "a" "z") = true :=
    exists_some (by decide +kernel)
  obtain ⟨stmts', hparse', htwo', hu', hs'⟩ : ∃ stmts, Source.parse eachOtherReversed = some stmts ∧
      stmts.length = 2 ∧ stmts.head?.any (isLookup "b" "a" "z") = true ∧
      stmts.getLast?.any (isLookup "a" "b" "y") = true :=
    exists_some (by decide +kernel)
  obtain ⟨s, u, rfl⟩ := List.length_eq_two.mp htwo
  obtain ⟨u', s', rfl⟩ := List.length_eq_two.mp htwo'
  have hfirst : s.unplaced = s'.unplaced := unplaced_of_isLookup hs hs'
  have hsecond : u.unplaced = u'.unplaced := unplaced_of_isLookup hu hu'
  refine ⟨_, _, hparse, hparse', ?_, by simp⟩
  simp only [Reordered, List.map_cons, List.map_nil, hfirst, hsecond]
  exact .swap _ _ _

theorem eachOther_in_any_order : Reorders eachOther eachOtherReversed ∧
    ∃ m m' σ, (compile .standard .keepLast none none eachOther).result = .ok m ∧
      (compile .standard .keepLast none none eachOtherReversed).result = .ok m' ∧
      Renumbered σ m m' := by
  obtain ⟨m, hm, -⟩ :
      ∃ m, (compile .standard .keepLast none none eachOther).result = .ok m ∧ True :=
    exists_ok (by decide +kernel)
  obtain ⟨hiff, hsame⟩ :=
    order_of_statements_is_free .standard .keepLast none none reorders_eachOther
  obtain ⟨m', hm'⟩ := hiff.mp ⟨m, hm⟩
  obtain ⟨σ, hσ⟩ := hsame m m' hm hm'
  exact ⟨reorders_eachOther, m, m', σ, hm, hm', hσ⟩

end Componentry
