import Componentry.Compile.Stmt
import Componentry.Proofs.BoundNames
import Componentry.Proofs.SourceNames
import Componentry.Proofs.TypeEnv

/-!
# How environments change

Compiling statements takes one environment to another. `Flow` lists all that can happen on the
way: a name is bound or declared, names are forgotten, and paths are joined. What a body does to
its environment is read off this list, and never off the compiler again.

**Theorem (`flow_of_block`).** Compiling a marked body is a flow that binds only names among
`boundNames` and numbered generated names, and declares only types that annotations of the body
write.

The properties of flows follow by induction: declared names keep their types (`Flow.declared`),
names that are not bound keep all (`Flow.kept`), generated names never gain a type
(`Flow.generated`), types stay registered (`Flow.within`), and types of declared names stay
justified (`Flow.justified`).
-/

namespace Componentry

open CompileM

namespace Compile

/-- How a body that binds names among `B` may change an environment. The numbers count generated
names, and `annotated` tells with which types names may be declared. -/
inductive Flow (r : Registry) (annotated : String → HostType → Prop) (B : List String) :
    TypeEnv → Nat → TypeEnv → Nat → Prop
  | keep {env n n'} : n ≤ n' → Flow r annotated B env n env n'
  /-- A name takes the type of a value. -/
  | assign {env n x} (e : Ir.Expr) : x ∈ B → isGenerated x = false → env.isDeclared x = false →
      Flow r annotated B env n (env.bind x (resolve r env e)) n
  /-- A name is declared, perhaps once more. -/
  | declare {env n x T} : x ∈ B → isGenerated x = false → annotated x T → T ∈ r.types →
      (env.isDeclared x = true → env.localType x = some T) →
      Flow r annotated B env n (env.declare x (some T)) n
  /-- A name is bound without a type. -/
  | unknown {env n x} : x ∈ B → isGenerated x = false →
      (env.isDeclared x = true → env.localType x = none) →
      Flow r annotated B env n (env.bind x none) n
  /-- A dispatch without a capture binds its subject. -/
  | fresh {env n} : env.isDeclared (generatedName "cast" (n + 1)) = false →
      Flow r annotated B env n (env.bind (generatedName "cast" (n + 1)) none) (n + 1)
  | forget {env n names} : names ⊆ B → Flow r annotated B env n (env.forget names) n
  | seq {env n env₁ n₁ env₂ n₂} : Flow r annotated B env n env₁ n₁ →
      Flow r annotated B env₁ n₁ env₂ n₂ → Flow r annotated B env n env₂ n₂
  | join {env n b₁ n₁ b₂ n₂} : Flow r annotated B env n b₁ n₁ → Flow r annotated B env n₁ b₂ n₂ →
      Flow r annotated B env n (env.merge [b₁, b₂]) n₂

/-! ## Properties of flows -/

namespace Flow

variable {r : Registry} {annotated : String → HostType → Prop} {B : List String}
  {env env' : TypeEnv} {n n' : Nat}

theorem mono {annotated' : String → HostType → Prop} {B' : List String}
    (h : Flow r annotated B env n env' n') (hB : B ⊆ B')
    (hannotated : ∀ x T, annotated x T → annotated' x T) : Flow r annotated' B' env n env' n' := by
  induction h with
  | keep hle => exact .keep hle
  | assign e hx hs hd => exact .assign e (hB hx) hs hd
  | declare hx hs hT hr hd => exact .declare (hB hx) hs (hannotated _ _ hT) hr hd
  | unknown hx hs hd => exact .unknown (hB hx) hs hd
  | fresh hd => exact .fresh hd
  | forget hnames => exact .forget fun x hx => hB (hnames hx)
  | seq _ _ ih₁ ih₂ => exact .seq ih₁ ih₂
  | join _ _ ih₁ ih₂ => exact .join ih₁ ih₂

theorem le (h : Flow r annotated B env n env' n') : n ≤ n' := by
  induction h with
  | keep hle => exact hle
  | fresh => exact Nat.le_succ _
  | seq _ _ ih₁ ih₂ => exact ih₁.trans ih₂
  | join _ _ ih₁ ih₂ => exact ih₁.trans ih₂
  | _ => exact le_refl _

/-- What a module defines stays as it is. -/
theorem module (h : Flow r annotated B env n env' n') :
    env'.globals = env.globals ∧ env'.callables = env.callables ∧
      env'.hostTypes = env.hostTypes := by
  induction h with
  | seq _ _ ih₁ ih₂ =>
    exact ⟨ih₂.1.trans ih₁.1, ih₂.2.1.trans ih₁.2.1, ih₂.2.2.trans ih₁.2.2⟩
  | _ => exact ⟨rfl, rfl, rfl⟩

/-- **Declared names stay declared and keep their types.** -/
theorem declared (h : Flow r annotated B env n env' n') {x : String}
    (hx : env.isDeclared x = true) :
    env'.isDeclared x = true ∧ env'.localType x = env.localType x := by
  induction h with
  | keep => exact ⟨hx, rfl⟩
  | @assign env n y e _ _ hd =>
    have hne : x ≠ y := by rintro rfl; simp [hx] at hd
    exact ⟨hx, by simp [hne]⟩
  | @declare env n y T _ _ _ _ hold =>
    refine ⟨by simp [hx], ?_⟩
    by_cases hxy : x = y
    · subst hxy
      simp [hold hx]
    · simp [hxy]
  | @unknown env n y _ _ hold =>
    refine ⟨hx, ?_⟩
    by_cases hxy : x = y
    · subst hxy
      simp [hold hx]
    · simp [hxy]
  | @fresh env n hd =>
    have hne : x ≠ generatedName "cast" (n + 1) := by rintro rfl; simp [hx] at hd
    exact ⟨hx, by simp [hne]⟩
  | forget => exact ⟨hx, by simp [TypeEnv.localType_forget, hx]⟩
  | seq _ _ ih₁ ih₂ =>
    obtain ⟨hx₁, ht₁⟩ := ih₁ hx
    obtain ⟨hx₂, ht₂⟩ := ih₂ hx₁
    exact ⟨hx₂, ht₂.trans ht₁⟩
  | join _ _ _ _ =>
    exact ⟨(TypeEnv.isDeclared_merge ..).mpr (.inl hx), TypeEnv.localType_merge hx⟩

/-- **Names that a flow does not bind keep what is known of them.** -/
theorem kept (h : Flow r annotated B env n env' n') {x : String} (hx : x ∉ B)
    (hfresh : ∀ k, n < k → k ≤ n' → x ≠ generatedName "cast" k) :
    env'.locals.get? x = env.locals.get? x ∧ env'.isDeclared x = env.isDeclared x := by
  induction h with
  | keep => exact ⟨rfl, rfl⟩
  | @assign env n y e hy _ _ =>
    have hne : x ≠ y := by rintro rfl; exact hx hy
    exact ⟨by simp [hne], rfl⟩
  | @declare env n y T hy _ _ _ _ =>
    have hne : x ≠ y := by rintro rfl; exact hx hy
    exact ⟨by simp [hne], by rw [Bool.eq_iff_iff]; simp [hne]⟩
  | @unknown env n y hy _ _ =>
    have hne : x ≠ y := by rintro rfl; exact hx hy
    exact ⟨by simp [hne], rfl⟩
  | @fresh env n _ => exact ⟨by simp [hfresh (n + 1) (Nat.lt_succ_self n) (le_refl _)], rfl⟩
  | forget hnames =>
    have hne : x ∉ _ := fun hmem => hx (hnames hmem)
    exact ⟨by simp [hne], rfl⟩
  | seq h₁ h₂ ih₁ ih₂ =>
    obtain ⟨hget₁, hdecl₁⟩ := ih₁ fun k hk hk' => hfresh k hk (hk'.trans h₂.le)
    obtain ⟨hget₂, hdecl₂⟩ := ih₂ fun k hk hk' => hfresh k (h₁.le.trans_lt hk) hk'
    exact ⟨hget₂.trans hget₁, hdecl₂.trans hdecl₁⟩
  | join h₁ h₂ ih₁ ih₂ =>
    obtain ⟨hget₁, hdecl₁⟩ := ih₁ fun k hk hk' => hfresh k hk (hk'.trans h₂.le)
    obtain ⟨hget₂, hdecl₂⟩ := ih₂ fun k hk hk' => hfresh k (h₁.le.trans_lt hk) hk'
    refine ⟨TypeEnv.get?_merge_of_forall (by simp) (by simp [hget₁, hget₂]), ?_⟩
    rw [Bool.eq_iff_iff, TypeEnv.isDeclared_merge]
    simp [hdecl₁, hdecl₂]

/-- **Generated names gain no type.** -/
theorem generated (h : Flow r annotated B env n env' n') {x : String}
    (hx : isGenerated x = true) :
    env'.locals.get? x = env.locals.get? x ∨ env'.locals.get? x = some none := by
  induction h with
  | keep => exact .inl rfl
  | @assign env n y e _ hs _ =>
    have hne : x ≠ y := by rintro rfl; simp [hx] at hs
    exact .inl (by simp [hne])
  | @declare env n y T _ hs _ _ _ =>
    have hne : x ≠ y := by rintro rfl; simp [hx] at hs
    exact .inl (by simp [hne])
  | @unknown env n y _ hs _ =>
    have hne : x ≠ y := by rintro rfl; simp [hx] at hs
    exact .inl (by simp [hne])
  | @fresh env n _ =>
    by_cases hxy : x = generatedName "cast" (n + 1)
    · exact .inr (by simp [hxy])
    · exact .inl (by simp [hxy])
  | @forget env n names _ =>
    by_cases hforget : x ∈ names ∧ env.isDeclared x = false
    · exact .inr (by simp [hforget])
    · exact .inl (by rw [TypeEnv.get?_forget, if_neg hforget])
  | seq _ _ ih₁ ih₂ =>
    rcases ih₂ with h₂ | h₂
    · rw [h₂]
      exact ih₁
    · exact .inr h₂
  | @join env n b₁ n₁ b₂ n₂ _ _ ih₁ _ =>
    cases hm : (env.merge [b₁, b₂]).locals.get? x with
    | none =>
      rw [TypeEnv.get?_merge] at hm
      split_ifs at hm with hbound
      have hnone : env.locals.get? x = none := by
        simpa using fun hs => hbound ⟨env, by simp, hs⟩
      exact .inl hnone.symm
    | some type =>
      cases type with
      | none => exact .inr rfl
      | some U =>
        -- A known type comes from the start, directly or through a branch.
        rcases TypeEnv.get?_merge_eq_some hm with ⟨-, hbase⟩ | ⟨-, -, hall⟩
        · exact .inl hbase.symm
        · have hb : b₁.locals.get? x = some (some U) := hall b₁ (by simp)
          rcases ih₁ with h₁ | h₁
          · exact .inl (hb.symm.trans h₁)
          · simp [h₁] at hb

theorem within (h : Flow r annotated B env n env' n') (henv : env.Within r) : env'.Within r := by
  induction h with
  | keep => exact henv
  | assign e _ _ _ => exact henv.bind fun U hU => resolve_mem henv hU
  | declare _ _ _ hT _ => exact henv.declare (by simpa using hT)
  | unknown => exact henv.bind (by simp)
  | fresh => exact henv.bind (by simp)
  | forget => exact henv.forget _
  | seq _ _ ih₁ ih₂ => exact ih₂ (ih₁ henv)
  | join _ _ ih₁ ih₂ => exact henv.merge (by simpa using ⟨ih₁ henv, ih₂ henv⟩)

/-- **Known types of declared names stay justified.** -/
theorem justified {P : String → HostType → Prop} (h : Flow r annotated B env n env' n')
    (hP : ∀ x T, annotated x T → P x T) (henv : env.Justified P) : env'.Justified P := by
  induction h with
  | keep => exact henv
  | @assign env n y e _ _ hd =>
    intro x T hx hT
    have hne : x ≠ y := by rintro rfl; exact absurd hx (by simp [hd])
    exact henv x T hx (by simpa [hne] using hT)
  | @declare env n y U _ _ hU _ _ =>
    intro x T hx hT
    by_cases hxy : x = y
    · obtain rfl : U = T := by simpa [hxy] using hT
      exact hxy ▸ hP y U hU
    · exact henv x T (by simpa [hxy] using hx) (by simpa [hxy] using hT)
  | @unknown env n y _ _ _ =>
    intro x T hx hT
    by_cases hxy : x = y
    · simp [hxy] at hT
    · exact henv x T hx (by simpa [hxy] using hT)
  | @fresh env n _ =>
    intro x T hx hT
    by_cases hxy : x = generatedName "cast" (n + 1)
    · simp [hxy] at hT
    · exact henv x T hx (by simpa [hxy] using hT)
  | forget =>
    intro x T hx hT
    rw [TypeEnv.isDeclared_forget] at hx
    exact henv x T hx (by simpa [TypeEnv.localType_forget, hx] using hT)
  | seq _ _ ih₁ ih₂ => exact ih₂ (ih₁ henv)
  | @join env n b₁ n₁ b₂ n₂ _ _ ih₁ ih₂ =>
    intro x T hx hT
    rcases TypeEnv.get?_merge_eq_some ((TypeEnv.localType_eq_some ..).mp hT) with
      ⟨hd, hget⟩ | ⟨hd, -, hget⟩
    · exact henv x T hd ((env.localType_eq_some x).mpr hget)
    · -- The name was declared in a branch, and there its type is justified.
      have hget : b₁.locals.get? x = some (some T) ∧ b₂.locals.get? x = some (some T) := by
        simpa using hget
      have hx : b₁.isDeclared x = true ∨ b₂.isDeclared x = true := by
        simpa [TypeEnv.isDeclared_merge, hd] using hx
      rcases hx with hx | hx
      · exact ih₁ henv x T hx ((b₁.localType_eq_some x).mpr hget.1)
      · exact ih₂ henv x T hx ((b₂.localType_eq_some x).mpr hget.2)

end Flow

end Compile

/-! ## Annotations -/

namespace Source

mutual

/-- The names that a statement annotates, each with its annotation. -/
def Stmt.annotations : Stmt → List (String × Expr)
  | .annAssign _ (.name _ id _) annot _ => [(id, annot)]
  | .forIn _ _ _ body _ => annotationsOf body
  | .whileDo _ _ body _ => annotationsOf body
  | .ifElse _ _ body orelse => annotationsOf body ++ annotationsOf orelse
  | .matchOn _ _ cases => annotationsOfCases cases
  | _ => []

def annotationsOf : List Stmt → List (String × Expr)
  | [] => []
  | s :: rest => s.annotations ++ annotationsOf rest

def annotationsOfCases : List Case → List (String × Expr)
  | [] => []
  | .mk _ _ body :: rest => annotationsOf body ++ annotationsOfCases rest

end

end Source

namespace Compile

/-- The annotation writes the type. -/
def Writes (r : Registry) (annot : Source.Expr) (T : HostType) : Prop :=
  ∃ d, annot.designator = .ok (some d) ∧ r.lookup d = some T

/-- One of the annotations gives the name the type. -/
def Annotates (r : Registry) (notes : List (String × Source.Expr)) (x : String) (T : HostType) :
    Prop :=
  ∃ annot, (x, annot) ∈ notes ∧ Writes r annot T

theorem Annotates.mono {r : Registry} {notes notes' : List (String × Source.Expr)}
    (h : notes ⊆ notes') (x : String) (T : HostType) (hT : Annotates r notes x T) :
    Annotates r notes' x T := by
  obtain ⟨annot, hmem, hwrites⟩ := hT
  exact ⟨annot, h hmem, hwrites⟩

/-! ## Statements flow -/

section Statements

variable {r : Registry} {env env' : TypeEnv} {t t' : Trace} {span : Source.Span}

theorem yields_checkName {id : String} {u : Unit} (h : Yields (checkName span id) t u t') :
    isGenerated id = false ∧ t = t' := by
  unfold checkName at h
  split_ifs at h with hgen
  · simp at h
  · simp at h
  · exact ⟨by simpa using hgen, (yields_pure.mp h).2⟩

theorem yields_annotType {annot : Option Source.Expr} {T : Option HostType}
    (h : Yields (annotType r span annot) t T t') :
    t = t' ∧ ∀ U ∈ T, ∃ e ∈ annot, Writes r e U := by
  unfold annotType at h
  cases annot with
  | none =>
    obtain ⟨rfl, rfl⟩ := yields_pure.mp h
    simp
  | some e =>
    obtain ⟨d, t₁, hyields, h⟩ := yields_bind.mp h
    obtain ⟨hd, rfl⟩ := yields_ofExcept.mp hyields
    cases d with
    | none =>
      obtain ⟨rfl, rfl⟩ := yields_pure.mp h
      simp
    | some d =>
      obtain ⟨U, t₂, hyields, h⟩ := yields_bind.mp h
      obtain ⟨hU, rfl⟩ := yields_ofRegistry.mp hyields
      obtain ⟨rfl, rfl⟩ := yields_pure.mp h
      exact ⟨rfl, by simpa using ⟨d, hd, Registry.ensure_eq_ok.mp hU⟩⟩

theorem Writes.mem {annot : Source.Expr} {T : HostType} (h : Writes r annot T) : T ∈ r.types := by
  obtain ⟨d, -, hT⟩ := h
  exact Registry.mem_of_lookup hT

/-- A plain assignment gives a name that is not declared the type of its value. -/
theorem yields_assign {sp : Source.Span} {id : String} {use : Source.NameUse} {value : Source.Expr}
    {code : List Ir.Stmt}
    (h : Yields (assign r env span [.name sp id use] value) t (code, env') t') :
    ∃ e, Yields (expr r env value) t e t' ∧ isGenerated id = false ∧
      env' = if env.isDeclared id then env else env.bind id (resolve r env e) := by
  simp only [assign, yields_bind, yields_pure] at h
  obtain ⟨e, t₁, he, _, t₂, hname, heq, rfl⟩ := h
  obtain ⟨hsource, rfl⟩ := yields_checkName hname
  exact ⟨e, he, hsource, (congrArg Prod.snd heq).symm⟩

theorem ensures_target (span : Source.Span) (e : Source.Expr) :
    Ensures (target r env span e) fun code =>
      ∀ x, code = .var x → isGenerated x = false ∧ ∃ sp use, e = .name sp x use := by
  cases e with
  | name sp id use =>
    refine (ensures_checkName span id).bind fun _ hsource => ?_
    split_ifs
    · refine ensures_pure fun x hx => ?_
      obtain rfl : id = x := by simpa using hx
      exact ⟨hsource, sp, use, rfl⟩
    · exact ensures_refuseAt
  | attr sp value member => exact (ensures_expr r env value).bind fun _ _ => ensures_pure (by simp)
  | subscript sp value index =>
    simp only [target]
    split_ifs
    · exact ensures_refuseAt.bind fun _ h => h
    · exact (ensures_expr r env value).bind fun _ _ => (ensures_expr r env index).bind fun _ _ =>
        ensures_pure (by simp)
  | _ => exact ensures_refuseAt

theorem flow_of_assign {targets : List Source.Expr} {value : Source.Expr} {code : List Ir.Stmt}
    (hmarked : targets.all Source.Expr.isTarget = true)
    (h : Yields (assign r env span targets value) t (code, env') t') :
    Flow r (fun _ _ => False) (Source.boundNames [.assign span targets value]) env t.generated env'
      t'.generated := by
  unfold assign at h
  split at h
  · next sp id use =>
    have h : Yields (assign r env span [.name sp id use] value) t (code, env') t' := h
    obtain ⟨e, he, hsource, rfl⟩ := yields_assign h
    have hle := (ensures_expr r env value t e t' he).1
    split_ifs with hd
    · exact .keep hle
    · refine .seq (.keep hle) (.assign e ?_ hsource (by simpa using hd))
      have hmentions := Source.mentions_levels_of_isTarget (by simpa using hmarked)
      simp [Source.mem_boundNames_singleton, Source.Stmt.levels, Source.levelsOfExprs, hmentions]
  · simp only [yields_bind, yields_pure] at h
    obtain ⟨e, t₁, he, code', t₂, hcode, heq, rfl⟩ := h
    obtain rfl := congrArg Prod.snd heq
    exact .keep ((ensures_expr r env value t e t₁ he).1.trans
      (ensures_target span _ t₁ code' _ hcode).1)
  · simp at h

theorem flow_of_annAssign {target annot : Source.Expr} {value : Option Source.Expr}
    {code : List Ir.Stmt} (hmarked : target.isTarget = true)
    (h : Yields (annAssign r env span target annot value) t (code, env') t') :
    Flow r (Annotates r (Source.Stmt.annAssign span target annot value).annotations)
      (Source.boundNames [.annAssign span target annot value]) env t.generated env'
      t'.generated := by
  unfold annAssign at h
  split at h
  · next sp id use =>
    simp only [yields_bind] at h
    obtain ⟨_, t₁, hname, T, t₂, htype, h⟩ := h
    obtain ⟨hsource, rfl⟩ := yields_checkName hname
    obtain ⟨rfl, hwrites⟩ := yields_annotType htype
    by_cases hconflict : (env.isDeclared id && env.declaredType id != T) = true
    · rw [if_pos hconflict] at h
      simp at h
    · rw [if_neg hconflict] at h
      simp only [yields_bind, yields_pure] at h
      obtain ⟨value', t₃, hvalue, heq, rfl⟩ := h
      obtain rfl := congrArg Prod.snd heq
      have hle := (ensures_exprOption r env value t value' t₃ hvalue).1
      have hbound : id ∈ Source.boundNames [.annAssign span (.name sp id use) annot value] := by
        have hmentions := Source.mentions_levels_of_isTarget hmarked
        simp [Source.mem_boundNames_singleton, Source.Stmt.levels, hmentions]
      -- A second annotation of a declared name says the same.
      have hold : env.isDeclared id = true → env.localType id = T := by
        intro hd
        simpa [hd, TypeEnv.declaredType] using hconflict
      cases T with
      | none => exact .seq (.keep hle) (.unknown hbound hsource hold)
      | some U =>
        obtain ⟨e, he, hU⟩ := hwrites U rfl
        obtain rfl : annot = e := by simpa using he
        refine .seq (.keep hle) (.declare hbound hsource ⟨annot, ?_, hU⟩ hU.mem hold)
        simp [Source.Stmt.annotations]
  · simp at h

theorem flow_of_augAssign {target : Source.Expr} {op : Source.BinaryOp} {value : Source.Expr}
    {code : List Ir.Stmt} (hmarked : target.isTarget = true)
    (h : Yields (augAssign r env span target op value) t (code, env') t') :
    Flow r (fun _ _ => False) (Source.boundNames [.augAssign span target op value]) env t.generated
      env' t'.generated := by
  unfold augAssign at h
  split at h
  · simp at h
  · simp only [yields_bind, yields_pure] at h
    obtain ⟨code', t₁, hcode, e, t₂, he, heq, rfl⟩ := h
    obtain rfl := congrArg Prod.snd heq
    obtain ⟨hle₁, hvar⟩ := ensures_target span target t code' t₁ hcode
    have hle := hle₁.trans (ensures_expr r env value t₁ e _ he).1
    dsimp only
    split
    · next id =>
      obtain ⟨hsource, sp, use, rfl⟩ := hvar id rfl
      have hmentions := Source.mentions_levels_of_isTarget hmarked
      refine .seq (.keep hle) (.forget ?_)
      simp [Source.mem_boundNames_singleton, Source.Stmt.levels, hmentions]
    · exact .keep hle

/-! ## Matches flow -/

theorem ensures_typeHead (heads : Heads) (span : Source.Span) (pattern : Source.Pattern)
    (capture : Option String) :
    Ensures (typeHead heads span pattern capture) fun heads' => ∀ x ∈ heads'.capture,
      x ∈ heads.capture ∨ (x ∈ capture ∧ isGenerated x = false) := by
  unfold typeHead
  split
  · refine (ensures_ofExcept fun _ _ => trivial).bind fun designator _ => ?_
    dsimp only
    split
    · exact ensures_pure fun x hx => .inl hx
    · next id _ =>
      refine (ensures_checkName span id).bind fun _ hsource => ensures_pure fun x hx => ?_
      obtain rfl : id = x := by simpa using hx
      exact .inr ⟨rfl, hsource⟩
    · next id first _ =>
      refine (ensures_checkName span id).bind fun _ _ => ?_
      split_ifs
      · exact ensures_refuseAt.bind fun _ h => h
      · exact ensures_pure fun x hx => .inl hx
  · exact ensures_refuseAt

/-- A captured name stands in the pattern of a case. -/
theorem ensures_caseHead (heads : Heads) (isLast : Bool) (pattern : Source.Pattern)
    (guard : Option Source.Expr) :
    Ensures (caseHead heads isLast pattern guard) fun heads' => ∀ x ∈ heads'.capture,
      x ∈ heads.capture ∨ ((∃ sp inner, pattern = .bound sp inner x) ∧ isGenerated x = false) := by
  refine ensures_ite (ensures_refuseAt.bind fun _ h => h) ?_
  split
  · exact ensures_refuseAt
  · exact ensures_ite (ensures_refuseAt.bind fun _ h => h) (ensures_pure fun x hx => .inl hx)
  · next sp inner id =>
    intro t heads' t' h
    obtain ⟨hle, hcapture⟩ := ensures_typeHead _ _ _ _ t heads' t' h
    refine ⟨hle, fun x hx => (hcapture x hx).imp_right ?_⟩
    rintro ⟨hid, hsource⟩
    obtain rfl : id = x := by simpa using hid
    exact ⟨⟨sp, inner, rfl⟩, hsource⟩
  · intro t heads' t' h
    obtain ⟨hle, hcapture⟩ := ensures_typeHead _ _ _ _ t heads' t' h
    exact ⟨hle, fun x hx => (hcapture x hx).imp_right fun hnone => by simp at hnone⟩

theorem ensures_caseHeads (cases : List Source.Case) (heads : Heads) :
    Ensures (caseHeads heads cases) fun heads' => ∀ x ∈ heads'.capture,
      x ∈ heads.capture ∨ (x ∈ Source.boundInCases cases ∧ isGenerated x = false) := by
  induction cases generalizing heads with
  | nil => exact ensures_pure fun x hx => .inl hx
  | cons c rest ih =>
    obtain ⟨pattern, guard, body⟩ := c
    unfold caseHeads
    refine (ensures_caseHead _ _ _ _).bind fun heads₁ h₁ => ?_
    intro t heads' t' h
    obtain ⟨hle, h₂⟩ := ih heads₁ t heads' t' h
    refine ⟨hle, fun x hx => ?_⟩
    rcases h₂ x hx with hx | ⟨hx, hsource⟩
    · rcases h₁ x hx with hx | ⟨⟨sp, inner, rfl⟩, hsource⟩
      · exact .inl hx
      · exact .inr ⟨Source.mem_boundInCases_of_bound List.mem_cons_self, hsource⟩
    · rw [Source.mem_boundInCases] at hx ⊢
      obtain ⟨c, hc, hmentions⟩ := hx
      exact .inr ⟨⟨c, List.mem_cons_of_mem _ hc, hmentions⟩, hsource⟩

/-- The name that holds the subject of a match: the captured one, or else a generated one. -/
def subjectName (heads : Heads) : CompileM String :=
  match heads.capture with
  | some id => pure id
  | none => fresh "cast"

theorem yields_subjectName {heads : Heads} {bind : String}
    (h : Yields (subjectName heads) t bind t') :
    (heads.capture = some bind ∧ t = t') ∨
      (heads.capture = none ∧ generatedName "cast" (t.generated + 1) = bind ∧
        t'.generated = t.generated + 1) := by
  unfold subjectName at h
  split at h
  · next id hid =>
    obtain ⟨rfl, rfl⟩ := yields_pure.mp h
    exact .inl ⟨hid, rfl⟩
  · next hnone =>
    obtain ⟨rfl, rfl⟩ := yields_fresh.mp h
    exact .inr ⟨hnone, rfl, rfl⟩

/-- The environment after a match: what the cases may bind is forgotten. -/
def afterMatch (env : TypeEnv) (cases : List Source.Case) (bind : String) : TypeEnv :=
  let after := env.forget (Source.boundInCases cases)
  if after.isDeclared bind then after else after.bind bind none

theorem dispatch_eq (subject : Source.Expr) (cases : List Source.Case)
    (branches : List (Branch CompileM (List Ir.Stmt))) :
    dispatch r env span subject cases branches = do
      let value ← expr r env subject
      let heads ← caseHeads {} cases
      let bind ← subjectName heads
      let plan ← ofRegistry (some (.ofSpan span))
        (planDispatch r env value (heads.capture.bind env.declaredType)
          (heads.designators.zip branches))
      record plan.staticType
      let stmts ← Dispatch.lowerStmt bind env value
        (if heads.hasDefault then branches.getLast? else none) plan
      return (stmts, afterMatch env cases bind) := by
  unfold dispatch subjectName
  congr 1
  funext value
  congr 1
  funext heads
  cases heads.capture <;> rfl

theorem yields_dispatch {subject : Source.Expr} {cases : List Source.Case}
    {branches : List (Branch CompileM (List Ir.Stmt))} {code : List Ir.Stmt}
    (h : Yields (dispatch r env span subject cases branches) t (code, env') t') :
    ∃ value t₁ heads t₂ bind t₃ plan t₄, Yields (expr r env subject) t value t₁ ∧
      Yields (caseHeads {} cases) t₁ heads t₂ ∧ Yields (subjectName heads) t₂ bind t₃ ∧
      planDispatch r env value (heads.capture.bind env.declaredType)
        (heads.designators.zip branches) = .ok plan ∧ t₃.generated = t₄.generated ∧
      Yields (Dispatch.lowerStmt bind env value
        (if heads.hasDefault then branches.getLast? else none) plan) t₄ code t' ∧
      env' = afterMatch env cases bind := by
  simp only [dispatch_eq, yields_bind] at h
  obtain ⟨value, t₁, hvalue, heads, t₂, hheads, bind, t₃, hbind, plan, t₄, hplan, _, t₅, hrecord,
    stmts, t₆, hstmts, hend⟩ := h
  obtain ⟨hok, rfl⟩ := yields_ofRegistry.mp hplan
  have hsame : t₃.generated = t₅.generated := by rw [← yields_record.mp hrecord]
  obtain ⟨heq, rfl⟩ := yields_pure.mp hend
  obtain ⟨rfl, rfl⟩ := Prod.mk.inj heq
  exact ⟨value, t₁, heads, t₂, bind, t₃, plan, t₅, hvalue, hheads, hbind, hok, hsame, hstmts, rfl⟩

theorem ensures_lowerStmt {bind : String} {value : Ir.Expr}
    {default : Option (Branch CompileM (List Ir.Stmt))}
    {plan : Plan (Branch CompileM (List Ir.Stmt))}
    (hdefault : ∀ d ∈ default, ∀ e, Ensures (d e) fun _ => True)
    (hclauses : ∀ c ∈ plan.clauses, ∀ e, Ensures (c.branch e) fun _ => True) :
    Ensures (Dispatch.lowerStmt bind env value default plan) fun _ => True :=
  (ensures_body trivial hdefault hclauses fun _ _ _ _ => trivial).bind
    fun _ _ => ensures_pure trivial

theorem flow_of_dispatch {subject : Source.Expr} {cases : List Source.Case}
    {branches : List (Branch CompileM (List Ir.Stmt))} {code : List Ir.Stmt}
    (hbranches : ∀ b ∈ branches, ∀ e, Ensures (b e) fun _ => True)
    (h : Yields (dispatch r env span subject cases branches) t (code, env') t') :
    Flow r (fun _ _ => False) (Source.boundNames [.matchOn span subject cases]) env t.generated env'
      t'.generated := by
  obtain ⟨value, t₁, heads, t₂, bind, t₃, plan, t₄, hvalue, hheads, hbind, hplan, hsame, hcode,
    rfl⟩ :=
    yields_dispatch h
  obtain ⟨hle₂, hcapture⟩ := ensures_caseHeads cases {} t₁ heads t₂ hheads
  have hle₂ : t.generated ≤ t₂.generated :=
    (ensures_expr r env subject t value t₁ hvalue).1.trans hle₂
  have hle₄ : t₃.generated ≤ t'.generated := by
    rw [hsame]
    refine (ensures_lowerStmt (fun d hd => ?_) (fun c hc => ?_) t₄ code t' hcode).1
    · split_ifs at hd
      · exact hbranches d (List.mem_of_getLast? hd)
      · simp at hd
    · obtain ⟨_, -, hmem⟩ := (of_mem_planDispatch hplan).2 c hc
      exact hbranches c.branch (List.of_mem_zip hmem).2
  have hnames : Source.boundInCases cases ⊆ Source.boundNames [.matchOn span subject cases] := by
    intro x hx
    simp [Source.mem_boundNames_singleton, Source.Stmt.levels, hx]
  have hforget : Flow r (fun _ _ => False) _ env t₂.generated _ t₂.generated := .forget hnames
  unfold afterMatch
  rcases yields_subjectName hbind with ⟨hcap, rfl⟩ | ⟨-, rfl, hnext⟩
  · obtain ⟨hmem, hsource⟩ : bind ∈ Source.boundInCases cases ∧ isGenerated bind = false := by
      simpa using hcapture bind hcap
    dsimp only
    split_ifs with hd
    · exact .seq (.keep hle₂) (.seq hforget (.keep hle₄))
    · refine .seq (.keep hle₂) (.seq hforget
        (.seq (.unknown (hnames hmem) hsource ?_) (.keep hle₄)))
      exact fun hd' => absurd hd' hd
  · rw [hnext] at hle₄
    dsimp only
    split_ifs with hd
    · exact .seq (.keep hle₂) (.seq hforget (.keep (Nat.le_of_succ_le hle₄)))
    · exact .seq (.keep hle₂) (.seq hforget (.seq (.fresh (by simpa using hd)) (.keep hle₄)))

/-! ## Loops flow -/

/-- The environment at the entry of a loop: what the body may bind is forgotten. -/
def loopEntry (env : TypeEnv) (body : List Source.Stmt) : TypeEnv :=
  env.forget (Source.boundNames body)

/-- The environment at the entry of a loop over a collection, where the loop's name is bound. -/
def forEntry (env : TypeEnv) (id : String) (body : List Source.Stmt) : TypeEnv :=
  if (loopEntry env body).isDeclared id then loopEntry env body
  else (loopEntry env body).bind id none

theorem yields_whileDo {test : Source.Expr} {body orelse : List Source.Stmt} {inLoop : Bool}
    {code : List Ir.Stmt}
    (h : Yields (stmt r (.whileDo span test body orelse) inLoop env) t (code, env') t') :
    ∃ condition t₁ stmts bodyEnv, orelse = [] ∧
      Yields (expr r (loopEntry env body) test) t condition t₁ ∧
      Yields (block r body true (loopEntry env body)) t₁ (stmts, bodyEnv) t' ∧
      env' = (loopEntry env body).merge [loopEntry env body, bodyEnv] := by
  unfold stmt at h
  split_ifs at h with helse
  · simp at h
  · simp only [yields_bind, yields_pure] at h
    obtain ⟨condition, t₁, hcondition, ⟨stmts, bodyEnv⟩, t₂, hbody, heq, rfl⟩ := h
    exact ⟨condition, t₁, stmts, bodyEnv, by simpa using helse, hcondition, hbody,
      (congrArg Prod.snd heq).symm⟩

theorem yields_forIn {target iter : Source.Expr} {body orelse : List Source.Stmt} {inLoop : Bool}
    {code : List Ir.Stmt}
    (h : Yields (stmt r (.forIn span target iter body orelse) inLoop env) t (code, env') t') :
    ∃ sp id use iterable t₁ stmts bodyEnv, target = .name sp id use ∧ orelse = [] ∧
      Yields (checkName span id) t () t ∧ Yields (expr r env iter) t iterable t₁ ∧
      Yields (block r body true (forEntry env id body)) t₁ (stmts, bodyEnv) t' ∧
      env' = (forEntry env id body).merge [forEntry env id body, bodyEnv] := by
  unfold stmt at h
  split_ifs at h with helse
  · simp at h
  · split at h
    · next sp id use =>
      simp only [yields_bind, yields_pure] at h
      obtain ⟨_, t₀, hname, iterable, t₁, hiter, ⟨stmts, bodyEnv⟩, t₂, hbody, heq, rfl⟩ := h
      obtain ⟨-, rfl⟩ := yields_checkName hname
      exact ⟨sp, id, use, iterable, t₁, stmts, bodyEnv, rfl, by simpa using helse, hname, hiter,
        hbody,
        (congrArg Prod.snd heq).symm⟩
    · simp at h

/-- Entering a loop over a collection forgets and then binds the loop's name. -/
theorem flow_forEntry {annotated : String → HostType → Prop} {B : List String} {id : String}
    {body : List Source.Stmt} {n : Nat} (hnames : Source.boundNames body ⊆ B) (hid : id ∈ B)
    (hsource : isGenerated id = false) : Flow r annotated B env n (forEntry env id body) n := by
  unfold forEntry
  split_ifs with hd
  · exact .forget hnames
  · exact .seq (.forget hnames) (.unknown hid hsource fun hd' => absurd hd' hd)

end Statements

/-! ## Bodies flow -/

mutual

theorem flow_of_stmt (r : Registry) : ∀ (s : Source.Stmt) {inLoop : Bool} {env env' : TypeEnv}
    {t t' : Trace} {code : List Ir.Stmt}, s.isMarked = true →
    Yields (stmt r s inLoop env) t (code, env') t' →
    Flow r (Annotates r s.annotations) (Source.boundNames [s]) env t.generated env' t'.generated
  | .assign span targets value, _, _, _, _, _, _, hm, h =>
    (flow_of_assign hm h).mono (fun _ => id) fun _ _ => False.elim
  | .annAssign span target annot value, _, _, _, _, _, _, hm, h => flow_of_annAssign hm h
  | .augAssign span target op value, _, _, _, _, _, _, hm, h =>
    (flow_of_augAssign hm h).mono (fun _ => id) fun _ _ => False.elim
  | .expr span value, _, env, _, t, t', _, _, h => by
    unfold stmt at h
    split_ifs at h
    · obtain ⟨heq, rfl⟩ := yields_pure.mp h
      obtain rfl := congrArg Prod.snd heq
      exact .keep (le_refl _)
    · split at h
      · obtain ⟨e, t₁, he, h⟩ := yields_bind.mp h
        obtain ⟨heq, rfl⟩ := yields_pure.mp h
        obtain rfl := congrArg Prod.snd heq
        exact .keep (ensures_expr r env _ t e t₁ he).1
      · simp at h
  | .ifElse span test body orelse, _, env, _, t, t', _, hm, h => by
    simp only [Source.Stmt.isMarked, Bool.and_eq_true] at hm
    simp only [stmt, yields_bind, yields_pure] at h
    obtain ⟨c, t₁, hc, ⟨_, bodyEnv⟩, t₂, hbody, ⟨_, orelseEnv⟩, t₃, horelse, heq, rfl⟩ := h
    obtain rfl := congrArg Prod.snd heq
    have hle := (ensures_expr r env test t c t₁ hc).1
    refine .seq (.keep hle) (.join ((flow_of_block r body hm.1 hbody).mono ?_ ?_)
      ((flow_of_block r orelse hm.2 horelse).mono ?_ ?_))
    · exact fun x hx => by simp [Source.mem_boundNames_singleton, Source.Stmt.levels, hx]
    · exact Annotates.mono (by simp [Source.Stmt.annotations])
    · exact fun x hx => by simp [Source.mem_boundNames_singleton, Source.Stmt.levels, hx]
    · exact Annotates.mono (by simp [Source.Stmt.annotations])
  | .whileDo span test body orelse, _, env, _, t, t', _, hm, h => by
    simp only [Source.Stmt.isMarked, Bool.and_eq_true] at hm
    obtain ⟨c, t₁, stmts, bodyEnv, rfl, hc, hbody, rfl⟩ := yields_whileDo h
    have hnames : Source.boundNames body ⊆ Source.boundNames [.whileDo span test body []] :=
      fun x hx => by simp [Source.mem_boundNames_singleton, Source.Stmt.levels, hx]
    have hle := (ensures_expr r _ test t c t₁ hc).1
    refine .seq (.forget hnames)
      (.join (.keep hle) ((flow_of_block r body hm.1 hbody).mono hnames ?_))
    exact Annotates.mono (by simp [Source.Stmt.annotations])
  | .forIn span target iter body orelse, _, env, _, t, t', _, hm, h => by
    simp only [Source.Stmt.isMarked, Bool.and_eq_true] at hm
    obtain ⟨sp, id, use, iterable, t₁, stmts, bodyEnv, rfl, rfl, hname, hiter, hbody, rfl⟩ :=
      yields_forIn h
    obtain ⟨hsource, -⟩ := yields_checkName hname
    have hnames : Source.boundNames body ⊆
        Source.boundNames [.forIn span (.name sp id use) iter body []] :=
      fun x hx => by simp [Source.mem_boundNames_singleton, Source.Stmt.levels, hx]
    have hid : id ∈ Source.boundNames [.forIn span (.name sp id use) iter body []] := by
      have hmentions := Source.mentions_levels_of_isTarget hm.1.1
      simp [Source.mem_boundNames_singleton, Source.Stmt.levels, hmentions]
    have hle := (ensures_expr r env iter t iterable t₁ hiter).1
    refine .seq (flow_forEntry hnames hid hsource)
      (.join (.keep hle) ((flow_of_block r body hm.1.2 hbody).mono hnames ?_))
    exact Annotates.mono (by simp [Source.Stmt.annotations])
  | .matchOn span subject cases, inLoop, _, _, _, _, _, hm, h =>
    (flow_of_dispatch (ensures_builders r cases inLoop hm) h).mono (fun _ => id)
      fun _ _ => False.elim
  | .ret span value, _, env, _, t, t', _, _, h => by
    simp only [stmt, yields_bind, yields_pure] at h
    obtain ⟨e, t₁, he, heq, rfl⟩ := h
    obtain rfl := congrArg Prod.snd heq
    exact .keep (ensures_exprOption r env value t e t₁ he).1
  | .brk span, inLoop, _, _, _, _, _, _, h => by
    unfold stmt at h
    split_ifs at h
    · obtain ⟨heq, rfl⟩ := yields_pure.mp h
      obtain rfl := congrArg Prod.snd heq
      exact .keep (le_refl _)
    · simp at h
  | .cont span, inLoop, _, _, _, _, _, _, h => by
    unfold stmt at h
    split_ifs at h
    · obtain ⟨heq, rfl⟩ := yields_pure.mp h
      obtain rfl := congrArg Prod.snd heq
      exact .keep (le_refl _)
    · simp at h
  | .pass _, _, _, _, _, _, _, _, h => by
    obtain ⟨heq, rfl⟩ := yields_pure.mp h
    obtain rfl := congrArg Prod.snd heq
    exact .keep (le_refl _)
  | .functionDef .., _, _, _, _, _, _, _, h => absurd h yields_refuseAt
  | .classDef .., _, _, _, _, _, _, _, h => absurd h yields_refuseAt
  | .form .., _, _, _, _, _, _, _, h => absurd h yields_refuseAt

/-- **Compiling a marked body is a flow.** -/
theorem flow_of_block (r : Registry) : ∀ (stmts : List Source.Stmt) {inLoop : Bool}
    {env env' : TypeEnv} {t t' : Trace} {code : List Ir.Stmt}, Source.areMarked stmts = true →
    Yields (block r stmts inLoop env) t (code, env') t' →
    Flow r (Annotates r (Source.annotationsOf stmts)) (Source.boundNames stmts) env t.generated env'
      t'.generated
  | [], _, _, _, _, _, _, _, h => by
    obtain ⟨heq, rfl⟩ := yields_pure.mp h
    obtain rfl := congrArg Prod.snd heq
    exact .keep (le_refl _)
  | s :: rest, _, _, _, _, _, _, hm, h => by
    simp only [Source.areMarked, Bool.and_eq_true] at hm
    simp only [block, yields_bind, yields_pure] at h
    obtain ⟨⟨_, env₁⟩, t₁, hs, ⟨_, env₂⟩, t₂, hrest, heq, rfl⟩ := h
    obtain rfl := congrArg Prod.snd heq
    refine .seq ((flow_of_stmt r s hm.1 hs).mono ?_ ?_)
      ((flow_of_block r rest hm.2 hrest).mono ?_ ?_)
    · intro x hx
      exact Source.mem_boundNames_cons.mpr (.inl (Source.mem_boundNames_singleton.mp hx))
    · exact Annotates.mono (by simp [Source.annotationsOf])
    · exact fun x hx => Source.mem_boundNames_cons.mpr (.inr hx)
    · exact Annotates.mono (by simp [Source.annotationsOf])

/-- Building the body of a case takes back no generated name. -/
theorem ensures_builders (r : Registry) : ∀ (cases : List Source.Case) (inLoop : Bool),
    Source.areMarkedCases cases = true → ∀ b ∈ builders r cases inLoop, ∀ env,
    Ensures (b env) fun _ => True
  | [], _, _, _, hb, _ => by simp [builders] at hb
  | .mk _ _ body :: rest, inLoop, hm, b, hb, env => by
    simp only [Source.areMarkedCases, Bool.and_eq_true] at hm
    simp only [builders, List.mem_cons] at hb
    rcases hb with rfl | hb
    · intro t code t' h
      simp only [yields_bind, yields_pure] at h
      obtain ⟨⟨_, env'⟩, t₁, hbody, -, rfl⟩ := h
      exact ⟨(flow_of_block r body hm.1 hbody).le, trivial⟩
    · exact ensures_builders r rest inLoop hm.2 b hb env

end

end Compile

end Componentry
