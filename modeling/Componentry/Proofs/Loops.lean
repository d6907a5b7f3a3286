import Componentry.Proofs.Grammar
import Componentry.Proofs.Unplaced
import Componentry.Proofs.Visits

/-!
# What blocks change and what loops rely on

A loop is compiled once, from an environment that forgets what its body may bind. That is right
only if the names collected from the body's tree cover all that compiling the body can change.
They do, as compiling a body is a flow (`flow_of_block`), and what a flow does not bind it leaves
alone.

**Theorem (`blocks_change_only_bound_names`).** Compiling a block changes only the names that are
collected from it and generated names. So after a loop every name that the loop starts with has
the type it starts with, and the types that are known where the loop starts hold wherever the
compilation comes to inside it.
-/

namespace Componentry

open CompileM

/-- Whether a statement is a loop. -/
def Source.Stmt.isLoop : Source.Stmt → Bool
  | .whileDo .. => true
  | .forIn .. => true
  | _ => false

namespace Compile

/-! ## Visits leave names alone -/

section Steps

variable {r : Registry} {p q : Point} {ns : List (String × Option HostType)} {x : String}

theorem Leads.le {label : Option (String × Option HostType)} (h : Leads r p label q)
    (hm : Source.areMarked p.stmts = true) : p.trace.generated ≤ q.trace.generated := by
  cases label with
  | none => exact (h.flow hm).le
  | some l => exact (h.arm_spec hm).2.1

/-- A step changes only the names that the statements bind and new generated names. -/
theorem Leads.kept {label : Option (String × Option HostType)} (h : Leads r p label q)
    (hm : Source.areMarked p.stmts = true) (hx : x ∉ Source.boundNames p.stmts)
    (hfresh : ∀ k, p.trace.generated < k → x ≠ generatedName "cast" k) :
    q.env.locals.get? x = p.env.locals.get? x := by
  cases label with
  | none => exact ((h.flow hm).kept hx fun k hk _ => hfresh k hk).1
  | some l =>
    obtain ⟨henv, -, hname, -⟩ := h.arm_spec hm
    have hne : x ≠ l.1 := by
      rcases hname with ⟨-, hmem⟩ | ⟨k, hk, -, heq⟩
      · rintro rfl
        exact hx hmem
      · exact heq ▸ hfresh k hk
    simp [henv, hne]

namespace Visits

theorem inside (h : Visits r p ns q) (hm : Source.areMarked p.stmts = true) :
    Source.areMarked q.stmts = true ∧ Source.boundNames q.stmts ⊆ Source.boundNames p.stmts ∧
      p.trace.generated ≤ q.trace.generated := by
  induction h with
  | start => exact ⟨hm, fun _ => id, le_refl _⟩
  | step _ hleads ih =>
    obtain ⟨hm', hnames, hle⟩ := ih
    obtain ⟨hm'', -, hnames'⟩ := hleads.inside hm'
    exact ⟨hm'', fun _ hx => hnames (hnames' hx), hle.trans (hleads.le hm')⟩

/-- **Names that statements do not bind keep what is known of them**, wherever the compilation
comes to. -/
theorem kept (h : Visits r p ns q) (hm : Source.areMarked p.stmts = true)
    (hx : x ∉ Source.boundNames p.stmts)
    (hfresh : ∀ k, p.trace.generated < k → x ≠ generatedName "cast" k) :
    q.env.locals.get? x = p.env.locals.get? x := by
  induction h with
  | start => rfl
  | step h hleads ih =>
    obtain ⟨hm', hnames, hle⟩ := h.inside hm
    rw [← ih]
    exact hleads.kept hm' (fun hmem => hx (hnames hmem)) fun k hk => hfresh k (hle.trans_lt hk)

/-- **Declared names keep their types** except in arms that narrow them. -/
theorem declared (h : Visits r p ns q) (hm : Source.areMarked p.stmts = true)
    (hd : p.env.isDeclared x = true) :
    q.env.isDeclared x = true ∧
      q.env.localType x = (narrowedTo ns x).getD (p.env.localType x) := by
  induction h with
  | start => exact ⟨hd, rfl⟩
  | @step ns q label q' h hleads ih =>
    obtain ⟨hd', htype⟩ := ih
    have hm' := (h.inside hm).1
    cases label with
    | none =>
      obtain ⟨hd'', htype'⟩ := (hleads.flow hm').declared hd'
      exact ⟨hd'', htype'.trans htype⟩
    | some l =>
      obtain ⟨y, T⟩ := l
      rw [(hleads.arm_spec hm').1, narrowedTo_narrowing]
      refine ⟨hd', ?_⟩
      by_cases hxy : x = y
      · subst hxy
        simp [hd']
      · simp [hxy, htype]

/-- A visit may start a step earlier. -/
theorem head {p' : Point} (hleads : Leads r p none p') (h : Visits r p' ns q) :
    Visits r p ns q := by
  induction h with
  | start => exact .step .start hleads
  | step _ hlast ih => exact .step ih hlast

/-- Compiling a block comes to its end. -/
theorem of_block {stmts : List Source.Stmt} {inLoop : Bool} {env env' : TypeEnv} {t t' : Trace}
    {code : List Ir.Stmt} (h : Yields (block r stmts inLoop env) t (code, env') t') :
    Visits r ⟨stmts, inLoop, env, t⟩ [] ⟨[], inLoop, env', t'⟩ := by
  induction stmts generalizing env t code with
  | nil =>
    obtain ⟨heq, rfl⟩ := yields_pure.mp h
    obtain rfl := congrArg Prod.snd heq
    exact .start
  | cons s rest ih =>
    simp only [block, yields_bind, yields_pure] at h
    obtain ⟨⟨_, env₁⟩, t₁, hs, ⟨_, env₂⟩, t₂, hrest, heq, rfl⟩ := h
    obtain rfl := congrArg Prod.snd heq
    exact .head (.next hs) (ih hrest)

end Visits

end Steps

/-! ## Loops -/

section Loops

variable {r : Registry} {declares : String → HostType → Prop} {ns : List (String × Option HostType)}
  {p b : Point} {x : String} {U : HostType}

/-- A loop starts without types for the names that its body binds, declared names apart. -/
theorem EntersLoop.forgotten (h : EntersLoop r p b) (hx : x ∈ Source.boundNames b.stmts)
    (hd : b.env.isDeclared x = false) : b.env.localType x = none := by
  have hforget (env : TypeEnv) (body : List Source.Stmt) (hx : x ∈ Source.boundNames body)
      (hd : (loopEntry env body).isDeclared x = false) :
        (loopEntry env body).localType x = none := by
    rw [loopEntry, TypeEnv.isDeclared_forget] at hd
    rw [loopEntry, TypeEnv.localType_forget, if_pos ⟨hx, hd⟩]
  cases h with
  | whileDo => exact hforget _ _ hx hd
  | @forIn span sp id use iter body rest inLoop env =>
    simp only [forEntry] at hd ⊢
    split_ifs at hd ⊢
    · exact hforget env body hx hd
    · rw [TypeEnv.localType_bind]
      split_ifs
      · rfl
      · exact hforget env body hx hd

/-- A loop that is accepted is entered, and its environments at the start and at the end are
joined. -/
theorem exists_entersLoop {s : Source.Stmt} {rest : List Source.Stmt} {code : List Ir.Stmt}
    {env' : TypeEnv} {t' : Trace} (hs : p.stmts = s :: rest) (hloop : s.isLoop = true)
    (h : Yields (stmt r s p.inLoop p.env) p.trace (code, env') t') :
    ∃ b stmts bodyEnv, EntersLoop r p b ∧
      Yields (block r b.stmts b.inLoop b.env) b.trace (stmts, bodyEnv) t' ∧
      env' = b.env.merge [b.env, bodyEnv] := by
  obtain ⟨_, inLoop, env, t⟩ := p
  obtain rfl : _ = s :: rest := hs
  cases s with
  | whileDo span test body orelse =>
    obtain ⟨c, t₁, stmts, bodyEnv, rfl, hc, hbody, rfl⟩ := yields_whileDo h
    exact ⟨_, stmts, bodyEnv, .whileDo hc, hbody, rfl⟩
  | forIn span target iter body orelse =>
    obtain ⟨sp, id, use, iterable, t₁, stmts, bodyEnv, rfl, rfl, hname, hiter, hbody, rfl⟩ :=
      yields_forIn h
    exact ⟨_, stmts, bodyEnv, .forIn hname hiter, hbody, rfl⟩
  | _ => simp [Source.Stmt.isLoop] at hloop

/-- **What is known where a loop starts holds wherever the compilation comes to inside it**, arms
that narrow a declared name apart. -/
theorem Visited.inside_loop (hb : Visited r declares ns b) (hloop : EntersLoop r p b)
    {ns' : List (String × Option HostType)} {q : Point} (h : Visits r b ns' q)
    (hx : b.env.locals.get? x = some (some U)) (hnarrow : narrowedTo ns' x = none) :
    q.env.locals.get? x = some (some U) := by
  by_cases hd : b.env.isDeclared x = true
  · obtain ⟨-, htype⟩ := h.declared hb.marked hd
    rw [hnarrow, Option.getD_none] at htype
    exact (q.env.localType_eq_some x).mp (htype.trans ((b.env.localType_eq_some x).mpr hx))
  · have hd : b.env.isDeclared x = false := by simpa using hd
    rw [h.kept hb.marked (fun hmem => ?_) fun k hk heq => ?_, hx]
    · have hnone := hloop.forgotten hmem hd
      rw [(b.env.localType_eq_some x).mpr hx] at hnone
      simp at hnone
    · -- A generated name with a type has a number that was in use before the loop.
      subst heq
      obtain ⟨k', hk', heq⟩ := hb.numbered _ U (isGenerated_generatedName "cast" k) hd hx
      exact absurd hk' (Nat.not_le.mpr (generatedName_injective heq ▸ hk))

/-- After a loop every name that it starts with is as it was where the loop starts. -/
theorem Visited.after_loop (hb : Visited r declares ns b) (hloop : EntersLoop r p b)
    {code : List Ir.Stmt} {bodyEnv : TypeEnv} {t' : Trace}
    (h : Yields (block r b.stmts b.inLoop b.env) b.trace (code, bodyEnv) t')
    {type : Option HostType}
    (hx : b.env.locals.get? x = some type) :
    (b.env.merge [b.env, bodyEnv]).locals.get? x = some type := by
  refine TypeEnv.get?_merge_round hx fun U hU => ?_
  obtain rfl : type = some U := hU
  exact hb.inside_loop hloop (Visits.of_block h) hx rfl

end Loops

/-! ## Frames -/

/-- How an environment may differ from an earlier one if only names among `B` were bound since. -/
structure Frames (B : List String) (env env' : TypeEnv) : Prop where
  kept : ∀ x, isGenerated x = false → x ∉ B →
    env'.locals.get? x = env.locals.get? x ∧ env'.isDeclared x = env.isDeclared x
  globals : env'.globals = env.globals
  callables : env'.callables = env.callables
  declared : ∀ x, env.isDeclared x = true →
    env'.isDeclared x = true ∧ env'.localType x = env.localType x
  generated : ∀ x type, isGenerated x = true → env.locals.get? x = none →
    env'.locals.get? x = some type → type = none

theorem Flow.frames {r : Registry} {annotated : String → HostType → Prop} {B : List String}
    {env env' : TypeEnv} {n n' : Nat} (h : Flow r annotated B env n env' n') :
    Frames B env env' where
  kept x hsource hx := h.kept hx fun k _ _ heq => by
    simp [heq, isGenerated_generatedName] at hsource
  globals := h.module.1
  callables := h.module.2.1
  declared x hx := h.declared hx
  generated x type hgen hnone hx := by
    rcases h.generated hgen with heq | heq
    · simp [heq, hnone] at hx
    · simpa [heq] using hx.symm

/-- **Blocks change only the names that are collected from them.** Trees that the parser gives
have the names of targets marked, so the collected names cover what compiling can bind. A block
leaves all other names alone, but for new generated names, whose types are unknown; declared names
keep their types. Hence, wherever a loop is accepted, the environment after it agrees with the one
it starts from on all names of the latter, and what is known there holds at every point inside the
loop. -/
theorem blocks_change_only_bound_names (r : Registry) :
    (∀ text stmts, Source.parse text = some stmts → Source.areMarked stmts = true) ∧
    (∀ stmts inLoop env t code env' t', Source.areMarked stmts = true →
      Yields (block r stmts inLoop env) t (code, env') t' →
      Frames (Source.boundNames stmts) env env') ∧
    (∀ fn receiver p ns q s rest code env' t', Starts r fn receiver p → Visits r p ns q →
      q.stmts = s :: rest → s.isLoop = true →
      Yields (stmt r s q.inLoop q.env) q.trace (code, env') t' →
      ∃ b, EntersLoop r q b ∧
        (∀ x type, b.env.locals.get? x = some type → env'.locals.get? x = some type) ∧
        ∀ ns' q', Visits r b ns' q' → ∀ x U, b.env.locals.get? x = some (some U) →
          narrowedTo ns' x = none → q'.env.locals.get? x = some (some U)) := by
  refine ⟨fun text stmts h => Source.areMarked_of_parse h,
    fun stmts inLoop env t code env' t' hm h => (flow_of_block r stmts hm h).frames, ?_⟩
  intro fn receiver p ns q s rest code env' t' hstarts hvisits hs hloop h
  obtain ⟨b, stmts, bodyEnv, henters, hbody, rfl⟩ := exists_entersLoop hs hloop h
  have hb := (hstarts.visited.of_visits hvisits).flow (.loopBody henters)
  exact ⟨b, henters, fun x type hx => hb.after_loop henters hbody hx,
    fun ns' q' hinside x U hx hnarrow => hb.inside_loop henters hinside hx hnarrow⟩

/-- A function that takes a game object `player`, copies it to `first`, and in a loop copies
`first` to `last`. -/
def playerLoop : FunctionSource :=
  { span := .nowhere
    name := "play"
    params := { regular := [⟨.nowhere, "player", some (.load "GameObject")⟩] }
    body := [.copy "first" "player", .whileDo .nowhere (.load "first") [.copy "last" "first"] []]
    decorators := []
    returns := none }

/-- The loop of `playerLoop` starts with `first` a game object, and so it ends. -/
theorem playerLoop_keeps_types :
    ∃ p q b s code env' t' T, Starts Host.builtin playerLoop none p ∧ Visits Host.builtin p [] q ∧
      q.stmts = [s] ∧ s.isLoop = true ∧
      Yields (stmt Host.builtin s q.inLoop q.env) q.trace (code, env') t' ∧
      EntersLoop Host.builtin q b ∧ Host.builtin.find? Host.gameObjectName = some T ∧
      b.env.locals.get? "first" = some (some T) ∧ env'.locals.get? "first" = some (some T) := by
  obtain ⟨T, hT⟩ : ∃ T, Host.builtin.find? Host.gameObjectName = some T :=
    Option.isSome_iff_exists.mp (by decide +kernel)
  have hrun : ((runFrom (do
      let start ← params Host.builtin playerLoop none {}
      let first ← stmt Host.builtin playerLoop.body[0] false start.2
      let _ ← stmt Host.builtin playerLoop.body[1] false first.2
      return first.2) {}).1.toOption.bind (·.locals.get? "first")) =
        some (Host.builtin.find? Host.gameObjectName) := by
    decide +kernel
  rw [hT] at hrun
  obtain ⟨_, t', h, hfirst⟩ := exists_yields_of_bind hrun
  simp only [yields_bind, yields_pure] at h
  obtain ⟨⟨ps, env⟩, t, hparams, ⟨_, env₁⟩, t₁, hs, ⟨code, env'⟩, _, hloop, rfl, rfl⟩ := h
  have hstarts : Starts Host.builtin playerLoop none ⟨playerLoop.body, false, env, t⟩ :=
    ⟨by decide, by simp, ⟨{}, {}, ps, ⟨[], {}, _, {}, [], yields_pure.mpr ⟨rfl, rfl⟩, rfl⟩,
      hparams⟩, rfl,
      rfl⟩
  have hvisits : Visits Host.builtin ⟨playerLoop.body, false, env, t⟩ []
      ⟨[playerLoop.body[1]], false, env₁, t₁⟩ := .step .start (.next hs)
  obtain ⟨b, henters, hafter, -⟩ :=
    (blocks_change_only_bound_names Host.builtin).2.2 playerLoop none _ _ _
    _ _ _ _ _ hstarts hvisits rfl rfl hloop
  have hb : b.env.locals.get? "first" = some (some T) := by
    cases henters with
    | whileDo =>
      rw [loopEntry, TypeEnv.get?_forget, if_neg fun h => absurd h.1 (by decide), hfirst]
  exact ⟨_, _, b, _, code, env', _, T, hstarts, hvisits, rfl, rfl, hloop, henters, hT, hb,
    hafter "first" (some T) hb⟩

end Compile

end Componentry
