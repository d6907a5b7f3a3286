import Componentry.Proofs.Unplaced
import Componentry.Proofs.Visits

/-!
# Types of assigned names

After a plain assignment `x = e` one would expect the static type of `x` to be that of `e`, or one
that an annotation gives `x`. For most assignments it is. But an arm of a match gives the captured
name the type of its clause even where that name is declared, and an assignment to a declared name
leaves its type as it is. So inside the arm the name keeps the clause's type although its value is
another one.

**Theorem (`assigned_type_justified_iff`).** The type of an assigned name is what one would expect
exactly if no arm around the assignment narrows the name to another type, and no path before it
left the name declared without a type.

`capturedThen_unjustified` is a function where the arm does, and where a later match drops its
test and its default for that reason.
-/

namespace Componentry

open CompileM

namespace Compile

/-- The type that is held for a name is justified: it is that of the assigned value, or one that an
annotation gives the name. -/
def IsJustified (declares : HostType → Prop) (value held : Option HostType) : Prop :=
  held = value ∨ ∃ U, held = some U ∧ declares U

section Assignments

variable {r : Registry} {declares : String → HostType → Prop} {ns : List (String × Option HostType)}
  {q : Point} {x : String}

/-- The type of a name after an assignment to it. -/
def heldType (ns : List (String × Option HostType)) (env : TypeEnv) (x : String)
    (value : Option HostType) : Option HostType :=
  if env.isDeclared x then (narrowedTo ns x).getD (env.localType x) else value

/-- Without an arm that narrows it, a name is held with a justified type, unless it is declared on
some paths only. -/
theorem Visited.isJustified_heldType_iff (hq : Visited r declares ns q) (value : Option HostType) :
    IsJustified (declares x) value (heldType ns q.env x value) ↔
      match narrowedTo ns x with
      | some T => IsJustified (declares x) value T
      | none => q.env.isDeclared x = true → q.env.localType x = none → value = none := by
  unfold heldType
  cases hnarrow : narrowedTo ns x with
  | some T =>
    rw [if_pos (hq.narrowed x T hnarrow).1]
    rfl
  | none =>
    rw [Option.getD_none]
    split_ifs with hd
    · cases htype : q.env.localType x with
      | none => simp [IsJustified, hd, eq_comm]
      | some U =>
        have hdeclares : declares x U := hq.justified x U hd htype hnarrow
        simp [IsJustified, hdeclares]
    · simp [IsJustified, hd]

end Assignments

/-- **Types of assigned names.** Wherever the compilation of a function comes to a plain
assignment `x = e`, the name holds afterwards the type of `e` if it is not declared, and else the
type to which the innermost arm narrows it, or without such an arm the type it had. That is the
type of `e` or one that an annotation gives `x` exactly if the arm's type is one of these, and for
a name without a known type if the type of `e` is unknown too. -/
theorem assigned_type_justified_iff {r : Registry} {fn : FunctionSource}
    {receiver : Option HostType}
    {p : Point} {ns : List (String × Option HostType)} {span sp : Source.Span} {x : String}
    {use : Source.NameUse} {value : Source.Expr} {rest : List Source.Stmt} {inLoop : Bool}
    {env env' : TypeEnv} {t t' : Trace} {code : List Ir.Stmt} (hstarts : Starts r fn receiver p)
    (hvisits : Visits r p ns ⟨.assign span [.name sp x use] value :: rest, inLoop, env, t⟩)
    (h : Yields (stmt r (.assign span [.name sp x use] value) inLoop env) t (code, env') t') :
    ∃ e, Yields (expr r env value) t e t' ∧
      env'.localType x = heldType ns env x (resolve r env e) ∧
      (IsJustified (Declares r fn receiver x) (resolve r env e) (env'.localType x) ↔
        match narrowedTo ns x with
        | some T => IsJustified (Declares r fn receiver x) (resolve r env e) T
        | none => env.isDeclared x = true → env.localType x = none → resolve r env e = none) := by
  have hq := hstarts.visited.of_visits hvisits
  have h : Yields (assign r env span [.name sp x use] value) t (code, env') t' := h
  obtain ⟨e, he, -, rfl⟩ := yields_assign h
  have hheld : (if env.isDeclared x then env else env.bind x (resolve r env e)).localType x =
      heldType ns env x (resolve r env e) := by
    unfold heldType
    split_ifs with hd
    · cases hnarrow : narrowedTo ns x with
      | none => rfl
      | some T => exact (hq.narrowed x T hnarrow).2
    · simp
  refine ⟨e, he, hheld, ?_⟩
  rw [hheld]
  exact hq.isJustified_heldType_iff _

section Example

open Source.Span (nowhere)

open Source.Expr (load)

/-- The pattern of game objects, captured as `x`. -/
def gameObjectAsX : Source.Pattern :=
  .bound nowhere (.ofClass nowhere (load "GameObject") [] []) "x"

/-- Assigns a name to `x` and then matches `x`, with a default. -/
def assignThenMatch (value : String) : List Source.Stmt :=
  let print (n : Int) : Source.Stmt :=
    .expr nowhere (.call nowhere (load "print") [.constant nowhere (.literal (.int n))] [])
  [ .copy "x" value,
    .matchOn nowhere (load "x")
      [.mk gameObjectAsX none [print 1], .mk (.wildcard nowhere) none [print 2]] ]

/-- A function of two objects `x` and `y`. Where `x` is a game object, it assigns a name to `x`
and matches `x` once more. -/
def capturedThen (value : String) : FunctionSource :=
  { span := nowhere
    name := "f"
    params :=
      { regular := [⟨nowhere, "x", some (load "object")⟩, ⟨nowhere, "y", some (load "object")⟩] }
    body := [.matchOn nowhere (load "x") [.mk gameObjectAsX none (assignThenMatch value)]]
    decorators := []
    returns := none }

variable {O G : HostType}

/-- The environment of the parameters of `capturedThen`. -/
def objectsEnv (O : HostType) : TypeEnv :=
  (({} : TypeEnv).declare "x" (some O)).declare "y" (some O)

theorem yields_params_capturedThen (value : String) (hO : Host.builtin.lookup "object" = some O) :
    Yields (params Host.builtin (capturedThen value) none {}) {}
      ([⟨"x", some O.fullName⟩, ⟨"y", some O.fullName⟩], objectsEnv O) {} := by
  have htype : Yields (annotType Host.builtin nowhere (some (load "object"))) {} (some O) {} :=
    yields_bind.mpr ⟨some "object", {}, yields_ofExcept.mpr ⟨rfl, rfl⟩, yields_bind.mpr ⟨O, {},
      yields_ofRegistry.mpr ⟨Registry.ensure_eq_ok.mpr hO, rfl⟩, yields_pure.mpr ⟨rfl, rfl⟩⟩⟩
  have hparam {x : String} {ps : List Source.Param} {env env' : TypeEnv} {params : List Ir.Param}
      (hx : Yields (checkName nowhere x) {} () {})
      (hps : Yields (paramList Host.builtin ps (env.declare x (some O))) {} (params, env') {}) :
      Yields (paramList Host.builtin (⟨nowhere, x, some (load "object")⟩ :: ps) env) {}
        (⟨x, some O.fullName⟩ :: params, env') {} :=
    yields_bind.mpr ⟨(), {}, hx, yields_bind.mpr ⟨some O, {}, htype,
      yields_bind.mpr ⟨(params, env'), {},
      hps, rfl⟩⟩⟩
  exact hparam rfl (hparam rfl rfl)

/-- A game object is an object, but not the other way round. -/
theorem plan_capturedThen (value : String) (hO : Host.builtin.lookup "object" = some O)
    (hG : Host.builtin.lookup "GameObject" = some G) :
    planDispatch Host.builtin (objectsEnv O) (.var "x") (some O)
        [("GameObject", assignThenMatch value)] =
      .ok (.pruned O [⟨G, assignThenMatch value⟩]) := by
  have hrelated : ¬ G.fullName = O.fullName ∧ Host.builtin.areRelated O G = true ∧
      Host.builtin.isSubtype O G = false := by
    have hfacts : ((Host.builtin.lookup "object").bind fun O =>
        (Host.builtin.lookup "GameObject").map fun G =>
          (G.fullName == O.fullName, Host.builtin.areRelated O G, Host.builtin.isSubtype O G)) =
        some (false, true, false) := by
      decide +kernel
    simpa [hO, hG] using hfacts
  have hstatic : subjectType Host.builtin (objectsEnv O) (.var "x") (some O) = some O := by
    have hx : resolve Host.builtin (objectsEnv O) (.var "x") = some O := rfl
    simp [subjectType, mostSpecific, challenge, hx]
  refine planDispatch_eq_ok.mpr ⟨[⟨G, assignThenMatch value⟩], ?_, ?_⟩
  · exact resolveClauses_cons.mpr ⟨G, [], hG, rfl, rfl⟩
  · simp [hstatic, Plan.make, Plan.survivors, hrelated]

/-- The compilation of `capturedThen` comes to the assignment, where `x` is narrowed. -/
theorem capturedThen_visits (value : String) (hO : Host.builtin.lookup "object" = some O)
    (hG : Host.builtin.lookup "GameObject" = some G) :
    ∃ p t, Starts Host.builtin (capturedThen value) none p ∧
      Visits Host.builtin p [("x", some G)]
        ⟨assignThenMatch value, false, (objectsEnv O).bind "x" (some G), t⟩ := by
  refine ⟨⟨(capturedThen value).body, false, objectsEnv O, {}⟩, { log := [some O.fullName] },
    ⟨by rfl, by simp, ?_, rfl, rfl⟩, ?_⟩
  · exact ⟨{}, {}, _, ⟨[], {}, _, {}, [], yields_pure.mpr ⟨rfl, rfl⟩, rfl⟩,
      yields_params_capturedThen value hO⟩
  · have hvalue : Yields (expr Host.builtin (objectsEnv O) (load "x")) {} (.var "x") {} := rfl
    have hheads : Yields (caseHeads {} [.mk gameObjectAsX none (assignThenMatch value)]) {}
        ⟨some "x", ["GameObject"], false⟩ {} := rfl
    have hname : Yields (subjectName ⟨some "x", ["GameObject"], false⟩) {} "x" {} := rfl
    have harms : (Plan.pruned O [⟨G, assignThenMatch value⟩]).arms none =
        [] ++ (some G, assignThenMatch value) :: [] := rfl
    exact .step .start (.arm hvalue hheads hname (plan_capturedThen value hO hG)
      (yields_record.mpr rfl)
      harms (yields_pure.mpr ⟨rfl, rfl⟩))

/-- All that `capturedThen` annotates it annotates as an object. -/
theorem of_declares_capturedThen {value x : String} {U : HostType}
    (h : Declares Host.builtin (capturedThen value) none x U) :
    Host.builtin.lookup "object" = some U := by
  cases h with
  | @param p annot _ hp hannot hwrites =>
    have hp : p.annot = some (load "object") := by
      rcases List.mem_pair.mp hp with rfl | rfl <;> rfl
    obtain rfl : load "object" = annot := Option.some.inj (hp.symm.trans hannot)
    obtain ⟨d, hd, hU⟩ := hwrites
    obtain rfl : "object" = d := Option.some.inj (Except.ok.inj hd)
    exact hU
  | receiver _ hnone => simp at hnone
  | inBody hnotes =>
    obtain ⟨annot, hmem, -⟩ := hnotes
    exact absurd hmem List.not_mem_nil

/-- Where the captured name is assigned to itself its type is justified: it is that of the value. -/
theorem capturedThen_justified :
    ∃ p ns env env' t code t' e, Starts Host.builtin (capturedThen "x") none p ∧
      Visits Host.builtin p ns ⟨assignThenMatch "x", false, env, t⟩ ∧
        (narrowedTo ns "x").isSome = true ∧
      Yields (stmt Host.builtin (.copy "x" "x") false env) t
        (code, env') t' ∧
      IsJustified (Declares Host.builtin (capturedThen "x") none "x") (resolve Host.builtin env e)
        (env'.localType "x") := by
  obtain ⟨O, hO⟩ : ∃ O, Host.builtin.lookup "object" = some O :=
    Option.isSome_iff_exists.mp (by decide +kernel)
  obtain ⟨G, hG⟩ : ∃ G, Host.builtin.lookup "GameObject" = some G :=
    Option.isSome_iff_exists.mp (by decide +kernel)
  obtain ⟨p, t, hstarts, hvisits⟩ := capturedThen_visits "x" hO hG
  have hassign : Yields (stmt Host.builtin (.copy "x" "x") false
      ((objectsEnv O).bind "x" (some G))) t ([.assign (.var "x") (.var "x")],
        (objectsEnv O).bind "x" (some G)) t := rfl
  obtain ⟨e, he, -, hiff⟩ := assigned_type_justified_iff hstarts hvisits hassign
  refine ⟨p, _, _, _, t, _, t, e, hstarts, hvisits, rfl, hassign, hiff.mpr (.inl ?_)⟩
  obtain ⟨rfl, -⟩ := he.unique (show Yields _ t (.var "x") t from rfl)
  rfl

/-- **Narrowed types survive assignments.** Where `x` was captured as a game object and is then
assigned the object `y`, it is still held to be a game object, which neither the type of `y` nor
any annotation says. The match after it is specialized for game objects: its code has no test and
no default. -/
theorem capturedThen_unjustified :
    (∃ p ns env env' t code t', Starts Host.builtin (capturedThen "y") none p ∧
      Visits Host.builtin p ns ⟨assignThenMatch "y", false, env, t⟩ ∧
      Yields (stmt Host.builtin (.copy "x" "y") false env) t
        (code, env') t' ∧ Yields (expr Host.builtin env (load "y")) t (.var "y") t' ∧
      ¬ IsJustified (Declares Host.builtin (capturedThen "y") none "x")
        (resolve Host.builtin env (.var "y")) (env'.localType "x")) ∧
    (runFrom (function Host.builtin {} (capturedThen "y")) {}).2.log =
      [some "System.Object", some "UnityEngine.GameObject"] := by
  refine ⟨?_, by decide +kernel⟩
  obtain ⟨O, hO⟩ : ∃ O, Host.builtin.lookup "object" = some O :=
    Option.isSome_iff_exists.mp (by decide +kernel)
  obtain ⟨G, hG⟩ : ∃ G, Host.builtin.lookup "GameObject" = some G :=
    Option.isSome_iff_exists.mp (by decide +kernel)
  have hne : G ≠ O := by
    have hlookup : Host.builtin.lookup "GameObject" ≠ Host.builtin.lookup "object" := by
      decide +kernel
    rw [hO, hG] at hlookup
    exact fun heq => hlookup (congrArg some heq)
  obtain ⟨p, t, hstarts, hvisits⟩ := capturedThen_visits "y" hO hG
  refine ⟨p, _, _, (objectsEnv O).bind "x" (some G), t, [.assign (.var "x") (.var "y")], t, hstarts,
    hvisits, rfl, rfl, ?_⟩
  rintro (heq | ⟨U, hU, hdeclares⟩)
  · exact hne (Option.some.inj heq)
  · obtain rfl : G = U := Option.some.inj hU
    exact hne (Option.some.inj ((of_declares_capturedThen hdeclares).symm.trans hO))

end Example

end Compile

end Componentry
