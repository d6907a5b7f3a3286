import Componentry.Proofs.Clashes
import Componentry.Proofs.Loops

/-!
# Annotating a name again

A name may be annotated more than once, as long as each annotation gives the type that is held for
the name. If all annotations of a name write one type, an annotation can clash in two ways only. An
arm of a match around it narrows the name to another type. Or the name has come to be declared
without the type that its annotations write: as a parameter, or where paths join.

Paths join by two rules. A name is declared after them if one path declares it, and it has a type if
all paths agree on one. `Unsettles` is a join at which the first holds of a name and the second does
not: branches of which only one gives the type, or a loop whose body declares the name.

**Theorem (`strays_iff`).** Where a compilation comes to, a name is declared without the type of its
annotations exactly if an arm narrows it to another type, or no arm narrows it and it started so or
such a join lies behind.

**Theorem (`conflict_iff_type_lost`).** A source is refused for an annotation exactly if a body
comes to one that clashes, and an annotation of a name whose annotations agree clashes exactly
there.
-/

namespace Componentry

open CompileM

/-- The name is declared, but another type is held for it, or none. -/
def TypeEnv.Strays (env : TypeEnv) (x : String) (T : HostType) : Prop :=
  env.isDeclared x = true ∧ env.localType x ≠ some T

namespace Compile

/-! ## Names that join astray -/

/-- Paths join between the points. The name was not declared before them, one of them declares it,
and they do not agree on the type. -/
inductive Unsettles (r : Registry) (x : String) (T : HostType) : Point → Point → Prop
  | branches {span test body orelse rest inLoop env t c t₁ code bodyEnv t₂ code' orelseEnv t'} :
      env.isDeclared x = false → Yields (expr r env test) t c t₁ →
      Yields (block r body inLoop env) t₁ (code, bodyEnv) t₂ →
      Yields (block r orelse inLoop env) t₂ (code', orelseEnv) t' →
      bodyEnv.isDeclared x = true ∨ orelseEnv.isDeclared x = true →
      bodyEnv.localType x ≠ some T ∨ orelseEnv.localType x ≠ some T →
      Unsettles r x T ⟨.ifElse span test body orelse :: rest, inLoop, env, t⟩
        ⟨rest, inLoop, env.merge [bodyEnv, orelseEnv], t'⟩
  /-- The body of a loop may not run, and before it the name has no type. -/
  | loop {s rest inLoop env t q code bodyEnv t'} :
      env.isDeclared x = false → EntersLoop r ⟨s :: rest, inLoop, env, t⟩ q →
      Yields (block r q.stmts q.inLoop q.env) q.trace (code, bodyEnv) t' →
      bodyEnv.isDeclared x = true →
      Unsettles r x T ⟨s :: rest, inLoop, env, t⟩ ⟨rest, inLoop, q.env.merge [q.env, bodyEnv], t'⟩

section Joins

variable {r : Registry} {x : String} {T : HostType} {p q : Point}
  {ns : List (String × Option HostType)}

/-- A flow declares only names that it binds and that are annotated. -/
theorem Flow.of_isDeclared {annotated : String → HostType → Prop} {B : List String}
    {env env' : TypeEnv} {n n' : Nat} (h : Flow r annotated B env n env' n')
    (hx : env'.isDeclared x = true) :
    env.isDeclared x = true ∨ x ∈ B ∧ ∃ U, annotated x U := by
  induction h with
  | declare hy _ hT =>
    rcases (TypeEnv.isDeclared_declare ..).mp hx with rfl | hx
    · exact .inr ⟨hy, _, hT⟩
    · exact .inl hx
  | seq _ _ ih₁ ih₂ =>
    rcases ih₂ hx with hx | hx
    · exact ih₁ hx
    · exact .inr hx
  | join _ _ ih₁ ih₂ =>
    rcases (TypeEnv.isDeclared_merge ..).mp hx with hx | ⟨b, hb, hd⟩
    · exact .inl hx
    · rcases List.mem_pair.mp hb with rfl | rfl
      · exact ih₁ hd
      · exact ih₂ hd
  | _ => exact .inl hx

/-- Entering a loop declares nothing, and what its body may bind has no type there. -/
theorem EntersLoop.entry (h : EntersLoop r p q) :
    q.env.isDeclared x = p.env.isDeclared x ∧
      (p.env.isDeclared x = false → x ∈ Source.boundNames q.stmts →
        q.env.locals.get? x = some none) := by
  cases h with
  | whileDo => exact ⟨rfl, fun hd hx => by simp [loopEntry, hd, hx]⟩
  | forIn =>
    unfold forEntry
    split_ifs
    · exact ⟨rfl, fun hd hx => by simp [loopEntry, hd, hx]⟩
    · exact ⟨rfl, fun hd hx => by simp [loopEntry, hd, hx]⟩

theorem yields_ifElse {span : Source.Span} {test : Source.Expr} {body orelse : List Source.Stmt}
    {inLoop : Bool} {env env' : TypeEnv} {t t' : Trace} :
    (∃ code, Yields (stmt r (.ifElse span test body orelse) inLoop env) t (code, env') t') ↔
      ∃ c t₁ code bodyEnv t₂ code' orelseEnv, Yields (expr r env test) t c t₁ ∧
        Yields (block r body inLoop env) t₁ (code, bodyEnv) t₂ ∧
        Yields (block r orelse inLoop env) t₂ (code', orelseEnv) t' ∧
        env' = env.merge [bodyEnv, orelseEnv] := by
  simp only [stmt, yields_bind, yields_pure, Prod.exists, Prod.mk.injEq]
  constructor
  · rintro ⟨_, c, t₁, htest, code, bodyEnv, t₂, hbody, code', orelseEnv, t₃, horelse, ⟨-, rfl⟩, rfl⟩
    exact ⟨c, t₁, code, bodyEnv, t₂, code', orelseEnv, htest, hbody, horelse, rfl⟩
  · rintro ⟨c, t₁, code, bodyEnv, t₂, code', orelseEnv, htest, hbody, horelse, rfl⟩
    exact ⟨_, c, t₁, htest, code, bodyEnv, t₂, hbody, code', orelseEnv, t', horelse, ⟨rfl, rfl⟩,
      rfl⟩

/-- After a loop, paths join that leave it at once and after a round. -/
theorem yields_loop {s : Source.Stmt} {rest : List Source.Stmt} {inLoop : Bool} {env : TypeEnv}
    {t t' : Trace} {code : List Ir.Stmt} {bodyEnv : TypeEnv}
    (h : EntersLoop r ⟨s :: rest, inLoop, env, t⟩ q)
    (hbody : Yields (block r q.stmts q.inLoop q.env) q.trace (code, bodyEnv) t') :
    ∃ code, Yields (stmt r s inLoop env) t (code, q.env.merge [q.env, bodyEnv]) t' := by
  cases h with
  | whileDo htest =>
    rw [stmt]
    exact ⟨_, yields_check.mpr ⟨by simp, yields_bind.mpr ⟨_, _, htest, yields_bind.mpr ⟨_, _, hbody,
      yields_pure.mpr ⟨rfl, rfl⟩⟩⟩⟩⟩
  | forIn hname hiter =>
    rw [stmt]
    exact ⟨_, yields_check.mpr ⟨by simp, yields_bind.mpr ⟨_, _, hname, yields_bind.mpr ⟨_, _, hiter,
      yields_bind.mpr ⟨_, _, hbody, yields_pure.mpr ⟨rfl, rfl⟩⟩⟩⟩⟩⟩

/-- A join that unsettles a name is a step. -/
theorem Unsettles.leads (h : Unsettles r x T p q) : Leads r p none q := by
  cases h with
  | branches _ htest hbody horelse _ _ =>
    obtain ⟨code, h⟩ := yields_ifElse.mpr ⟨_, _, _, _, _, _, _, htest, hbody, horelse, rfl⟩
    exact .next h
  | loop _ henters hbody _ =>
    obtain ⟨code, h⟩ := yields_loop henters hbody
    exact .next h

/-- After a join that unsettles it, a name is declared without the type. -/
theorem Unsettles.strays (h : Unsettles r x T p q) (hm : Source.areMarked p.stmts = true) :
    q.env.Strays x T := by
  cases h with
  | branches hd _ _ _ hdeclares hdiffer =>
    refine ⟨(TypeEnv.isDeclared_merge ..).mpr (.inr (by simpa using hdeclares)), fun hT => ?_⟩
    rcases TypeEnv.get?_merge_eq_some ((TypeEnv.localType_eq_some ..).mp hT) with
      ⟨hd', -⟩ | ⟨-, -, hagree⟩
    · simp [hd] at hd'
    · simp only [List.mem_cons, List.not_mem_nil, or_false, forall_eq_or_imp, forall_eq,
        ← TypeEnv.localType_eq_some] at hagree
      rcases hdiffer with hne | hne
      · exact hne hagree.1
      · exact hne hagree.2
  | @loop s rest inLoop env t q code bodyEnv t' hd henters hbody hdeclares =>
    obtain ⟨hsame, hforgotten⟩ := henters.entry (x := x)
    refine ⟨(TypeEnv.isDeclared_merge ..).mpr (.inr ⟨bodyEnv, by simp, hdeclares⟩), fun hT => ?_⟩
    have hbound : x ∈ Source.boundNames q.stmts := by
      have hflow := flow_of_block r q.stmts ((Leads.loopBody henters).inside hm).1 hbody
      exact ((hflow.of_isDeclared hdeclares).resolve_left (by simp [hsame, hd])).1
    rcases TypeEnv.get?_merge_eq_some ((TypeEnv.localType_eq_some ..).mp hT) with
      ⟨hd', -⟩ | ⟨-, -, hagree⟩
    · simp [hsame, hd] at hd'
    · simpa [hforgotten hd hbound] using hagree q.env (by simp)

end Joins

/-! ## Where names go astray -/

theorem narrowedTo_append {ns ns' : List (String × Option HostType)} {x : String} :
    narrowedTo (ns' ++ ns) x = none ↔ narrowedTo ns' x = none ∧ narrowedTo ns x = none := by
  simp [narrowedTo]

theorem annotated_eq_some_some {r : Registry} {annot : Source.Expr} {T : HostType} :
    annotated r annot = some (some T) ↔ Writes r annot T := by
  unfold annotated Writes
  cases annot.designator with
  | error e => simp [Except.toOption]
  | ok d => cases d <;> simp [Except.toOption]

section Steps

variable {r : Registry} {x : String} {T : HostType} {p q : Point}
  {label : Option (String × Option HostType)}

theorem yields_annAssign {env env' : TypeEnv} {span sp : Source.Span} {id : String}
    {use : Source.NameUse} {annot : Source.Expr} {value : Option Source.Expr} {t t' : Trace}
    {code : List Ir.Stmt}
    (h : Yields (annAssign r env span (.name sp id use) annot value) t (code, env') t') :
    ∃ type, annotated r annot = some type ∧
      env' = if type.isNone then env.bind id none else env.declare id type := by
  simp only [annAssign, yields_bind, yields_annotType_iff, yields_check, yields_pure] at h
  obtain ⟨_, _, -, type, _, ⟨htype, -⟩, -, _, _, -, heq, -⟩ := h
  exact ⟨type, htype, (congrArg Prod.snd heq).symm⟩

/-- A statement after which a name is newly declared, and without the type, joins paths. -/
theorem unsettles_of_stmt {s : Source.Stmt} {rest : List Source.Stmt} {inLoop : Bool}
    {env env' : TypeEnv} {t t' : Trace} {code : List Ir.Stmt}
    (h : Yields (stmt r s inLoop env) t (code, env') t') (hm : s.isMarked = true)
    (hwrites : ∀ annot, (x, annot) ∈ s.annotations → Writes r annot T)
    (hd : env.isDeclared x = false) (hstrays : env'.Strays x T) :
    Unsettles r x T ⟨s :: rest, inLoop, env, t⟩ ⟨rest, inLoop, env', t'⟩ := by
  -- Only annotations declare names.
  obtain ⟨U, annot, hmem, -⟩ :=
    (((flow_of_stmt r s hm h).of_isDeclared hstrays.1).resolve_left (by simp [hd])).2
  cases s with
  | annAssign span target annot value =>
    cases target with
    | name sp id use =>
      obtain ⟨rfl, rfl⟩ : x = id ∧ _ = annot := by simpa [Source.Stmt.annotations] using hmem
      rw [stmt] at h
      obtain ⟨type, htype, rfl⟩ := yields_annAssign h
      obtain rfl : some T = type :=
        Option.some.inj ((annotated_eq_some_some.mpr (hwrites annot hmem)).symm.trans htype)
      exact absurd (by simp) hstrays.2
    | _ => simp [Source.Stmt.annotations] at hmem
  | ifElse span test body orelse =>
    obtain ⟨c, t₁, code, bodyEnv, t₂, code', orelseEnv, htest, hbody, horelse, rfl⟩ :=
      yields_ifElse.mp ⟨code, h⟩
    refine .branches hd htest hbody horelse ?_ ?_
    · simpa [TypeEnv.isDeclared_merge, hd] using hstrays.1
    · by_contra hagree
      obtain ⟨hbodyT, horelseT⟩ :
          bodyEnv.localType x = some T ∧ orelseEnv.localType x = some T := by
        simpa using hagree
      rw [TypeEnv.localType_eq_some] at hbodyT horelseT
      refine hstrays.2 ((TypeEnv.localType_eq_some ..).mpr ?_)
      rw [TypeEnv.get?_merge, if_pos ⟨bodyEnv, by simp, by simp [hbodyT]⟩, TypeEnv.joined,
        if_neg (by simp [hd])]
      exact congrArg some (TypeEnv.agreed_of_forall x (by simp) (by simpa using ⟨hbodyT, horelseT⟩))
  | whileDo span test body orelse =>
    obtain ⟨c, t₁, stmts, bodyEnv, rfl, htest, hbody, rfl⟩ := yields_whileDo h
    refine .loop hd (.whileDo htest) hbody ?_
    simpa [TypeEnv.isDeclared_merge, loopEntry, hd] using hstrays.1
  | forIn span target iter body orelse =>
    obtain ⟨sp, id, use, iterable, t₁, stmts, bodyEnv, rfl, rfl, hname, hiter, hbody, rfl⟩ :=
      yields_forIn h
    have henters : EntersLoop r ⟨.forIn span (.name sp id use) iter body [] :: rest, inLoop, env, t⟩
        ⟨body, true, forEntry env id body, t₁⟩ := .forIn hname hiter
    refine .loop hd henters hbody ?_
    have hentry : (forEntry env id body).isDeclared x = false := henters.entry.1.trans hd
    simpa [TypeEnv.isDeclared_merge, hentry] using hstrays.1
  | matchOn span subject cases =>
    -- What arms declare is forgotten after them.
    rw [stmt] at h
    obtain ⟨_, _, _, _, bind, _, _, _, -, -, -, -, -, -, rfl⟩ := yields_dispatch h
    have hsame : (afterMatch env cases bind).isDeclared x = env.isDeclared x := by
      unfold afterMatch
      dsimp only
      split_ifs <;> rfl
    simp [TypeEnv.Strays, hsame, hd] at hstrays
  | _ => simp [Source.Stmt.annotations] at hmem

/-- A name that is declared without the type has been narrowed by an arm, or paths have joined. -/
theorem Leads.unsettles (h : Leads r p label q) (hm : Source.areMarked p.stmts = true)
    (hnarrow : narrowedTo (narrowing p.env label) x = none)
    (hwrites : ∀ annot, (x, annot) ∈ Source.annotationsOf p.stmts → Writes r annot T)
    (hp : ¬ p.env.Strays x T) (hq : q.env.Strays x T) : label = none ∧ Unsettles r x T p q := by
  -- The name is not declared before the step: otherwise it would keep its type.
  have hd : p.env.isDeclared x = false := by
    by_contra hd
    have hd : p.env.isDeclared x = true := by simpa using hd
    have hT : p.env.localType x = some T := by
      by_contra hT
      exact hp ⟨hd, hT⟩
    cases label with
    | none => exact hq.2 (((h.flow hm).declared hd).2.trans hT)
    | some l =>
      obtain ⟨y, S⟩ := l
      have hxy : x ≠ y := by
        rintro rfl
        simp [narrowing, narrowedTo, hd] at hnarrow
      refine hq.2 ?_
      rw [(h.arm_spec hm).1]
      simpa [hxy] using hT
  have hnew (hsame : q.env.isDeclared x = p.env.isDeclared x) : False := by
    simpa [hsame, hd] using hq.1
  cases h with
  | thenBranch => exact (hnew rfl).elim
  | elseBranch => exact (hnew rfl).elim
  | loopBody hloop => exact (hnew hloop.entry.1).elim
  | arm => exact (hnew rfl).elim
  | @next s rest inLoop env t code env' t' hs =>
    simp only [Source.areMarked, Bool.and_eq_true] at hm
    refine ⟨rfl, unsettles_of_stmt hs hm.1 (fun annot hmem => hwrites annot ?_) hd hq⟩
    exact List.mem_append_left _ hmem

end Steps

/-! ## The way to a clash -/

/-- Paths have joined on the way between the points, and have left the name declared without the
type. The lists name what the arms around the points narrow. -/
def Unsettled (r : Registry) (x : String) (T : HostType) (p : Point)
    (ns : List (String × Option HostType)) (q : Point) : Prop :=
  ∃ ns₁ q₁ q₂ ns₂, Visits r p ns₁ q₁ ∧ Unsettles r x T q₁ q₂ ∧ Visits r q₂ ns₂ q ∧ ns = ns₂ ++ ns₁

section Ways

variable {r : Registry} {x : String} {T : HostType} {p q : Point}
  {ns : List (String × Option HostType)}

theorem Visits.annotations_subset (h : Visits r p ns q) (hm : Source.areMarked p.stmts = true) :
    Source.annotationsOf q.stmts ⊆ Source.annotationsOf p.stmts := by
  induction h with
  | start => exact List.Subset.refl _
  | step hvisits hleads ih =>
    exact List.Subset.trans (hleads.inside (hvisits.inside hm).1).2.1 ih

/-- A name that is declared without the type stays so unless an arm narrows it. -/
theorem Visits.strays (h : Visits r p ns q) (hm : Source.areMarked p.stmts = true)
    (hnarrow : narrowedTo ns x = none) (hp : p.env.Strays x T) : q.env.Strays x T := by
  obtain ⟨hd, htype⟩ := h.declared hm hp.1
  rw [hnarrow, Option.getD_none] at htype
  exact ⟨hd, htype ▸ hp.2⟩

/-- A name that no arm narrows is declared without the type from the start or since a join. -/
theorem Visits.unsettles (h : Visits r p ns q) (hm : Source.areMarked p.stmts = true)
    (hwrites : ∀ annot, (x, annot) ∈ Source.annotationsOf p.stmts → Writes r annot T)
    (hnarrow : narrowedTo ns x = none) (hq : q.env.Strays x T) :
    p.env.Strays x T ∨ Unsettled r x T p ns q := by
  induction h with
  | start => exact .inl hq
  | @step ns q label q' hvisits hleads ih =>
    obtain ⟨hstep, hns⟩ := narrowedTo_append.mp hnarrow
    by_cases hbefore : q.env.Strays x T
    · rcases ih hns hbefore with hp | ⟨ns₁, q₁, q₂, ns₂, hto, hjoin, hfrom, rfl⟩
      · exact .inl hp
      · exact .inr ⟨ns₁, q₁, q₂, _, hto, hjoin, hfrom.step hleads, (List.append_assoc ..).symm⟩
    · have hsub := hvisits.annotations_subset hm
      obtain ⟨rfl, hjoin⟩ := hleads.unsettles (hvisits.inside hm).1 hstep
        (fun annot hmem => hwrites annot (hsub hmem)) hbefore hq
      exact .inr ⟨ns, q, q', [], hvisits, hjoin, .start, rfl⟩

/-- **A name is declared without the type of its annotations** exactly if the innermost arm that
narrows it gives another type, or no arm narrows it and it was so from the start or is so since a
join. -/
theorem strays_iff {declares : String → HostType → Prop} (hp : Visited r declares [] p)
    (h : Visits r p ns q)
    (hwrites : ∀ annot, (x, annot) ∈ Source.annotationsOf p.stmts → Writes r annot T) :
    q.env.Strays x T ↔ (∃ S, narrowedTo ns x = some S ∧ S ≠ some T) ∨
      narrowedTo ns x = none ∧ (p.env.Strays x T ∨ Unsettled r x T p ns q) := by
  cases hnarrow : narrowedTo ns x with
  | some S =>
    obtain ⟨hd, htype⟩ := (hp.of_visits h).narrowed x S hnarrow
    simp [TypeEnv.Strays, hd, htype]
  | none =>
    simp only [reduceCtorEq, false_and, exists_false, false_or, true_and]
    refine ⟨h.unsettles hp.marked hwrites hnarrow, ?_⟩
    rintro (hstrays | ⟨ns₁, q₁, q₂, ns₂, hto, hjoin, hfrom, rfl⟩)
    · exact h.strays hp.marked hnarrow hstrays
    · have hm := (hto.inside hp.marked).1
      exact hfrom.strays (hjoin.leads.inside hm).1 (narrowedTo_append.mp hnarrow).1
        (hjoin.strays hm)

/-- All annotations of the name in the function write one type: those of parameters and those of
assignments, wherever they stand in the body. -/
structure AnnotatedAs (r : Registry) (fn : FunctionSource) (x : String) (T : HostType) : Prop where
  params : ∀ p ∈ fn.params.regular, p.name = x → ∀ annot ∈ p.annot, Writes r annot T
  body : ∀ annot, (x, annot) ∈ Source.annotationsOf fn.body → Writes r annot T

/-! ## Parameters -/

/-- The last parameter of the name. -/
def lastParam (ps : List Source.Param) (x : String) : Option Source.Param :=
  ps.reverse.find? (·.name == x)

theorem lastParam_cons (p : Source.Param) (ps : List Source.Param) (x : String) :
    lastParam (p :: ps) x = (lastParam ps x).or (if p.name = x then some p else none) := by
  by_cases h : p.name = x <;> simp [lastParam, h]

theorem lastParam_eq_none {ps : List Source.Param} {x : String} :
    lastParam ps x = none ↔ ∀ p ∈ ps, p.name ≠ x := by
  simp [lastParam]

/-- The last parameter of the name has no annotation, though the name is declared by then. -/
def Forgets (ps : List Source.Param) (x : String) (declared : Prop) : Prop :=
  (∃ p, lastParam ps x = some p ∧ p.annot = none) ∧
    (declared ∨ ∃ p ∈ ps, p.name = x ∧ p.annot.isSome)

/-- The parameters leave the name declared without the type. Either it names the receiver, whose
component is another type, or a parameter without annotation takes the name of an earlier one. -/
def StrayParam (fn : FunctionSource) (receiver : Option HostType) (x : String) (T : HostType) :
    Prop :=
  match receiver, fn.params.regular with
  | some S, p :: ps => lastParam ps x = none ∧ p.name = x ∧ S ≠ T ∨ Forgets ps x (p.name = x)
  | _, ps => Forgets ps x False

theorem strays_paramList {ps : List Source.Param} {env env' : TypeEnv} {t t' : Trace}
    {params : List Ir.Param} (h : Yields (paramList r ps env) t (params, env') t')
    (hwrites : ∀ p ∈ ps, p.name = x → ∀ annot ∈ p.annot, Writes r annot T) :
    env'.Strays x T ↔ lastParam ps x = none ∧ env.Strays x T ∨
      Forgets ps x (env.isDeclared x = true) := by
  induction ps generalizing env t params with
  | nil =>
    obtain ⟨heq, -⟩ := yields_pure.mp h
    obtain rfl := congrArg Prod.snd heq
    simp [lastParam, Forgets]
  | cons p rest ih =>
    obtain ⟨hp, hrest⟩ := List.forall_mem_cons.mp hwrites
    simp only [paramList, yields_bind, yields_pure] at h
    obtain ⟨_, t₁, -, type, t₂, htype, ⟨params', env₂⟩, t₃, hps, heq, rfl⟩ := h
    obtain rfl := congrArg Prod.snd heq
    generalize hafter :
      (if type.isNone then env.bind p.name none else env.declare p.name type) = after at hps
    rw [ih hps hrest, Forgets, Forgets, lastParam_cons]
    by_cases hname : p.name = x
    · -- The parameter declares the name with the type, or drops what is known of it.
      obtain ⟨hstrays, hdeclared⟩ : (after.Strays x T ↔ env.isDeclared x = true ∧ p.annot = none) ∧
          (after.isDeclared x = true ↔ env.isDeclared x = true ∨ p.annot.isSome) := by
        subst hafter
        cases hannot : p.annot with
        | none =>
          rw [hannot] at htype
          obtain ⟨rfl, -⟩ := yields_pure.mp htype
          simp [TypeEnv.Strays, hname]
        | some annot =>
          rw [hannot, yields_annotType_iff,
            annotated_eq_some_some.mpr (hp hname annot (by simp [hannot]))] at htype
          obtain rfl := Option.some.inj htype.1
          simp [TypeEnv.Strays, hname]
      cases hlast : lastParam rest x with
      | none =>
        have hothers := lastParam_eq_none.mp hlast
        cases hannot : p.annot with
        | none => simp +contextual [hname, hstrays, hannot, hothers]
        | some annot => simp [hname, hstrays, hannot]
      | some q => simp [hname, hdeclared, or_assoc]
    · obtain ⟨hstrays, hdeclared⟩ : (after.Strays x T ↔ env.Strays x T) ∧
          (after.isDeclared x = true ↔ env.isDeclared x = true) := by
        subst hafter
        split_ifs <;> simp [TypeEnv.Strays, Ne.symm hname]
      simp [hname, hstrays, hdeclared]

theorem Starts.strays_iff {fn : FunctionSource} {receiver : Option HostType}
    (hstarts : Starts r fn receiver p) (hannotated : AnnotatedAs r fn x T) :
    p.env.Strays x T ↔ StrayParam fn receiver x T := by
  obtain ⟨env, t, ps, hmodule, h⟩ := hstarts.enters
  have hempty : env.isDeclared x = false := by
    obtain ⟨_, _, _, _, _, -, rfl⟩ := hmodule
    rfl
  obtain ⟨-, h⟩ := yields_check.mp h
  obtain ⟨-, h⟩ := yields_check.mp h
  obtain ⟨-, h⟩ := yields_check.mp h
  cases receiver with
  | none =>
    rw [strays_paramList h hannotated.params]
    simp [StrayParam, TypeEnv.Strays, hempty]
  | some S =>
    cases hregular : fn.params.regular with
    | nil => simp [hregular] at h
    | cons q rest =>
      simp only [hregular] at h
      obtain ⟨-, h⟩ := yields_check.mp h
      simp only [yields_bind, yields_pure] at h
      obtain ⟨⟨ps', env₁⟩, t₁, hps, heq, -⟩ := h
      obtain rfl := congrArg Prod.snd heq
      have hwrites : ∀ p ∈ rest, p.name = x → ∀ annot ∈ p.annot, Writes r annot T :=
        fun p hp => hannotated.params p (by simp [hregular, hp])
      rw [strays_paramList hps hwrites]
      by_cases hname : q.name = x
      · simp [StrayParam, hregular, TypeEnv.Strays, hname]
      · simp [StrayParam, hregular, TypeEnv.Strays, hname, Ne.symm hname, hempty]

/-- An annotation of a name whose annotations agree clashes exactly where the type is lost. -/
theorem clashes_iff {fn : FunctionSource} {receiver : Option HostType}
    (hstarts : Starts r fn receiver p) (hannotated : AnnotatedAs r fn x T) (h : Visits r p ns q) :
    Clashes r x q ↔ Annotating r x (some T) q ∧ ((∃ S, narrowedTo ns x = some S ∧ S ≠ some T) ∨
      narrowedTo ns x = none ∧ (StrayParam fn receiver x T ∨ Unsettled r x T p ns q)) := by
  have hwrites : ∀ annot, (x, annot) ∈ Source.annotationsOf p.stmts → Writes r annot T :=
    hstarts.stmts_eq ▸ hannotated.body
  rw [← hstarts.strays_iff hannotated, ← strays_iff hstarts.visited h hwrites]
  constructor
  · rintro ⟨type, hnext, hd, hne⟩
    obtain ⟨-, span, sp, use, annot, value, rest, hstmts, htype⟩ := id hnext
    have hmem : (x, annot) ∈ Source.annotationsOf q.stmts := by
      simp [hstmts, Source.annotationsOf, Source.Stmt.annotations]
    have hT := annotated_eq_some_some.mpr
      (hwrites annot (h.annotations_subset hstarts.visited.marked hmem))
    obtain rfl : some T = type := Option.some.inj (hT.symm.trans htype)
    exact ⟨hnext, hd, hne⟩
  · rintro ⟨hnext, hd, hne⟩
    exact ⟨some T, hnext, hd, hne⟩

end Ways

/-- **Annotating a name again with the same type is a conflict only where the type has been lost.**
A source is refused for an annotation exactly if a body that its compilation begins comes to one
that clashes. If all annotations of a name in the function write one type, an annotation of it
clashes exactly where an arm narrows the name to another type, or where no arm narrows it and the
parameters, or a join on the way, have left it declared without the type. -/
theorem conflict_iff_type_lost {known : Messages} {policy : DuplicatePolicy}
    {sourcePath moduleName : Option String} {text : String} {stmts : List Source.Stmt}
    (hparse : Source.parse text = some stmts) :
    (∀ x, (∃ place, (compile known policy sourcePath moduleName text).result =
        .error ⟨.conflictingAnnot x, place⟩) ↔
      ∃ fn receiver p,
        Begins known policy (moduleNameFor sourcePath moduleName) stmts fn receiver p ∧
        ∃ ns q, Visits (registryOf stmts) p ns q ∧ Clashes (registryOf stmts) x q) ∧
    ∀ fn receiver p x T,
      Begins known policy (moduleNameFor sourcePath moduleName) stmts fn receiver p →
      AnnotatedAs (registryOf stmts) fn x T → ∀ ns q, Visits (registryOf stmts) p ns q →
        (Clashes (registryOf stmts) x q ↔ Annotating (registryOf stmts) x (some T) q ∧
          ((∃ S, narrowedTo ns x = some S ∧ S ≠ some T) ∨ narrowedTo ns x = none ∧
            (StrayParam fn receiver x T ∨ Unsettled (registryOf stmts) x T p ns q))) := by
  refine ⟨fun x => ?_, fun fn receiver p x T hbegins hannotated ns q hvisits => ?_⟩
  · rw [refused_source_iff hparse]
    simp only [refuses_block_iff]
  · exact clashes_iff (hbegins.starts (Source.areMarked_of_parse hparse)) hannotated hvisits

/-- The statements of a list of characters. -/
def parseChars (cs : List Char) : Option (List Source.Stmt) := do
  let ts ← Source.Lexer.tokensOf cs
  let (stmts, _) ← Source.Grammar.program (4 * cs.length + 16) ⟨ts, .start⟩
  return stmts

/-- A text is accepted if the statements of its characters compile. The characters of a long text
are quicker to find from its lines than from the whole. -/
theorem accepted_of_chars {known : Messages} {policy : DuplicatePolicy} {text : String}
    {cs : List Char} (hcs : text.toList = cs)
    (h : (parseChars cs).any (fun stmts => decide (stmts ≠ [] ∧
      (module known policy none stmts).outcome.result.toOption.isSome)) = true) :
    ∃ m stmts, (compile known policy none none text).result = .ok m ∧
      Source.parse text = some stmts := by
  obtain ⟨stmts, hchars, hne, hsome⟩ := exists_some h
  have hparse : Source.parse text = some stmts := by
    rw [Source.parse, Source.tokens, ← String.length_toList, hcs]
    exact hchars
  have hblank : Text.isBlankText text.toList = false :=
    Bool.eq_false_iff.mpr fun hblank => hne (Source.parse_of_isBlank hblank hparse)
  have hsource : source known policy none text = module known policy none stmts := by
    rw [source, hblank, hparse]
    rfl
  rw [← hsource] at hsome
  cases hresult : (source known policy none text).outcome.result with
  | error e => simp [hresult, Except.toOption] at hsome
  | ok m => exact ⟨m, stmts, hresult, hparse⟩

/-- Names that are annotated again in branches, loops and arms, and after branches that agree. -/
def tally : String :=
  "def tally(total: int, limit: object):\n" ++
  "    if total:\n" ++
  "        total: int = 1\n" ++
  "        part: int = 2\n" ++
  "    else:\n" ++
  "        part = 3\n" ++
  "    part: int = 4\n" ++
  "    while part:\n" ++
  "        part: int = 5\n" ++
  "        for i in total:\n" ++
  "            total: int = 6\n" ++
  "    match limit:\n" ++
  "        case int() as n:\n" ++
  "            part: int = n\n" ++
  "            late: int = n\n" ++
  "            late: int = 7\n" ++
  "        case _:\n" ++
  "            pass\n" ++
  "    part: int = 8\n"

theorem tally_comes_to_no_clash :
    ∃ m stmts, (compile .standard .keepLast none none tally).result = .ok m ∧
      Source.parse tally = some stmts ∧
      ∀ x fn receiver p ns q, Begins .standard .keepLast none stmts fn receiver p →
        Visits (registryOf stmts) p ns q → ¬ Clashes (registryOf stmts) x q := by
  obtain ⟨m, stmts, h, hparse⟩ :
      ∃ m stmts, (compile .standard .keepLast none none tally).result = .ok m ∧
        Source.parse tally = some stmts := by
    apply accepted_of_chars
    · unfold tally
      repeat rewrite [String.toList_append]
      rfl
    · decide +kernel
  refine ⟨m, stmts, h, hparse, fun x fn receiver p ns q hbegins hvisits hclash => ?_⟩
  have hconflict := (@conflict_iff_type_lost .standard .keepLast none none tally stmts hparse).1
  obtain ⟨place, hrefused⟩ := (hconflict x).mpr ⟨fn, receiver, p, hbegins, ns, q, hvisits, hclash⟩
  simp [h] at hrefused

/-- A branch declares a name, and the name is annotated with the same type after it. -/
def halfway : String :=
  "def f(c: int):\n" ++
  "    if c:\n" ++
  "        x: int = 1\n" ++
  "    x: int = 2\n"

/-- All annotations of the name write one type, and yet the second is refused. -/
theorem halfway_refused :
    ∃ stmts fn T, Source.parse halfway = some stmts ∧ functionsIn stmts = [fn] ∧
      AnnotatedAs (registryOf stmts) fn "x" T ∧
      ∃ place, (compile .standard .keepLast none none halfway).result =
        .error ⟨.conflictingAnnot "x", place⟩ := by
  obtain ⟨⟨_, place⟩, h, rfl⟩ :
      ∃ e, (compile .standard .keepLast none none halfway).result = .error e ∧
        e.cause = .conflictingAnnot "x" :=
    exists_error (by decide +kernel)
  obtain ⟨stmts, hparse, hone, hint, hall⟩ : ∃ stmts, Source.parse halfway = some stmts ∧
      (functionsIn stmts).length = 1 ∧ ((registryOf stmts).lookup "int").isSome ∧
      ∀ fn ∈ functionsIn stmts, (∀ p ∈ fn.params.regular, p.name ≠ "x") ∧
        ∀ note ∈ Source.annotationsOf fn.body,
          annotated (registryOf stmts) note.2 = some ((registryOf stmts).lookup "int") :=
    exists_some (by decide +kernel)
  obtain ⟨fn, hfn⟩ := List.length_eq_one_iff.mp hone
  obtain ⟨T, hT⟩ := Option.isSome_iff_exists.mp hint
  obtain ⟨hparams, hbody⟩ := hall fn (by simp [hfn])
  refine ⟨stmts, fn, T, hparse, hfn, ⟨fun p hp hname => absurd hname (hparams p hp), ?_⟩, place, h⟩
  intro annot hmem
  exact annotated_eq_some_some.mp (hT ▸ hbody _ hmem)

end Compile

end Componentry
