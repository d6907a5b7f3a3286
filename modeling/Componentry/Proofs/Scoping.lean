import Componentry.Proofs.Flow

/-!
# Scopes of generated names

A dispatch assigns its subject to a generated name and then tests that name. The name is in scope
in what follows the assignment, in the same list of statements and in all blocks inside.

**Scopes** (`BlockScoped`). Every name that is read is allowed from the start, or assigned by an
earlier statement of one of the lists around the read, or bound by a `letIn` around it.

**Jumps** (`BlockJumps`). Every `break` and `continue` stands in a loop.

**Theorem (`ensures_block_ordered`).** In the code of a block generated names are read only in
their scopes, and jumps stay inside the loops of the code or, if there is one, the loop around it.
-/

namespace Componentry

open CompileM

namespace Ir

/-! ## Scopes of statements -/

/-- What a target reads when it is assigned: a plain name is only written. -/
def Expr.TargetReadsOnly : Expr → (String → Prop) → Prop
  | .var _, _ => True
  | e, A => e.ReadsOnly A

/-- The statement gives the name a value, for the statements after it. -/
def Stmt.Assigns (s : Stmt) (x : String) : Prop := ∃ value, s = .assign (.var x) value

mutual

/-- The statement reads only allowed names, and those that are assigned before it. -/
def Stmt.Scoped : Stmt → (String → Prop) → Prop
  | .assign target value, A => target.TargetReadsOnly A ∧ value.ReadsOnly A
  | .augAssign target _ value, A => target.ReadsOnly A ∧ value.ReadsOnly A
  | .exprStmt value, A => value.ReadsOnly A
  | .ifElse condition body orelse, A =>
    condition.ReadsOnly A ∧ BlockScoped body A ∧ BlockScoped orelse A
  | .whileDo condition body, A => condition.ReadsOnly A ∧ BlockScoped body A
  | .forIn _ iterable body, A => iterable.ReadsOnly A ∧ BlockScoped body A
  | .ret value, A => ∀ e ∈ value, e.ReadsOnly A
  | .brk, _ => True
  | .cont, _ => True

/-- The statements read only allowed names, and those that are assigned before. -/
def BlockScoped : List Stmt → (String → Prop) → Prop
  | [], _ => True
  | s :: rest, A => s.Scoped A ∧ BlockScoped rest fun x => A x ∨ s.Assigns x

end

theorem Expr.TargetReadsOnly.of_readsOnly {e : Expr} {A : String → Prop} (h : e.ReadsOnly A) :
    e.TargetReadsOnly A := by
  cases e with
  | var x => trivial
  | _ => exact h

theorem Expr.TargetReadsOnly.mono {e : Expr} {A B : String → Prop} (hAB : ∀ x, A x → B x)
    (h : e.TargetReadsOnly A) : e.TargetReadsOnly B := by
  cases e with
  | var x => trivial
  | _ => exact Expr.readsOnly_mono _ hAB h

mutual

theorem Stmt.scoped_mono : ∀ (s : Stmt) {A B : String → Prop}, (∀ x, A x → B x) →
    s.Scoped A → s.Scoped B
  | .assign _ value, _, _, hAB, h => ⟨h.1.mono hAB, value.readsOnly_mono hAB h.2⟩
  | .augAssign target _ value, _, _, hAB, h =>
    ⟨target.readsOnly_mono hAB h.1, value.readsOnly_mono hAB h.2⟩
  | .exprStmt value, _, _, hAB, h => value.readsOnly_mono hAB h
  | .ifElse condition body orelse, _, _, hAB, h =>
    ⟨condition.readsOnly_mono hAB h.1, blockScoped_mono body hAB h.2.1,
      blockScoped_mono orelse hAB h.2.2⟩
  | .whileDo condition body, _, _, hAB, h =>
    ⟨condition.readsOnly_mono hAB h.1, blockScoped_mono body hAB h.2⟩
  | .forIn _ iterable body, _, _, hAB, h =>
    ⟨iterable.readsOnly_mono hAB h.1, blockScoped_mono body hAB h.2⟩
  | .ret _, _, _, hAB, h => fun e he => e.readsOnly_mono hAB (h e he)
  | .brk, _, _, _, _ => trivial
  | .cont, _, _, _, _ => trivial

theorem blockScoped_mono : ∀ (code : List Stmt) {A B : String → Prop}, (∀ x, A x → B x) →
    BlockScoped code A → BlockScoped code B
  | [], _, _, _, _ => trivial
  | s :: rest, _, _, hAB, h =>
    ⟨s.scoped_mono hAB h.1, blockScoped_mono rest (fun x => Or.imp_left (hAB x)) h.2⟩

end

theorem BlockScoped.append {xs ys : List Stmt} {A : String → Prop} (hx : BlockScoped xs A)
    (hy : BlockScoped ys A) : BlockScoped (xs ++ ys) A := by
  induction xs generalizing A with
  | nil => exact hy
  | cons s rest ih => exact ⟨hx.1, ih hx.2 (blockScoped_mono ys (fun _ => .inl) hy)⟩

/-! ## Jumps -/

mutual

/-- The jumps of the statement stay inside loops; `inLoop` says whether a loop is around it. -/
def Stmt.Jumps : Stmt → Bool → Prop
  | .assign _ _, _ => True
  | .augAssign _ _ _, _ => True
  | .exprStmt _, _ => True
  | .ifElse _ body orelse, inLoop => BlockJumps body inLoop ∧ BlockJumps orelse inLoop
  | .whileDo _ body, _ => BlockJumps body true
  | .forIn _ _ body, _ => BlockJumps body true
  | .ret _, _ => True
  | .brk, inLoop => inLoop = true
  | .cont, inLoop => inLoop = true

/-- The jumps of the statements stay inside loops. -/
def BlockJumps : List Stmt → Bool → Prop
  | [], _ => True
  | s :: rest, inLoop => s.Jumps inLoop ∧ BlockJumps rest inLoop

end

theorem BlockJumps.append {xs ys : List Stmt} {inLoop : Bool} (hx : BlockJumps xs inLoop)
    (hy : BlockJumps ys inLoop) : BlockJumps (xs ++ ys) inLoop := by
  induction xs with
  | nil => exact hy
  | cons s rest ih => exact ⟨hx.1, ih hx.2⟩

end Ir

namespace Compile

/-- Generated names are read in their scopes, and jumps stay inside loops. -/
structure Ordered (inLoop : Bool) (code : List Ir.Stmt) : Prop where
  scopes : Ir.BlockScoped code fun x => isGenerated x = false
  jumps : Ir.BlockJumps code inLoop

namespace Ordered

variable {inLoop : Bool} {xs ys : List Ir.Stmt}

theorem nil : Ordered inLoop [] := ⟨trivial, trivial⟩

theorem singleton {s : Ir.Stmt} (hs : s.Scoped fun x => isGenerated x = false)
    (hj : s.Jumps inLoop) : Ordered inLoop [s] :=
  ⟨⟨hs, trivial⟩, ⟨hj, trivial⟩⟩

theorem append (hx : Ordered inLoop xs) (hy : Ordered inLoop ys) : Ordered inLoop (xs ++ ys) :=
  ⟨hx.scopes.append hy.scopes, hx.jumps.append hy.jumps⟩

end Ordered

/-! ## Matches -/

section Matches

variable {bind : String} {inLoop : Bool}

theorem scoped_stmtChain {A : String → Prop} (hbind : A bind) {default : List Ir.Stmt}
    (hdefault : Ir.BlockScoped default A) {branches : List (HostType × List Ir.Stmt)}
    (hbranches : ∀ b ∈ branches, Ir.BlockScoped b.2 A) :
    Ir.BlockScoped (Dispatch.stmtChain bind default branches) A := by
  induction branches with
  | nil => exact hdefault
  | cons b rest ih =>
    obtain ⟨hb, hrest⟩ := List.forall_mem_cons.mp hbranches
    exact ⟨⟨hbind, hb, ih hrest⟩, trivial⟩

theorem jumps_stmtChain {default : List Ir.Stmt} (hdefault : Ir.BlockJumps default inLoop)
    {branches : List (HostType × List Ir.Stmt)}
    (hbranches : ∀ b ∈ branches, Ir.BlockJumps b.2 inLoop) :
    Ir.BlockJumps (Dispatch.stmtChain bind default branches) inLoop := by
  induction branches with
  | nil => exact hdefault
  | cons b rest ih =>
    obtain ⟨hb, hrest⟩ := List.forall_mem_cons.mp hbranches
    exact ⟨⟨hb, ih hrest⟩, trivial⟩

/-- The name that holds the subject is in scope in all that a dispatch is lowered to. -/
theorem ensures_lowerStmt_ordered {env : TypeEnv} {value : Ir.Expr}
    {default : Option (Branch CompileM (List Ir.Stmt))}
    {plan : Plan (Branch CompileM (List Ir.Stmt))} (hvalue : ReadsSource value)
    (hdefault : ∀ d ∈ default, ∀ e, Ensures (d e) (Ordered inLoop))
    (hclauses : ∀ c ∈ plan.clauses, ∀ e, Ensures (c.branch e) (Ordered inLoop)) :
    Ensures (Dispatch.lowerStmt bind env value default plan) (Ordered inLoop) := by
  -- Until the assignment is put in front, the bound name counts as allowed.
  let A : String → Prop := fun x => isGenerated x = false ∨ x = bind
  have hwiden {code : List Ir.Stmt} (h : Ordered inLoop code) :
      Ir.BlockScoped code A ∧ Ir.BlockJumps code inLoop :=
    ⟨Ir.blockScoped_mono code (fun _ => .inl) h.scopes, h.jumps⟩
  have hbody : Ensures (Dispatch.body bind env [] (Dispatch.stmtChain bind) default plan)
      fun code => Ir.BlockScoped code A ∧ Ir.BlockJumps code inLoop := by
    refine ensures_body ⟨trivial, trivial⟩ (fun d hd e t code t' h => ?_)
      (fun c hc e t code t' h => ?_) fun final bs hfinal hbs => ?_
    · exact (hdefault d hd e t code t' h).imp_right hwiden
    · exact (hclauses c hc e t code t' h).imp_right hwiden
    · exact ⟨scoped_stmtChain (.inr rfl) hfinal.1 fun b hb => (hbs b hb).1,
        jumps_stmtChain hfinal.2 fun b hb => (hbs b hb).2⟩
  refine hbody.bind fun code hcode => ensures_pure ?_
  split_ifs with hvar
  · -- The subject is the bound name itself, so it is a name of the source.
    obtain rfl := Ir.Expr.isVar_iff.mp hvar
    refine ⟨Ir.blockScoped_mono code (fun x hx => ?_) hcode.1, hcode.2⟩
    rcases hx with hx | rfl
    · exact hx
    · exact hvalue
  · refine ⟨⟨⟨trivial, hvalue⟩, Ir.blockScoped_mono code (fun x hx => ?_) hcode.1⟩,
      ⟨trivial, hcode.2⟩⟩
    exact hx.imp_right fun hx => ⟨value, by rw [hx]⟩

theorem ensures_dispatch_ordered (r : Registry) (env : TypeEnv) (span : Source.Span)
    (subject : Source.Expr) (cases : List Source.Case)
    {branches : List (Branch CompileM (List Ir.Stmt))}
    (hbranches : ∀ b ∈ branches, ∀ e, Ensures (b e) (Ordered inLoop)) :
    Ensures (dispatch r env span subject cases branches) fun result => Ordered inLoop result.1 := by
  intro t ⟨code, env'⟩ t' h
  obtain ⟨value, t₁, heads, t₂, bind, t₃, plan, t₄, hvalue, hheads, hbind, hplan, hsame, hcode,
    rfl⟩ := yields_dispatch h
  obtain ⟨hle₁, hsource⟩ := ensures_expr r env subject t value t₁ hvalue
  have hle₂ := (ensures_caseHeads cases {} t₁ heads t₂ hheads).1
  have hle₃ : t₂.generated ≤ t₃.generated := by
    rcases yields_subjectName hbind with ⟨-, rfl⟩ | ⟨-, -, hnext⟩
    · exact le_refl _
    · omega
  obtain ⟨hle₄, hordered⟩ := ensures_lowerStmt_ordered hsource (fun d hd => by
      split_ifs at hd
      · exact hbranches d (List.mem_of_getLast? hd)
      · simp at hd) (fun c hc => by
      obtain ⟨_, -, hmem⟩ := (of_mem_planDispatch hplan).2 c hc
      exact hbranches c.branch (List.of_mem_zip hmem).2) t₄ code t' hcode
  exact ⟨by omega, hordered⟩

end Matches

/-! ## Statements -/

section Statements

variable (r : Registry) (env : TypeEnv) {inLoop : Bool}

theorem ensures_target_readsSource (span : Source.Span) (e : Source.Expr) :
    Ensures (target r env span e) ReadsSource := by
  cases e with
  | name sp id use =>
    refine (ensures_checkName span id).bind fun _ hsource => ?_
    split_ifs
    · exact ensures_pure hsource
    · exact ensures_refuseAt
  | attr sp value member => exact (ensures_expr r env value).bind fun _ h => ensures_pure h
  | subscript sp value index =>
    simp only [target]
    split_ifs
    · exact ensures_refuseAt.bind fun _ h => h
    · exact (ensures_expr r env value).bind fun _ hv => (ensures_expr r env index).bind fun _ hi =>
        ensures_pure ⟨hv, hi⟩
  | _ => exact ensures_refuseAt

theorem ensures_assign_ordered (span : Source.Span) (targets : List Source.Expr)
    (value : Source.Expr) :
    Ensures (assign r env span targets value) fun result => Ordered inLoop result.1 := by
  unfold assign
  split
  · refine (ensures_expr r env value).bind fun e he => ?_
    refine (ensures_checkName span _).bind fun _ _ => ensures_pure ?_
    exact .singleton ⟨trivial, he⟩ trivial
  · refine (ensures_expr r env value).bind fun e he => ?_
    refine (ensures_target_readsSource r env span _).bind fun code hcode => ensures_pure ?_
    exact .singleton ⟨.of_readsOnly hcode, he⟩ trivial
  · exact ensures_refuseAt

theorem ensures_annotType (span : Source.Span) (annot : Option Source.Expr) :
    Ensures (annotType r span annot) fun _ => True := by
  intro t T t' h
  obtain ⟨rfl, -⟩ := yields_annotType h
  exact ⟨le_refl _, trivial⟩

theorem ensures_annAssign_ordered (span : Source.Span) (t annot : Source.Expr)
    (value : Option Source.Expr) :
    Ensures (annAssign r env span t annot value) fun result => Ordered inLoop result.1 := by
  unfold annAssign
  split
  · refine (ensures_checkName span _).bind fun _ _ => ?_
    refine (ensures_annotType r span _).bind fun type _ => ?_
    refine ensures_ite (ensures_refuseAt.bind fun _ h => h) ?_
    refine (ensures_exprOption r env value).bind fun e he => ensures_pure ?_
    cases e with
    | none => exact .nil
    | some e => exact .singleton ⟨trivial, he e rfl⟩ trivial
  · exact ensures_refuseAt

theorem ensures_augAssign_ordered (span : Source.Span) (t : Source.Expr) (op : Source.BinaryOp)
    (value : Source.Expr) :
    Ensures (augAssign r env span t op value) fun result => Ordered inLoop result.1 := by
  unfold augAssign
  split
  · exact ensures_refuseAt
  · refine (ensures_target_readsSource r env span t).bind fun code hcode => ?_
    refine (ensures_expr r env value).bind fun e he => ensures_pure ?_
    exact .singleton ⟨hcode, he⟩ trivial

end Statements

mutual

theorem ensures_stmt_ordered (r : Registry) : ∀ (s : Source.Stmt) (inLoop : Bool) (env : TypeEnv),
    Ensures (stmt r s inLoop env) fun result => Ordered inLoop result.1
  | .assign span targets value, _, env => ensures_assign_ordered r env span targets value
  | .annAssign span t annot value, _, env => ensures_annAssign_ordered r env span t annot value
  | .augAssign span t op value, _, env => ensures_augAssign_ordered r env span t op value
  | .expr span value, _, env => by
    unfold stmt
    refine ensures_ite (ensures_pure .nil) ?_
    split
    · exact (ensures_expr r env _).bind fun e he => ensures_pure (.singleton he trivial)
    · exact ensures_refuseAt
  | .ifElse _ test body orelse, inLoop, env => by
    unfold stmt
    refine (ensures_expr r env test).bind fun c hc => ?_
    refine (ensures_block_ordered r body inLoop env).bind fun ⟨b, _⟩ hb => ?_
    refine (ensures_block_ordered r orelse inLoop env).bind fun ⟨o, _⟩ ho => ensures_pure ?_
    exact .singleton ⟨hc, hb.scopes, ho.scopes⟩ ⟨hb.jumps, ho.jumps⟩
  | .whileDo span test body orelse, _, env => by
    unfold stmt
    refine ensures_ite (ensures_refuseAt.bind fun _ h => h) ?_
    refine (ensures_expr r _ test).bind fun c hc => ?_
    refine (ensures_block_ordered r body true _).bind fun ⟨b, _⟩ hb => ensures_pure ?_
    exact .singleton ⟨hc, hb.scopes⟩ hb.jumps
  | .forIn span t iter body orelse, _, env => by
    unfold stmt
    refine ensures_ite (ensures_refuseAt.bind fun _ h => h) ?_
    split
    · refine (ensures_checkName span _).bind fun _ _ => ?_
      refine (ensures_expr r env iter).bind fun c hc => ?_
      refine (ensures_block_ordered r body true _).bind fun ⟨b, _⟩ hb => ensures_pure ?_
      exact .singleton ⟨hc, hb.scopes⟩ hb.jumps
    · exact ensures_refuseAt
  | .matchOn span subject cases, inLoop, env =>
    ensures_dispatch_ordered r env span subject cases (ensures_builders_ordered r cases inLoop)
  | .ret _ value, _, env =>
    (ensures_exprOption r env value).bind fun _ he => ensures_pure (.singleton he trivial)
  | .brk span, inLoop, _ => by
    unfold stmt
    split_ifs with hloop
    · exact ensures_pure (.singleton trivial hloop)
    · exact ensures_refuseAt
  | .cont span, inLoop, _ => by
    unfold stmt
    split_ifs with hloop
    · exact ensures_pure (.singleton trivial hloop)
    · exact ensures_refuseAt
  | .pass _, _, _ => ensures_pure .nil
  | .functionDef .., _, _ => ensures_refuseAt
  | .classDef .., _, _ => ensures_refuseAt
  | .form .., _, _ => ensures_refuseAt

/-- **Compiled blocks keep to scopes and loops.** -/
theorem ensures_block_ordered (r : Registry) : ∀ (stmts : List Source.Stmt) (inLoop : Bool)
    (env : TypeEnv), Ensures (block r stmts inLoop env) fun result => Ordered inLoop result.1
  | [], _, _ => ensures_pure .nil
  | s :: rest, inLoop, env => by
    unfold block
    refine (ensures_stmt_ordered r s inLoop env).bind fun ⟨first, env₁⟩ hfirst => ?_
    refine (ensures_block_ordered r rest inLoop env₁).bind fun ⟨code, _⟩ hcode => ensures_pure ?_
    exact hfirst.append hcode

theorem ensures_builders_ordered (r : Registry) : ∀ (cases : List Source.Case) (inLoop : Bool),
    ∀ b ∈ builders r cases inLoop, ∀ env, Ensures (b env) (Ordered inLoop)
  | [], _, _, hb, _ => by simp [builders] at hb
  | .mk _ _ body :: rest, inLoop, b, hb, env => by
    simp only [builders, List.mem_cons] at hb
    rcases hb with rfl | hb
    · exact (ensures_block_ordered r body inLoop env).bind fun _ h => ensures_pure h
    · exact ensures_builders_ordered r rest inLoop b hb env

end

end Compile

end Componentry
