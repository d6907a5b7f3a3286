import Componentry.Proofs.SpelledTrees
import Componentry.Proofs.WellFormed

/-!
# Names of compiled code

Compiling takes names and operators over from the source. What it adds are generated names, the code
names of types, and a few names of the runtime library.

**Theorem (`spelled_of_compile`).** All names in the code of an accepted source are words, and its
operators are those of the source language.
-/

namespace Componentry

open CompileM

open Text (IsWord)

/-! ## Spelled code -/

namespace Emit

/-- The operators between two operands. -/
inductive Operator where
  | arithmetic (op : Source.BinaryOp)
  | connective (op : Source.BoolOp)
  | comparison (op : Source.CompareOp)

def Operator.sign? : Operator → Option String
  | arithmetic op => op.sign?
  | connective op => some op.sign
  | comparison op => some op.sign

end Emit

namespace Ir

mutual

/-- The names in an expression are words, its operators are those of the source language, and each
key of a dictionary has a value. -/
def Expr.Spelled : Expr → Prop
  | .const _ => True
  | .var name => IsWord name
  | .typeRef _ codeName => IsWord codeName
  | .attr obj field => IsWord field ∧ obj.Spelled
  | .call func args => func.Spelled ∧ AllSpelled args
  | .unary op value => (∃ o : Source.UnaryOp, o.sign? = some op) ∧ value.Spelled
  | .binary op left right =>
    (∃ o : Emit.Operator, o.sign? = some op) ∧ left.Spelled ∧ right.Spelled
  | .ifExpr condition yes no => condition.Spelled ∧ yes.Spelled ∧ no.Spelled
  | .isInstance value _ codeName => IsWord codeName ∧ value.Spelled
  | .annotated value _ => value.Spelled
  | .letIn bindings body => BindingsSpelled bindings ∧ body.Spelled
  | .list items => AllSpelled items
  | .tuple items => AllSpelled items
  | .dict keys values => keys.length = values.length ∧ AllSpelled keys ∧ AllSpelled values
  | .subscript value index => value.Spelled ∧ index.Spelled

def AllSpelled : List Expr → Prop
  | [] => True
  | e :: rest => e.Spelled ∧ AllSpelled rest

def BindingsSpelled : List (String × Expr) → Prop
  | [] => True
  | (name, e) :: rest => (IsWord name ∧ e.Spelled) ∧ BindingsSpelled rest

end

theorem allSpelled_iff {es : List Expr} : AllSpelled es ↔ ∀ e ∈ es, e.Spelled := by
  induction es with
  | nil => simp [AllSpelled]
  | cons e rest ih => simp [AllSpelled, ih]

theorem bindingsSpelled_iff {bs : List (String × Expr)} :
    BindingsSpelled bs ↔ ∀ b ∈ bs, IsWord b.1 ∧ b.2.Spelled := by
  induction bs with
  | nil => simp [BindingsSpelled]
  | cons b rest ih => simp [BindingsSpelled, ih]

mutual

/-- The expressions of a statement are spelled, and so is the name that a loop runs over. -/
def Stmt.Spelled : Stmt → Prop
  | .assign target value => target.Spelled ∧ value.Spelled
  | .augAssign target op value =>
    (∃ o : Source.BinaryOp, o.sign? = some op) ∧ target.Spelled ∧ value.Spelled
  | .exprStmt value => value.Spelled
  | .ifElse condition body orelse => condition.Spelled ∧ BlockSpelled body ∧ BlockSpelled orelse
  | .whileDo condition body => condition.Spelled ∧ BlockSpelled body
  | .forIn var iterable body => IsWord var ∧ iterable.Spelled ∧ BlockSpelled body
  | .ret value => ∀ e ∈ value, e.Spelled
  | .brk => True
  | .cont => True

def BlockSpelled : List Stmt → Prop
  | [] => True
  | s :: rest => s.Spelled ∧ BlockSpelled rest

end

theorem blockSpelled_iff {code : List Stmt} : BlockSpelled code ↔ ∀ s ∈ code, s.Spelled := by
  induction code with
  | nil => simp [BlockSpelled]
  | cons s rest ih => simp [BlockSpelled, ih]

structure BodySpelled (name : String) (params : List Param) (body : List Stmt) : Prop where
  name : IsWord name
  params : ∀ p ∈ params, IsWord p.name
  body : BlockSpelled body

/-- A name that does not start like those of the class itself. -/
def IsPlain (name : String) : Prop := ['_', '_'].isPrefixOf name.toList = false

/-- A component is spelled, and its members have names of their own. -/
structure Component.Spelled (c : Component) : Prop extends c.Settled where
  name : IsWord c.name
  words : ∀ f ∈ c.fields, IsWord f.name ∧ ∀ e ∈ f.default, e.Spelled
  bodies : ∀ m ∈ c.methods, IsPlain m.name ∧ BodySpelled m.name m.params m.body

structure Module.Spelled (m : Module) : Prop where
  globals : ∀ g ∈ m.globals, IsWord g.name ∧ ∀ e ∈ g.value, e.Spelled
  functions : ∀ f ∈ m.functions, BodySpelled f.name f.params f.body
  components : ∀ c ∈ m.components, c.Spelled

end Ir

/-- A form of a method is spelled, and its name is plain. -/
def MethodForm.Spelled (form : MethodForm) : Prop :=
  Ir.IsPlain form.name ∧ Ir.BodySpelled form.name form.params form.body

/-! ## Words -/

namespace Text

theorem isWord_of_isAlphanum {s : String} (hfirst : s.toList.head? = some '_')
    (h : ∀ c ∈ s.toList, c.isAlphanum = true ∨ c = '_') : IsWord s := by
  have hascii : ∀ c ∈ s.toList, c.toNat < 128 := by
    intro c hc
    rcases h c hc with hletter | rfl
    · rw [isAlphanum_iff] at hletter
      omega
    · decide
  have hpart : ∀ c ∈ s.toList, isIdentifierPart c = true := by
    intro c hc
    rw [isIdentifierPart, if_pos (hascii c hc)]
    rcases h c hc with hletter | rfl
    · rw [hletter, Bool.true_or]
    · rfl
  unfold IsWord isIdentifier
  cases hs : s.toList with
  | nil => simp [hs] at hfirst
  | cons c cs =>
    obtain rfl : c = '_' := by simpa [hs] using hfirst
    rw [hs] at hpart
    have hrest : cs.all isIdentifierPart = true :=
      List.all_eq_true.mpr fun d hd => hpart d (List.mem_cons_of_mem _ hd)
    simp only [hrest, Bool.and_true]
    decide

theorem isWord_generatedName {stem : String}
    (h : ∀ c ∈ stem.toList, c.isAlphanum = true) (n : Nat) : IsWord (generatedName stem n) := by
  have hlist : (generatedName stem n).toList =
      ['_', 'h', 'c', '_'] ++ (stem.toList ++ (toString n).toList) := by
    simp [generatedName, generatedStart]
  refine isWord_of_isAlphanum (by rw [hlist]; rfl) fun c hc => ?_
  rw [hlist] at hc
  rcases List.mem_append.mp hc with hc | hc
  · have hall : ∀ c ∈ ['_', 'h', 'c', '_'], c.isAlphanum = true ∨ c = '_' := by decide
    exact hall c hc
  · rcases List.mem_append.mp hc with hc | hc
    · exact .inl (h c hc)
    · rw [Nat.toString_eq_ofList_toDigits, String.toList_ofList] at hc
      have hdigit : c.isDigit = true := Nat.isDigit_of_mem_toDigits (by decide) (by decide) hc
      exact .inl (by rw [Char.isAlphanum, hdigit, Bool.or_true])

theorem isWord_of_mem_stems {stem : String} (h : stem ∈ stems) (n : Nat) :
    IsWord (generatedName stem n) := by
  have hall : ∀ stem ∈ stems, ∀ c ∈ stem.toList, c.isAlphanum = true := by decide
  exact isWord_generatedName (hall stem h) n

end Text

/-- The code names of all types are words. -/
def Registry.Spelled (r : Registry) : Prop := ∀ T ∈ r.types, IsWord T.emitName

theorem Registry.spelled_builtin : Host.builtin.Spelled := by
  unfold Registry.Spelled
  decide +kernel

theorem Registry.Spelled.registerComponent {r r' : Registry} {T : HostType} {name base : String}
    {methods : List String} {fields : List (String × String)} (hr : r.Spelled) (hname : IsWord name)
    (h : r.registerComponent name base methods fields = .ok (T, r')) : r'.Spelled := by
  obtain ⟨hregister, -, u, -, rfl⟩ := Registry.registerComponent_eq_ok h
  obtain ⟨rfl, -, -⟩ := Registry.register_eq_ok hregister
  refine List.forall_mem_cons.mpr ⟨?_, hr⟩
  unfold HostType.emitName
  split
  · exact hname
  · exact hname

/-! ## Code of dispatches -/

section Dispatch

variable {bind : String} {env : TypeEnv} {value : Ir.Expr}

theorem spelled_test {T : HostType} (hbind : IsWord bind) (hT : IsWord T.emitName) :
    (Dispatch.test bind T).Spelled :=
  ⟨hT, hbind⟩

theorem spelled_exprChain (hbind : IsWord bind) {default : Ir.Expr} (hdefault : default.Spelled)
    {branches : List (HostType × Ir.Expr)}
    (hbranches : ∀ b ∈ branches, IsWord b.1.emitName ∧ b.2.Spelled) :
    (Dispatch.exprChain bind default branches).Spelled := by
  induction branches with
  | nil => exact hdefault
  | cons b rest ih =>
    obtain ⟨hb, hrest⟩ := List.forall_mem_cons.mp hbranches
    exact ⟨spelled_test hbind hb.1, hb.2, ih hrest⟩

theorem spelled_stmtChain (hbind : IsWord bind) {default : List Ir.Stmt}
    (hdefault : Ir.BlockSpelled default) {branches : List (HostType × List Ir.Stmt)}
    (hbranches : ∀ b ∈ branches, IsWord b.1.emitName ∧ Ir.BlockSpelled b.2) :
    Ir.BlockSpelled (Dispatch.stmtChain bind default branches) := by
  induction branches with
  | nil => exact hdefault
  | cons b rest ih =>
    obtain ⟨hb, hrest⟩ := List.forall_mem_cons.mp hbranches
    exact ⟨⟨spelled_test hbind hb.1, hb.2, ih hrest⟩, trivial⟩

theorem ensures_lowerExpr_spelled (hbind : IsWord bind) (hvalue : value.Spelled)
    {plan : Plan (Branch CompileM Ir.Expr)}
    (hclauses : ∀ c ∈ plan.clauses, IsWord c.type.emitName ∧
      ∀ e, Ensures (c.branch e) Ir.Expr.Spelled) :
    Ensures (Dispatch.lowerExpr bind env value none plan) Ir.Expr.Spelled := by
  have hnone : (Ir.Expr.const .none).Spelled := trivial
  refine (ensures_body_typed (Q := fun T => IsWord T.emitName) hnone (by simp) hclauses
    fun final bs hfinal hbs => spelled_exprChain hbind hfinal hbs).bind fun e he => ensures_pure ?_
  split_ifs
  · exact he
  · exact ⟨⟨⟨hbind, hvalue⟩, trivial⟩, he⟩

theorem ensures_lowerStmt_spelled (hbind : IsWord bind) (hvalue : value.Spelled)
    {default : Option (Branch CompileM (List Ir.Stmt))}
    {plan : Plan (Branch CompileM (List Ir.Stmt))}
    (hdefault : ∀ d ∈ default, ∀ e, Ensures (d e) Ir.BlockSpelled)
    (hclauses : ∀ c ∈ plan.clauses, IsWord c.type.emitName ∧
      ∀ e, Ensures (c.branch e) Ir.BlockSpelled) :
    Ensures (Dispatch.lowerStmt bind env value default plan) Ir.BlockSpelled := by
  refine (ensures_body_typed (Q := fun T => IsWord T.emitName) trivial hdefault hclauses
    fun final bs hfinal hbs => spelled_stmtChain hbind hfinal hbs).bind fun code hcode =>
      ensures_pure ?_
  split_ifs
  · exact hcode
  · exact ⟨⟨hbind, hvalue⟩, hcode⟩

end Dispatch

/-! ## Code of lookups -/

namespace Access

variable {r : Registry} {place : Option Place}

theorem ensures_dispatchOn_spelled (hr : r.Spelled) {stem subject : String} {types : List String}
    {build : String → Branch CompileM Ir.Expr} (hstem : stem ∈ stems) (hsubject : IsWord subject)
    (hbuild : ∀ bind, IsWord bind → ∀ e, Ensures (build bind e) Ir.Expr.Spelled) (env : TypeEnv) :
    Ensures (dispatchOn r place stem types subject env build) Ir.Expr.Spelled := by
  refine (ensures_fresh stem).bind fun bind hbind => ?_
  obtain ⟨n, rfl⟩ := hbind
  have hword := Text.isWord_of_mem_stems hstem n
  refine (ensures_ofRegistry fun plan hplan => hplan).bind fun plan hplan => ?_
  refine (ensures_record _).bind fun _ _ => ?_
  have hvalue : (Ir.Expr.var subject).Spelled := hsubject
  refine ensures_lowerExpr_spelled hword hvalue fun c hc => ?_
  obtain ⟨d, hd, -⟩ := (of_mem_planDispatch hplan).2 c hc
  rw [branch_of_mem_planDispatch hplan c hc]
  exact ⟨hr c.type (Registry.mem_of_lookup hd), hbuild _ hword⟩

theorem ensures_onVariables_spelled (hr : r.Spelled) {obj target : String} (hobj : IsWord obj)
    (htarget : IsWord target) (env : TypeEnv) :
    Ensures (onVariables r place obj target env) Ir.Expr.Spelled := by
  have hmethod : IsWord Host.accessMethod := by decide +kernel
  have hcall {o t : String} (ho : IsWord o) (ht : IsWord t) :
      Ensures (pure (directCall (.var o) (.var t)) : CompileM Ir.Expr) Ir.Expr.Spelled :=
    ensures_pure ⟨⟨hmethod, ho⟩, ht, trivial⟩
  have hobjStem : "obj" ∈ stems := by simp [stems]
  have htargetStem : "target" ∈ stems := by simp [stems]
  unfold onVariables
  split
  · exact hcall hobj htarget
  · exact ensures_dispatchOn_spelled hr htargetStem htarget (fun _ hb _ => hcall hobj hb) env
  · exact ensures_dispatchOn_spelled hr hobjStem hobj (fun _ hb _ => hcall hb htarget) env
  · refine ensures_dispatchOn_spelled hr hobjStem hobj (fun o ho shapeEnv => ?_) env
    exact ensures_dispatchOn_spelled hr htargetStem htarget (fun _ hb _ => hcall ho hb) shapeEnv

theorem ensures_hoist_spelled {stem : String} (hstem : stem ∈ stems) {arg : Ir.Expr}
    (harg : arg.Spelled) (outer inner : TypeEnv) :
    Ensures (hoist r outer stem arg inner) fun result =>
      IsWord result.1 ∧ ∀ b ∈ result.2.1, IsWord b.1 ∧ b.2.Spelled := by
  refine fun t result t' h => (ensures_hoist outer stem arg inner t result t' h).imp_right ?_
  rintro (⟨rfl, hnil, -⟩ | ⟨-, hone, -, n, hname⟩)
  · rw [hnil]
    exact ⟨harg, by simp⟩
  · have hword : IsWord result.1 := hname ▸ Text.isWord_of_mem_stems hstem n
    rw [hone]
    exact ⟨hword, by simpa using ⟨hword, harg⟩⟩

theorem ensures_specialize_spelled (hr : r.Spelled) (env : TypeEnv) {args : List Ir.Expr}
    (hargs : ∀ e ∈ args, e.Spelled) : Ensures (specialize r place env args) Ir.Expr.Spelled := by
  unfold specialize
  split
  · next obj target =>
    have hobjStem : "obj" ∈ stems := by simp [stems]
    have htargetStem : "target" ∈ stems := by simp [stems]
    refine (ensures_hoist_spelled hobjStem (hargs obj (by simp)) env env).bind ?_
    rintro ⟨o, objBinding, env₁⟩ ho
    refine (ensures_hoist_spelled htargetStem (hargs target (by simp)) env env₁).bind ?_
    rintro ⟨t, targetBinding, env₂⟩ ht
    refine (ensures_onVariables_spelled hr ho.1 ht.1 env₂).bind fun call hcall => ?_
    have hbindings : ∀ b ∈ objBinding ++ targetBinding, IsWord b.1 ∧ b.2.Spelled :=
      List.forall_mem_append.mpr ⟨ho.2, ht.2⟩
    split
    · exact ensures_pure hcall
    · exact ensures_pure ⟨Ir.bindingsSpelled_iff.mpr hbindings, hcall⟩
  · exact ensures_refuse

end Access

/-! ## Compiled expressions -/

namespace Compile

section Expressions

variable {r : Registry} (env : TypeEnv)

theorem spelled_typeRef (hr : r.Spelled) {T : HostType} (h : T ∈ r.types) : (typeRef T).Spelled :=
  hr T h

theorem ensures_name_spelled (hr : r.Spelled) (span : Source.Span) {id : String}
    (hid : IsWord id) : Ensures (name r env span id) Ir.Expr.Spelled := by
  have hvar : (Ir.Expr.var id).Spelled := hid
  unfold name
  refine ensures_ite ensures_refuseAt (ensures_ite (ensures_pure hvar) ?_)
  split
  · next T hT => exact ensures_pure (spelled_typeRef hr (Registry.mem_of_lookup hT))
  · exact ensures_ite (ensures_pure hvar) ensures_refuseAt

theorem spelled_joinLeft (op : Source.BoolOp) {es : List Ir.Expr} (h : ∀ e ∈ es, e.Spelled) :
    (joinLeft op.sign es).Spelled := by
  cases es with
  | nil => exact trivial
  | cons first rest =>
    obtain ⟨hfirst, hrest⟩ := List.forall_mem_cons.mp h
    simp only [joinLeft]
    clear h
    induction rest generalizing first with
    | nil => exact hfirst
    | cons e rest ih =>
      obtain ⟨he, hrest⟩ := List.forall_mem_cons.mp hrest
      exact ih (.binary op.sign first e) ⟨⟨.connective op, rfl⟩, hfirst, he⟩ hrest

theorem ensures_exprs_spelled {es : List Source.Expr}
    (hes : ∀ e ∈ es, Ensures (expr r env e) Ir.Expr.Spelled) :
    Ensures (exprs r env es) fun codes => codes.length = es.length ∧ ∀ e ∈ codes, e.Spelled := by
  induction es with
  | nil => exact ensures_pure (by simp)
  | cons e rest ih =>
    obtain ⟨he, hrest⟩ := List.forall_mem_cons.mp hes
    unfold exprs
    refine he.bind fun code hcode => (ih hrest).bind fun codes hcodes => ensures_pure ?_
    exact ⟨by simp [hcodes.1], List.forall_mem_cons.mpr ⟨hcode, hcodes.2⟩⟩

mutual

/-- **Compiled expressions are spelled** if the source is. -/
theorem ensures_expr_spelled (hr : r.Spelled) :
    ∀ e : Source.Expr, e.Spelled → Ensures (expr r env e) Ir.Expr.Spelled
  | .constant span value, h => by
    cases value with
    | literal v => exact ensures_pure trivial
    | _ => exact ensures_refuseAt
  | .name span id _, h => ensures_name_spelled env hr span h
  | .attr span value member, h => by
    unfold expr
    split
    · next T hT => exact ensures_pure (spelled_typeRef hr (mem_of_hostType? hT))
    · exact (ensures_expr_spelled hr value h.1).bind fun _ hv => ensures_pure ⟨h.2, hv⟩
  | .call span func args keywords, h => by
    have hargs := ensures_each_spelled hr args h.2
    unfold expr
    refine (ensures_checkArguments span args keywords).bind fun _ _ => ?_
    split
    · exact (ensures_exprs_spelled env hargs).bind fun es hes =>
        Access.ensures_specialize_spelled hr env hes.2
    · split
      · next type value =>
        refine (ensures_ofExcept fun _ _ => trivial).bind fun _ _ => ?_
        refine (ensures_ofRegistry fun _ _ => trivial).bind fun _ _ => ?_
        exact (hargs value (by simp)).bind fun _ hv => ensures_pure hv
      · exact ensures_refuseAt
    · refine (ensures_expr_spelled hr func h.1).bind fun _ hf => ?_
      exact (ensures_exprs_spelled env hargs).bind fun _ hes =>
        ensures_pure ⟨hf, Ir.allSpelled_iff.mpr hes.2⟩
  | .list _ items, h => by
    unfold expr
    exact (ensures_exprs_spelled env (ensures_each_spelled hr items h)).bind fun _ hes =>
      ensures_pure (Ir.allSpelled_iff.mpr hes.2)
  | .tuple _ items, h => by
    unfold expr
    exact (ensures_exprs_spelled env (ensures_each_spelled hr items h)).bind fun _ hes =>
      ensures_pure (Ir.allSpelled_iff.mpr hes.2)
  | .dict _ keys values, h => by
    unfold expr
    refine (ensures_exprs_spelled env (ensures_each_spelled hr keys h.2.1)).bind fun ks hks => ?_
    refine (ensures_exprs_spelled env (ensures_each_spelled hr values h.2.2)).bind fun vs hvs => ?_
    have hlength : ks.length = vs.length := by rw [hks.1, hvs.1, h.1]
    exact ensures_pure ⟨hlength, Ir.allSpelled_iff.mpr hks.2, Ir.allSpelled_iff.mpr hvs.2⟩
  | .subscript span value index, h => by
    unfold expr
    refine ensures_ite (ensures_refuseAt.bind fun _ h => h) ?_
    refine (ensures_expr_spelled hr value h.1).bind fun _ hv => ?_
    exact (ensures_expr_spelled hr index h.2).bind fun _ hi =>
      ensures_pure ⟨hv, hi⟩
  | .binary span left op right, h => by
    unfold expr
    split
    · exact ensures_refuseAt
    · next sign hsign =>
      refine (ensures_expr_spelled hr left h.1).bind fun _ hl => ?_
      exact (ensures_expr_spelled hr right h.2).bind fun _ hr =>
        ensures_pure ⟨⟨.arithmetic op, hsign⟩, hl, hr⟩
  | .connective _ op values, h => by
    unfold expr
    exact (ensures_exprs_spelled env (ensures_each_spelled hr values h)).bind fun _ hes =>
      ensures_pure (spelled_joinLeft op hes.2)
  | .unary span op operand, h => by
    unfold expr
    split
    · exact ensures_refuseAt
    · next sign hsign =>
      exact (ensures_expr_spelled hr operand h).bind fun _ hv =>
        ensures_pure ⟨⟨op, hsign⟩, hv⟩
  | .compare span left ops comparators, h => by
    have hcomparators := ensures_each_spelled hr comparators h.2
    unfold expr
    split
    · next op right =>
      refine (ensures_expr_spelled hr left h.1).bind fun _ hl => ?_
      exact (hcomparators right (by simp)).bind fun _ hr =>
        ensures_pure ⟨⟨.comparison op, rfl⟩, hl, hr⟩
    · exact ensures_refuseAt
  | .ifExpr _ test body orelse, h => by
    unfold expr
    refine (ensures_expr_spelled hr test h.1).bind fun _ ht => ?_
    refine (ensures_expr_spelled hr body h.2.1).bind fun _ hb => ?_
    exact (ensures_expr_spelled hr orelse h.2.2).bind fun _ ho =>
      ensures_pure ⟨ht, hb, ho⟩
  | .form span f _, _ => by
    cases f <;> exact ensures_refuseAt

theorem ensures_each_spelled (hr : r.Spelled) : ∀ es : List Source.Expr, Source.AllSpelled es →
    ∀ e ∈ es, Ensures (expr r env e) Ir.Expr.Spelled
  | [], _ => List.forall_mem_nil _
  | e :: rest, h =>
    List.forall_mem_cons.mpr ⟨ensures_expr_spelled hr e h.1, ensures_each_spelled hr rest h.2⟩

end

theorem ensures_exprOption_spelled (hr : r.Spelled) {e : Option Source.Expr}
    (h : ∀ e' ∈ e, e'.Spelled) :
    Ensures (exprOption r env e) fun code => ∀ e ∈ code, e.Spelled := by
  cases e with
  | none => exact ensures_pure (by simp)
  | some e =>
    exact (ensures_expr_spelled env hr e (h e rfl)).bind fun _ he =>
      ensures_pure (by simpa using he)

end Expressions

/-! ## Compiled statements -/

section Statements

variable {r : Registry} (env : TypeEnv)

theorem ensures_target_spelled (hr : r.Spelled) (span : Source.Span) {e : Source.Expr}
    (h : e.Spelled) : Ensures (target r env span e) Ir.Expr.Spelled := by
  cases e with
  | name sp id use =>
    refine (ensures_checkName span id).bind fun _ _ => ?_
    exact ensures_ite (ensures_pure h) ensures_refuseAt
  | attr sp value member =>
    exact (ensures_expr_spelled env hr value h.1).bind fun _ hv => ensures_pure ⟨h.2, hv⟩
  | subscript sp value index =>
    simp only [target]
    refine ensures_ite (ensures_refuseAt.bind fun _ h => h) ?_
    refine (ensures_expr_spelled env hr value h.1).bind fun _ hv => ?_
    exact (ensures_expr_spelled env hr index h.2).bind fun _ hi =>
      ensures_pure ⟨hv, hi⟩
  | _ => exact ensures_refuseAt

theorem ensures_assign_spelled (hr : r.Spelled) (span : Source.Span) {targets : List Source.Expr}
    {value : Source.Expr} (htargets : Source.AllSpelled targets) (hvalue : value.Spelled) :
    Ensures (assign r env span targets value) fun result => Ir.BlockSpelled result.1 := by
  unfold assign
  split
  · refine (ensures_expr_spelled env hr value hvalue).bind fun e he => ?_
    refine (ensures_checkName span _).bind fun _ _ => ensures_pure ?_
    exact ⟨⟨htargets.1, he⟩, trivial⟩
  · refine (ensures_expr_spelled env hr value hvalue).bind fun e he => ?_
    refine (ensures_target_spelled env hr span htargets.1).bind fun code hcode => ensures_pure ?_
    exact ⟨⟨hcode, he⟩, trivial⟩
  · exact ensures_refuseAt

theorem ensures_annAssign_spelled (hr : r.Spelled) (span : Source.Span) {t : Source.Expr}
    (annot : Source.Expr) {value : Option Source.Expr} (ht : t.Spelled)
    (hvalue : ∀ e ∈ value, e.Spelled) :
    Ensures (annAssign r env span t annot value) fun result => Ir.BlockSpelled result.1 := by
  unfold annAssign
  split
  · refine (ensures_checkName span _).bind fun _ _ => ?_
    refine (ensures_annotType r span _).bind fun type _ => ?_
    refine ensures_ite (ensures_refuseAt.bind fun _ h => h) ?_
    refine (ensures_exprOption_spelled env hr hvalue).bind fun e he => ensures_pure ?_
    cases e with
    | none => exact trivial
    | some e => exact ⟨⟨ht, he e rfl⟩, trivial⟩
  · exact ensures_refuseAt

theorem ensures_augAssign_spelled (hr : r.Spelled) (span : Source.Span) {t : Source.Expr}
    (op : Source.BinaryOp) {value : Source.Expr} (ht : t.Spelled) (hvalue : value.Spelled) :
    Ensures (augAssign r env span t op value) fun result => Ir.BlockSpelled result.1 := by
  unfold augAssign
  split
  · exact ensures_refuseAt
  · next sign hsign =>
    refine (ensures_target_spelled env hr span ht).bind fun code hcode => ?_
    refine (ensures_expr_spelled env hr value hvalue).bind fun e he => ensures_pure ?_
    exact ⟨⟨⟨op, hsign⟩, hcode, he⟩, trivial⟩

theorem ensures_caseHeads_spelled {cases : List Source.Case} {heads : Heads}
    (hcases : Source.CasesSpelled cases) (hheads : ∀ x ∈ heads.capture, IsWord x) :
    Ensures (caseHeads heads cases) fun heads' => ∀ x ∈ heads'.capture, IsWord x := by
  induction cases generalizing heads with
  | nil => exact ensures_pure hheads
  | cons c rest ih =>
    obtain ⟨pattern, guard, body⟩ := c
    unfold caseHeads
    refine (ensures_caseHead _ _ _ _).bind fun heads₁ h₁ => ih hcases.2.2 fun x hx => ?_
    rcases h₁ x hx with hx | ⟨⟨sp, inner, rfl⟩, -⟩
    · exact hheads x hx
    · exact hcases.1

theorem ensures_dispatch_spelled (hr : r.Spelled) (span : Source.Span) {subject : Source.Expr}
    {cases : List Source.Case} {branches : List (Branch CompileM (List Ir.Stmt))}
    (hsubject : subject.Spelled) (hcases : Source.CasesSpelled cases)
    (hbranches : ∀ b ∈ branches, ∀ e, Ensures (b e) Ir.BlockSpelled) :
    Ensures (dispatch r env span subject cases branches) fun result =>
      Ir.BlockSpelled result.1 := by
  intro t ⟨code, env'⟩ t' h
  obtain ⟨value, t₁, heads, t₂, bind, t₃, plan, t₄, hvalue, hheads, hbind, hplan, hsame, hcode,
    rfl⟩ := yields_dispatch h
  obtain ⟨hle₁, hspelled⟩ := ensures_expr_spelled env hr subject hsubject t value t₁ hvalue
  obtain ⟨hle₂, hcapture⟩ := ensures_caseHeads_spelled hcases (by simp) t₁ heads t₂ hheads
  have hword : IsWord bind ∧ t₂.generated ≤ t₃.generated := by
    rcases yields_subjectName hbind with ⟨hcap, rfl⟩ | ⟨-, rfl, hnext⟩
    · exact ⟨hcapture bind hcap, le_refl _⟩
    · exact ⟨Text.isWord_of_mem_stems (by simp [stems]) _, by omega⟩
  obtain ⟨hle₄, hblock⟩ := ensures_lowerStmt_spelled hword.1 hspelled (fun d hd => by
      split_ifs at hd
      · exact hbranches d (List.mem_of_getLast? hd)
      · simp at hd) (fun c hc => by
      obtain ⟨d, hd, hmem⟩ := (of_mem_planDispatch hplan).2 c hc
      exact ⟨hr c.type (Registry.mem_of_lookup hd), hbranches c.branch (List.of_mem_zip hmem).2⟩)
    t₄ code t' hcode
  exact ⟨by omega, hblock⟩

end Statements

mutual

theorem ensures_stmt_spelled {r : Registry} (hr : r.Spelled) :
    ∀ (s : Source.Stmt) (inLoop : Bool) (env : TypeEnv), s.Spelled →
      Ensures (stmt r s inLoop env) fun result => Ir.BlockSpelled result.1
  | .assign span _ _, _, env, h => ensures_assign_spelled env hr span h.1 h.2
  | .annAssign span _ annot _, _, env, h => ensures_annAssign_spelled env hr span annot h.1 h.2
  | .augAssign span _ op _, _, env, h => ensures_augAssign_spelled env hr span op h.1 h.2
  | .expr span value, _, env, h => by
    unfold stmt
    refine ensures_ite (ensures_pure trivial) ?_
    split
    · exact (ensures_expr_spelled env hr _ h).bind fun e he => ensures_pure ⟨he, trivial⟩
    · exact ensures_refuseAt
  | .ifElse _ test body orelse, inLoop, env, h => by
    unfold stmt
    refine (ensures_expr_spelled env hr test h.1).bind fun c hc => ?_
    refine (ensures_block_spelled hr body inLoop env h.2.1).bind fun ⟨b, _⟩ hb => ?_
    refine (ensures_block_spelled hr orelse inLoop env h.2.2).bind fun ⟨o, _⟩ ho => ensures_pure ?_
    exact ⟨⟨hc, hb, ho⟩, trivial⟩
  | .whileDo span test body orelse, _, env, h => by
    unfold stmt
    refine ensures_ite (ensures_refuseAt.bind fun _ h => h) ?_
    refine (ensures_expr_spelled _ hr test h.1).bind fun c hc => ?_
    refine (ensures_block_spelled hr body true _ h.2).bind fun ⟨b, _⟩ hb => ensures_pure ?_
    exact ⟨⟨hc, hb⟩, trivial⟩
  | .forIn span t iter body orelse, _, env, h => by
    unfold stmt
    refine ensures_ite (ensures_refuseAt.bind fun _ h => h) ?_
    split
    · refine (ensures_checkName span _).bind fun _ _ => ?_
      refine (ensures_expr_spelled env hr iter h.2.1).bind fun c hc => ?_
      refine (ensures_block_spelled hr body true _ h.2.2).bind fun ⟨b, _⟩ hb => ensures_pure ?_
      exact ⟨⟨h.1, hc, hb⟩, trivial⟩
    · exact ensures_refuseAt
  | .matchOn span _ cases, inLoop, env, h =>
    ensures_dispatch_spelled env hr span h.1 h.2 (ensures_builders_spelled hr cases inLoop h.2)
  | .ret _ _, _, env, h =>
    (ensures_exprOption_spelled env hr h).bind fun _ he => ensures_pure ⟨he, trivial⟩
  | .brk span, inLoop, _, _ => by
    unfold stmt
    exact ensures_ite (ensures_pure ⟨trivial, trivial⟩) ensures_refuseAt
  | .cont span, inLoop, _, _ => by
    unfold stmt
    exact ensures_ite (ensures_pure ⟨trivial, trivial⟩) ensures_refuseAt
  | .pass _, _, _, _ => ensures_pure trivial
  | .functionDef .., _, _, _ => ensures_refuseAt
  | .classDef .., _, _, _ => ensures_refuseAt
  | .form .., _, _, _ => ensures_refuseAt

/-- **Compiled blocks are spelled** if the source is. -/
theorem ensures_block_spelled {r : Registry} (hr : r.Spelled) :
    ∀ (stmts : List Source.Stmt) (inLoop : Bool) (env : TypeEnv), Source.BlockSpelled stmts →
      Ensures (block r stmts inLoop env) fun result => Ir.BlockSpelled result.1
  | [], _, _, _ => ensures_pure trivial
  | s :: rest, inLoop, env, h => by
    unfold block
    refine (ensures_stmt_spelled hr s inLoop env h.1).bind fun ⟨first, env₁⟩ hfirst => ?_
    refine (ensures_block_spelled hr rest inLoop env₁ h.2).bind fun ⟨code, _⟩ hcode =>
      ensures_pure ?_
    rw [Ir.blockSpelled_iff] at hfirst hcode ⊢
    exact List.forall_mem_append.mpr ⟨hfirst, hcode⟩

theorem ensures_builders_spelled {r : Registry} (hr : r.Spelled) :
    ∀ (cases : List Source.Case) (inLoop : Bool), Source.CasesSpelled cases →
      ∀ b ∈ builders r cases inLoop, ∀ env, Ensures (b env) Ir.BlockSpelled
  | [], _, _, _, hb, _ => by simp [builders] at hb
  | .mk _ _ body :: rest, inLoop, h, b, hb, env => by
    simp only [builders, List.mem_cons] at hb
    rcases hb with rfl | hb
    · exact (ensures_block_spelled hr body inLoop env h.2.1).bind fun _ h => ensures_pure h
    · exact ensures_builders_spelled hr rest inLoop h.2.2 b hb env

end

/-! ## Compiled functions and components -/

def FunctionSource.Spelled (fn : FunctionSource) : Prop :=
  IsWord fn.name ∧ fn.params.Spelled ∧ Source.BlockSpelled fn.body

section Components

variable {r : Registry} (env : TypeEnv)

theorem ensures_paramList_names (r : Registry) (ps : List Source.Param) (env : TypeEnv) :
    Ensures (paramList r ps env) fun result =>
      result.1.map Ir.Param.name = ps.map Source.Param.name := by
  induction ps generalizing env with
  | nil => exact ensures_pure rfl
  | cons p rest ih =>
    refine (ensures_checkName p.span p.name).bind fun _ _ => ?_
    refine (ensures_annotType r p.span p.annot).bind fun type _ => ?_
    exact (ih _).bind fun result h => ensures_pure (by simp [h])

theorem ensures_params_names (r : Registry) (fn : FunctionSource) (receiver : Option HostType) :
    Ensures (params r fn receiver env) fun result =>
      result.1.map Ir.Param.name = fn.params.regular.map Source.Param.name := by
  have hnames := ensures_paramList_names r
  unfold params
  refine ensures_ite (ensures_refuseAt.bind fun _ h => h) ?_
  refine ensures_ite (ensures_refuseAt.bind fun _ h => h) ?_
  refine ensures_ite (ensures_refuseAt.bind fun _ h => h) ?_
  cases receiver with
  | none => exact hnames _ env
  | some type =>
    cases hregular : fn.params.regular with
    | nil => exact ensures_refuseAt
    | cons p rest =>
      refine ensures_ite (ensures_refuseAt.bind fun _ h => h) ?_
      exact (hnames rest _).bind fun result h => ensures_pure (by simp [h])

theorem spelled_params {fn : FunctionSource} (h : fn.Spelled) {ps : List Ir.Param}
    (hnames : ps.map Ir.Param.name = fn.params.regular.map Source.Param.name) :
    ∀ p ∈ ps, IsWord p.name := by
  intro p hp
  have hmem : p.name ∈ fn.params.regular.map Source.Param.name :=
    hnames ▸ List.mem_map_of_mem hp
  obtain ⟨q, hq, heq⟩ := List.mem_map.mp hmem
  exact heq ▸ h.2.1 q hq

theorem ensures_function_spelled (hr : r.Spelled) {fn : FunctionSource} (h : fn.Spelled) :
    Ensures (function r env fn) fun f => Ir.BodySpelled f.name f.params f.body := by
  unfold function
  refine ensures_ite (ensures_refuseAt.bind fun _ h => h) ?_
  refine (ensures_params_names env r fn none).bind fun ⟨ps, env₁⟩ hps => ?_
  refine (ensures_block_spelled hr fn.body false env₁ h.2.2).bind fun ⟨code, _⟩ hcode => ?_
  exact ensures_pure ⟨h.1, spelled_params h hps, hcode⟩

theorem ensures_method_spelled (hr : r.Spelled) (type : HostType) {fn : FunctionSource}
    (h : fn.Spelled) :
    Ensures (method r env type fn) MethodForm.Spelled := by
  unfold method
  refine ensures_ite (ensures_refuseAt.bind fun _ h => h) ?_
  by_cases hplain : ['_', '_'].isPrefixOf fn.name.toList = true
  · rw [if_pos hplain]
    exact ensures_refuseAt.bind fun _ h => h
  · rw [if_neg hplain]
    refine (ensures_params_names env r fn (some type)).bind fun ⟨ps, env₁⟩ hps => ?_
    refine (ensures_block_spelled hr fn.body false env₁ h.2.2).bind fun ⟨code, _⟩ hcode => ?_
    exact ensures_pure ⟨Bool.eq_false_iff.mpr hplain, h.1, spelled_params h hps, hcode⟩

theorem ensures_groupBody_spelled (hr : r.Spelled) (type : HostType) {body : List Source.Stmt}
    (h : Source.BlockSpelled body) :
    Ensures (groupBody r env type body) fun forms =>
      ∀ form ∈ forms, form.Spelled := by
  induction body with
  | nil => exact ensures_pure (by simp)
  | cons s rest ih =>
    cases s with
    | functionDef span name params body decorators returns =>
      have hfn : FunctionSource.Spelled ⟨span, name, params, body, decorators, returns⟩ := h.1
      refine (ensures_method_spelled env hr type hfn).bind fun form hform => ?_
      exact (ih h.2).bind fun forms hforms =>
        ensures_pure (List.forall_mem_cons.mpr ⟨hform, hforms⟩)
    | pass span => exact ih h.2
    | _ =>
      unfold groupBody
      exact ensures_ite (ih h.2) ensures_refuseAt

theorem ensures_group_spelled (hr : r.Spelled) (type : HostType) (span : Source.Span)
    (name : String) (bases keywords : List Source.Expr) {body : List Source.Stmt}
    (decorators : List Source.Expr) (h : Source.BlockSpelled body) :
    Ensures (group r env type span name bases keywords body decorators) fun d =>
      ∀ form ∈ d.forms, form.Spelled := by
  have hmethods (interface : String) : Ensures (do
      let methods ← groupBody r env type body
      if methods.isEmpty then refuseAt span (.emptyGroup interface)
      return Declaration.group interface methods) fun d =>
      ∀ form ∈ d.forms, form.Spelled :=
    (ensures_groupBody_spelled env hr type h).bind fun forms hforms =>
      ensures_ite (ensures_refuseAt.bind fun _ h => h) (ensures_pure hforms)
  unfold group
  refine ensures_ite (ensures_refuseAt.bind fun _ h => h) ?_
  dsimp only
  split
  · exact hmethods name
  · exact (ensures_ofExcept fun _ _ => trivial).bind fun interface _ => hmethods interface
  · exact ensures_refuseAt.bind fun interface (_ : True) => hmethods interface

theorem ensures_field_spelled (hr : r.Spelled) (span : Source.Span) {t : Source.Expr}
    (annot : Source.Expr) {value : Option Source.Expr} (ht : t.Spelled)
    (hvalue : ∀ e ∈ value, e.Spelled) :
    Ensures (field r env span t annot value) fun f =>
      IsWord f.name ∧ ∀ e ∈ f.default, e.Spelled := by
  unfold field
  split
  · refine (ensures_annotType r span _).bind fun type _ => ?_
    exact (ensures_exprOption_spelled env hr hvalue).bind fun e he => ensures_pure ⟨ht, he⟩
  · exact ensures_refuseAt

theorem ensures_componentBody_spelled (hr : r.Spelled) (type : HostType) {body : List Source.Stmt}
    (h : Source.BlockSpelled body) :
    Ensures (componentBody r env type body) fun result =>
      (∀ f ∈ result.1, IsWord f.name ∧ ∀ e ∈ f.default, e.Spelled) ∧
        ∀ form ∈ result.2.flatMap Declaration.forms, form.Spelled := by
  induction body with
  | nil => exact ensures_pure (by simp)
  | cons s rest ih =>
    cases s with
    | annAssign span target annot value =>
      refine (ensures_field_spelled env hr span annot h.1.1 h.1.2).bind fun f hf => ?_
      refine (ih h.2).bind fun ⟨fields, declarations⟩ hrest => ensures_pure ?_
      exact ⟨List.forall_mem_cons.mpr ⟨hf, hrest.1⟩, hrest.2⟩
    | functionDef span name params body decorators returns =>
      have hfn : FunctionSource.Spelled ⟨span, name, params, body, decorators, returns⟩ := h.1
      refine (ensures_method_spelled env hr type hfn).bind fun form hform => ?_
      refine (ih h.2).bind fun ⟨fields, declarations⟩ hrest => ensures_pure ?_
      exact ⟨hrest.1, List.forall_mem_cons.mpr ⟨hform, hrest.2⟩⟩
    | classDef span name bases keywords body decorators =>
      refine (ensures_group_spelled env hr type span name bases keywords decorators h.1.2).bind
        fun d hd => (ih h.2).bind fun ⟨fields, declarations⟩ hrest => ensures_pure ?_
      exact ⟨hrest.1, List.forall_mem_append.mpr ⟨hd, hrest.2⟩⟩
    | pass span => exact ih h.2
    | _ =>
      unfold componentBody
      exact ensures_ite (ih h.2) ensures_refuseAt

theorem spelled_runtimeCall {function : String} (hfunction : IsWord function) {args : List Ir.Expr}
    (hargs : ∀ e ∈ args, e.Spelled) : (Definition.runtimeCall function args).Spelled := by
  have halias : IsWord Definition.runtimeAlias := by decide +kernel
  exact ⟨⟨hfunction, halias⟩, Ir.allSpelled_iff.mpr hargs⟩

theorem spelled_default {d : Definition.Default} (h : d ∈ Definition.defaults) :
    Ir.IsPlain d.name ∧ IsWord d.name ∧ Ir.BlockSpelled d.body := by
  have hself : IsWord "self" := by decide +kernel
  have hcall {function : String} (hfunction : IsWord function) :
      Ir.BlockSpelled [Definition.runtimeCall function [.var "self"]] :=
    ⟨spelled_runtimeCall hfunction (List.forall_mem_singleton.mpr hself), trivial⟩
  simp only [Definition.defaults, List.mem_cons, List.not_mem_nil, or_false] at h
  rcases h with rfl | rfl | rfl | rfl
  · exact ⟨rfl, by decide +kernel, trivial⟩
  · exact ⟨rfl, by decide +kernel, trivial⟩
  · exact ⟨rfl, by decide +kernel, hcall (by decide +kernel)⟩
  · exact ⟨rfl, by decide +kernel, hcall (by decide +kernel)⟩

/-- A method of a component is spelled if the forms that declare methods are. -/
theorem spelled_delivered {forms : List MethodForm} {moduleName : Option String}
    {entry m : Ir.Method} (hforms : ∀ form ∈ forms, form.Spelled)
    (hentry : IsEntry r forms entry) (hm : Definition.Delivers moduleName entry m) :
    Ir.IsPlain m.name ∧ Ir.BodySpelled m.name m.params m.body := by
  have hbody : Ir.IsPlain entry.name ∧ Ir.BodySpelled entry.name entry.params entry.body := by
    cases hentry with
    | declared hform heq =>
      rw [heq]
      exact hforms _ hform
    | default hd _ hname hparams hbody _ =>
      obtain ⟨hplain, hword, hblock⟩ := spelled_default hd
      rw [hname, hparams, hbody]
      exact ⟨hplain, hword, List.forall_mem_singleton.mpr (by decide +kernel), hblock⟩
  obtain ⟨hplain, hbody⟩ := hbody
  rw [hm.name, hm.params, hm.body]
  refine ⟨hplain, hbody.name, hbody.params, ?_⟩
  split
  · have hname : IsWord "__name__" := by decide +kernel
    refine ⟨spelled_runtimeCall (by decide +kernel) (List.forall_mem_singleton.mpr ?_), hbody.body⟩
    split
    · exact hname
    · exact trivial
  · exact hbody.body

theorem ensures_component_spelled (hr : r.Spelled) (known : Messages) (policy : DuplicatePolicy)
    (moduleName : Option String) {c : ComponentSource} (hname : IsWord c.name)
    (hbody : Source.BlockSpelled c.body) :
    Ensures (component r known policy moduleName env c) Ir.Component.Spelled := by
  unfold component
  refine (ensures_componentBody_spelled env hr c.type hbody).bind fun ⟨fields, declarations⟩ h => ?_
  have hcompile : Ensures (Definition.compile known policy (some (Place.ofSpan c.span))
      { name := c.name, fields, declarations, constant := c.constant, moduleName })
      Ir.Component.Spelled := by
    intro t code t' hcode
    obtain ⟨hle, hname', hfields⟩ := Definition.ensures_compile known policy _ _ t code t' hcode
    refine ⟨hle, Definition.settled_of_compile hcode, hname' ▸ hname,
      fun f hf => ?_, fun m hm => ?_⟩
    · rw [hfields] at hf
      rcases List.mem_append.mp hf with hf | hf
      · obtain ⟨g, hg, rfl⟩ := List.mem_map.mp hf
        exact h.1 g hg
      · split_ifs at hf
        · obtain rfl := List.mem_singleton.mp hf
          exact ⟨by decide +kernel, by simp [Definition.stateField]⟩
        · simp at hf
    · obtain ⟨entry, hentry, hdelivers⟩ := isEntry_of_compile hcode hm (r := r)
      exact spelled_delivered h.2 hentry hdelivers
  dsimp only
  split_ifs
  · exact (ensures_warn _).bind fun _ _ => hcompile
  · exact hcompile

end Components

/-! ## Compiled modules -/

theorem spelled_functionsIn {stmts : List Source.Stmt} (h : Source.BlockSpelled stmts)
    {fn : FunctionSource} (hfn : fn ∈ functionsIn stmts) : fn.Spelled := by
  obtain ⟨s, hs, heq⟩ := List.mem_filterMap.mp hfn
  have hspelled := Source.blockSpelled_iff.mp h s hs
  cases s with
  | functionDef span name params body decorators returns =>
    obtain rfl := Option.some.inj heq
    exact hspelled
  | _ => simp at heq

theorem spelled_globalsIn {stmts : List Source.Stmt} (h : Source.BlockSpelled stmts)
    {g : GlobalSource} (hg : g ∈ globalsIn stmts) : IsWord g.name ∧ ∀ e ∈ g.value, e.Spelled := by
  obtain ⟨s, hs, heq⟩ := List.mem_filterMap.mp hg
  have hspelled := Source.blockSpelled_iff.mp h s hs
  cases s with
  | annAssign span target annot value =>
    cases target with
    | name sp id use =>
      obtain rfl := Option.some.inj heq
      exact hspelled
    | _ => simp at heq
  | _ => simp at heq

theorem spelled_classesIn {stmts : List Source.Stmt} (h : Source.BlockSpelled stmts)
    {cls : ClassSource} (hcls : cls ∈ classesIn stmts) :
    IsWord cls.name ∧ Source.BlockSpelled cls.body := by
  obtain ⟨s, hs, heq⟩ := List.mem_filterMap.mp hcls
  have hspelled := Source.blockSpelled_iff.mp h s hs
  cases s with
  | classDef span name bases keywords body decorators =>
    obtain rfl := Option.some.inj heq
    exact hspelled
  | _ => simp at heq

theorem spelled_registerAll {r₀ r : Registry} {classes : List ClassSource}
    {sources : List ComponentSource} {t t' : Trace} (hr : r₀.Spelled)
    (hclasses : ∀ cls ∈ classes, IsWord cls.name)
    (h : Yields (registerAll r₀ classes) t (sources, r) t') : r.Spelled := by
  induction classes generalizing r₀ t sources with
  | nil =>
    obtain ⟨heq, -⟩ := yields_pure.mp h
    obtain ⟨-, rfl⟩ := Prod.mk.inj heq
    exact hr
  | cons cls rest ih =>
    obtain ⟨hcls, hrest⟩ := List.forall_mem_cons.mp hclasses
    simp only [registerAll, yields_bind, yields_pure] at h
    obtain ⟨⟨source, r₁⟩, t₁, hsource, ⟨sources', r₂⟩, t₂, hothers, heq, rfl⟩ := h
    obtain ⟨rfl, rfl⟩ := Prod.mk.inj heq
    unfold register at hsource
    obtain ⟨constant, t₃, -, hsource⟩ := yields_bind.mp hsource
    obtain ⟨-, hsource⟩ := yields_check.mp hsource
    simp only [yields_bind, yields_pure, yields_ofRegistry] at hsource
    obtain ⟨_, t₄, -, fields, t₅, -, ⟨type, r'⟩, t₆, ⟨hok, rfl⟩, heq, -⟩ := hsource
    obtain ⟨-, rfl⟩ := Prod.mk.inj heq
    exact ih (hr.registerComponent hcls hok) hrest hothers

theorem spelled_module {known : Messages} {policy : DuplicatePolicy} {moduleName : Option String}
    {stmts : List Source.Stmt} {m : Ir.Module} {t t' : Trace} (hstmts : Source.BlockSpelled stmts)
    (h : Yields (module known policy moduleName stmts) t m t') : m.Spelled := by
  unfold module at h
  simp only [yields_bind, yields_pure] at h
  obtain ⟨ds, t₁, hds, ⟨sources, r⟩, t₂, hregister, _, t₃, -, table, t₄, htable, gs, t₅, hgs, fs,
    t₆, hfs, cs, t₇, hcs, _, t₈, -, rfl, rfl⟩ := h
  have hcollects := collects_of_yields hds
  rw [hcollects.classes] at hregister
  rw [hcollects.globals] at hgs
  rw [hcollects.functions] at hfs
  have hr := spelled_registerAll Registry.spelled_builtin
    (fun cls hcls => (spelled_classesIn hstmts hcls).1) hregister
  obtain ⟨-, hsources⟩ := of_yields_registerAll Registry.builtin_reachable hregister
  refine ⟨(ensures_mapM (fun g hg => ?_) _ _ _ hgs).2,
    (ensures_mapM (fun fn hfn => ?_) _ _ _ hfs).2, (ensures_mapM (fun c hc => ?_) _ _ _ hcs).2⟩
  · obtain ⟨hname, hvalue⟩ := spelled_globalsIn hstmts hg
    exact (ensures_exprOption_spelled _ hr hvalue).bind fun e he => ensures_pure ⟨hname, he⟩
  · exact ensures_function_spelled _ hr (spelled_functionsIn hstmts hfn)
  · obtain ⟨cls, hcls, hname, hbody⟩ := exists_left_of_mem hsources hc
    obtain ⟨hword, hblock⟩ := spelled_classesIn hstmts hcls
    exact ensures_component_spelled _ hr known policy _ (hname ▸ hword) (hbody ▸ hblock)

end Compile

/-- **The code of an accepted source is spelled.** -/
theorem spelled_of_compile {known : Messages} {policy : DuplicatePolicy}
    {sourcePath moduleName : Option String} {text : String} {m : Ir.Module}
    (h : (compile known policy sourcePath moduleName text).result = .ok m) : m.Spelled := by
  obtain ⟨stmts, t', hparse, hmodule⟩ := Compile.exists_module_of_compile h
  have hspelled := Source.spelled_of_parse hparse
  exact Compile.spelled_module hspelled hmodule

end Componentry
