import Componentry.Proofs.Scoping

/-!
# What compiled code names

The parts of code are its variables, the places that give a name its value, and its references to
host types. They are listed with repetitions, so that how often a name is bound can be counted.

**The invariant** (`WellNamed`). A compilation that starts with `n` generated names and ends with
`n'` of them leaves code in which every variable is generated or known, every generated name is
bound at most once and with a number above `n` and up to `n'`, and every type is registered. Ranges
of numbers that follow each other are disjoint, so that the pieces of code can be put together in
any order.

**Theorem (`wellNamed_body`).** A dispatch leaves well named code if its branches do.
-/

namespace Componentry

open CompileM

namespace Ir

/-! ## Parts of code -/

/-- A part of code that names something. -/
inductive Part where
  /-- A variable that is read or assigned. -/
  | var (name : String)
  /-- A place that gives a name a value: an assignment, a loop or a `letIn`. -/
  | binder (name : String)
  /-- A reference to a host type, or a test against one. -/
  | hostType (typeName codeName : String)
  /-- A static type that is attached to an expression. -/
  | annotated (typeName : String)
deriving DecidableEq, Repr

mutual

/-- The parts of an expression. -/
def Expr.parts : Expr → List Part
  | .const _ => []
  | .var name => [.var name]
  | .typeRef typeName codeName => [.hostType typeName codeName]
  | .attr obj _ => obj.parts
  | .call func args => func.parts ++ partsOfList args
  | .unary _ value => value.parts
  | .binary _ left right => left.parts ++ right.parts
  | .ifExpr condition yes no => condition.parts ++ yes.parts ++ no.parts
  | .isInstance value typeName codeName => value.parts ++ [.hostType typeName codeName]
  | .annotated value typeName => value.parts ++ [.annotated typeName]
  | .letIn bindings body => partsOfBindings bindings ++ body.parts
  | .list items => partsOfList items
  | .tuple items => partsOfList items
  | .dict keys values => partsOfList keys ++ partsOfList values
  | .subscript value index => value.parts ++ index.parts

def partsOfList : List Expr → List Part
  | [] => []
  | e :: rest => e.parts ++ partsOfList rest

def partsOfBindings : List (String × Expr) → List Part
  | [] => []
  | (x, e) :: rest => .binder x :: e.parts ++ partsOfBindings rest

end

def partsOfOption (e : Option Expr) : List Part := e.toList.flatMap Expr.parts

/-- A target that is a plain name is a place that gives it a value. -/
def Expr.binders : Expr → List Part
  | .var x => [.binder x]
  | _ => []

mutual

/-- The parts of a statement. -/
def Stmt.parts : Stmt → List Part
  | .assign target value => target.binders ++ target.parts ++ value.parts
  | .augAssign target _ value => target.binders ++ target.parts ++ value.parts
  | .exprStmt value => value.parts
  | .ifElse condition body orelse => condition.parts ++ partsOfBlock body ++ partsOfBlock orelse
  | .whileDo condition body => condition.parts ++ partsOfBlock body
  | .forIn var iterable body => .binder var :: iterable.parts ++ partsOfBlock body
  | .ret value => partsOfOption value
  | .brk => []
  | .cont => []

def partsOfBlock : List Stmt → List Part
  | [] => []
  | s :: rest => s.parts ++ partsOfBlock rest

end

theorem partsOfBlock_append (xs ys : List Stmt) :
    partsOfBlock (xs ++ ys) = partsOfBlock xs ++ partsOfBlock ys := by
  induction xs with
  | nil => rfl
  | cons s rest ih => simp [partsOfBlock, ih]

theorem partsOfBindings_append (xs ys : List (String × Expr)) :
    partsOfBindings (xs ++ ys) = partsOfBindings xs ++ partsOfBindings ys := by
  induction xs with
  | nil => rfl
  | cons b rest ih => simp [partsOfBindings, ih]

/-! ## Variables in scope are bound -/

theorem binder_mem_partsOfBindings {bs : List (String × Expr)} {x : String}
    (h : x ∈ bs.map Prod.fst) : .binder x ∈ partsOfBindings bs := by
  induction bs with
  | nil => simp at h
  | cons b rest ih =>
    rcases List.mem_cons.mp h with rfl | h
    · exact List.mem_cons_self
    · exact List.mem_append_right _ (ih h)

mutual

/-- A variable of an expression is allowed from outside or bound in the expression. -/
theorem Expr.bound_of_var : ∀ (e : Expr) {A : String → Prop} {x : String}, e.ReadsOnly A →
    .var x ∈ e.parts → A x ∨ .binder x ∈ e.parts
  | .const _, _, _, _, h => by simp [Expr.parts] at h
  | .var y, _, x, hA, h => by
    obtain rfl : x = y := by simpa [Expr.parts] using h
    exact .inl hA
  | .typeRef _ _, _, _, _, h => by simp [Expr.parts] at h
  | .attr obj _, _, _, hA, h => obj.bound_of_var hA h
  | .call func args, _, _, hA, h => by
    rcases List.mem_append.mp h with h | h
    · exact (func.bound_of_var hA.1 h).imp_right (List.mem_append_left _)
    · exact (bound_of_var_list args hA.2 h).imp_right (List.mem_append_right _)
  | .unary _ value, _, _, hA, h => value.bound_of_var hA h
  | .binary _ left right, _, _, hA, h => by
    rcases List.mem_append.mp h with h | h
    · exact (left.bound_of_var hA.1 h).imp_right (List.mem_append_left _)
    · exact (right.bound_of_var hA.2 h).imp_right (List.mem_append_right _)
  | .ifExpr condition yes no, _, _, hA, h => by
    simp only [Expr.parts, List.mem_append] at h ⊢
    rcases h with (h | h) | h
    · exact (condition.bound_of_var hA.1 h).imp_right fun h => .inl (.inl h)
    · exact (yes.bound_of_var hA.2.1 h).imp_right fun h => .inl (.inr h)
    · exact (no.bound_of_var hA.2.2 h).imp_right .inr
  | .isInstance value _ _, _, x, hA, h => by
    have h : .var x ∈ value.parts := by simpa [Expr.parts] using h
    exact (value.bound_of_var hA h).imp_right (List.mem_append_left _)
  | .annotated value _, _, x, hA, h => by
    have h : .var x ∈ value.parts := by simpa [Expr.parts] using h
    exact (value.bound_of_var hA h).imp_right (List.mem_append_left _)
  | .letIn bindings body, _, _, hA, h => by
    rcases List.mem_append.mp h with h | h
    · exact (bound_of_var_bindings bindings hA.1 h).imp_right (List.mem_append_left _)
    · rcases body.bound_of_var hA.2 h with (h | h) | h
      · exact .inl h
      · exact .inr (List.mem_append_left _ (binder_mem_partsOfBindings h))
      · exact .inr (List.mem_append_right _ h)
  | .list items, _, _, hA, h => bound_of_var_list items hA h
  | .tuple items, _, _, hA, h => bound_of_var_list items hA h
  | .dict keys values, _, _, hA, h => by
    rcases List.mem_append.mp h with h | h
    · exact (bound_of_var_list keys hA.1 h).imp_right (List.mem_append_left _)
    · exact (bound_of_var_list values hA.2 h).imp_right (List.mem_append_right _)
  | .subscript value index, _, _, hA, h => by
    rcases List.mem_append.mp h with h | h
    · exact (value.bound_of_var hA.1 h).imp_right (List.mem_append_left _)
    · exact (index.bound_of_var hA.2 h).imp_right (List.mem_append_right _)

theorem bound_of_var_list : ∀ (es : List Expr) {A : String → Prop} {x : String},
    AllReadOnly es A → .var x ∈ partsOfList es → A x ∨ .binder x ∈ partsOfList es
  | [], _, _, _, h => by simp [partsOfList] at h
  | e :: rest, _, _, hA, h => by
    rcases List.mem_append.mp h with h | h
    · exact (e.bound_of_var hA.1 h).imp_right (List.mem_append_left _)
    · exact (bound_of_var_list rest hA.2 h).imp_right (List.mem_append_right _)

theorem bound_of_var_bindings : ∀ (bs : List (String × Expr)) {A : String → Prop} {x : String},
    BindingsReadOnly bs A → .var x ∈ partsOfBindings bs → A x ∨ .binder x ∈ partsOfBindings bs
  | [], _, _, _, h => by simp [partsOfBindings] at h
  | (y, e) :: rest, _, x, hA, h => by
    have h : .var x ∈ e.parts ∨ .var x ∈ partsOfBindings rest := by
      simpa [partsOfBindings] using h
    simp only [partsOfBindings, List.cons_append, List.mem_cons, List.mem_append]
    rcases h with h | h
    · exact (e.bound_of_var hA.1 h).imp_right fun h => .inr (.inl h)
    · rcases bound_of_var_bindings rest hA.2 h with (h | rfl) | h
      · exact .inl h
      · exact .inr (.inl rfl)
      · exact .inr (.inr (.inr h))

end

/-- A variable of a target is allowed from outside, bound inside, or the target itself. -/
theorem Expr.bound_of_var_target {target : Expr} {A : String → Prop} {x : String}
    (hA : target.TargetReadsOnly A) (h : .var x ∈ target.parts) :
    A x ∨ .binder x ∈ target.binders ++ target.parts := by
  cases target with
  | var y =>
    obtain rfl : x = y := by simpa [Expr.parts] using h
    exact .inr (List.mem_append_left _ List.mem_cons_self)
  | _ => exact (Expr.bound_of_var _ hA h).imp_right (List.mem_append_right _)

mutual

theorem Stmt.bound_of_var : ∀ (s : Stmt) {A : String → Prop} {x : String}, s.Scoped A →
    .var x ∈ s.parts → A x ∨ .binder x ∈ s.parts
  | .assign target value, _, _, hA, h => by
    simp only [Stmt.parts, List.mem_append] at h ⊢
    rcases h with (h | h) | h
    · cases target <;> simp [Expr.binders] at h
    · exact (Expr.bound_of_var_target hA.1 h).imp_right fun h => .inl (List.mem_append.mp h)
    · exact (value.bound_of_var hA.2 h).imp_right .inr
  | .augAssign target _ value, _, _, hA, h => by
    simp only [Stmt.parts, List.mem_append] at h ⊢
    rcases h with (h | h) | h
    · cases target <;> simp [Expr.binders] at h
    · exact (target.bound_of_var hA.1 h).imp_right fun h => .inl (.inr h)
    · exact (value.bound_of_var hA.2 h).imp_right .inr
  | .exprStmt value, _, _, hA, h => value.bound_of_var hA h
  | .ifElse condition body orelse, _, _, hA, h => by
    simp only [Stmt.parts, List.mem_append] at h ⊢
    rcases h with (h | h) | h
    · exact (condition.bound_of_var hA.1 h).imp_right fun h => .inl (.inl h)
    · exact (bound_of_var_block body hA.2.1 h).imp_right fun h => .inl (.inr h)
    · exact (bound_of_var_block orelse hA.2.2 h).imp_right .inr
  | .whileDo condition body, _, _, hA, h => by
    rcases List.mem_append.mp h with h | h
    · exact (condition.bound_of_var hA.1 h).imp_right (List.mem_append_left _)
    · exact (bound_of_var_block body hA.2 h).imp_right (List.mem_append_right _)
  | .forIn _ iterable body, _, x, hA, h => by
    have h : .var x ∈ iterable.parts ∨ .var x ∈ partsOfBlock body := by simpa [Stmt.parts] using h
    simp only [Stmt.parts, List.cons_append, List.mem_cons, List.mem_append]
    rcases h with h | h
    · exact (iterable.bound_of_var hA.1 h).imp_right fun h => .inr (.inl h)
    · exact (bound_of_var_block body hA.2 h).imp_right fun h => .inr (.inr h)
  | .ret none, _, _, _, h => by simp [Stmt.parts, partsOfOption] at h
  | .ret (some e), _, x, hA, h => by
    have h : .var x ∈ e.parts := by simpa [Stmt.parts, partsOfOption] using h
    simpa [Stmt.parts, partsOfOption] using e.bound_of_var (hA e rfl) h
  | .brk, _, _, _, h => by simp [Stmt.parts] at h
  | .cont, _, _, _, h => by simp [Stmt.parts] at h

/-- **A variable of a block is allowed from outside or bound in the block.** -/
theorem bound_of_var_block : ∀ (code : List Stmt) {A : String → Prop} {x : String},
    BlockScoped code A → .var x ∈ partsOfBlock code → A x ∨ .binder x ∈ partsOfBlock code
  | [], _, _, _, h => by simp [partsOfBlock] at h
  | s :: rest, _, _, hA, h => by
    rcases List.mem_append.mp h with h | h
    · exact (s.bound_of_var hA.1 h).imp_right (List.mem_append_left _)
    · rcases bound_of_var_block rest hA.2 h with (h | ⟨value, rfl⟩) | h
      · exact .inl h
      · exact .inr (List.mem_append_left _ (by simp [Stmt.parts, Expr.binders]))
      · exact .inr (List.mem_append_right _ h)

end

end Ir

/-! ## Numbers of generated names -/

namespace CompileM

/-- The stems of generated names. -/
def stems : List String := ["cast", "obj", "target"]

theorem ne_nil_of_mem_stems {stem : String} (h : stem ∈ stems) : stem.toList ≠ [] := by
  have hall : ∀ s ∈ stems, s.toList ≠ [] := by decide
  exact hall stem h

theorem stem_eq_of_head {stem stem' : String} (hs : stem ∈ stems) (hs' : stem' ∈ stems)
    (h : stem.toList.head? = stem'.toList.head?) : stem = stem' := by
  have hall : ∀ s ∈ stems, ∀ s' ∈ stems, s.toList.head? = s'.toList.head? → s = s' := by decide
  exact hall stem hs stem' hs' h

theorem generatedName_number {stem stem' : String} {k k' : Nat} (hs : stem ∈ stems)
    (hs' : stem' ∈ stems) (h : generatedName stem k = generatedName stem' k') : k = k' := by
  have hchars : stem.toList ++ (toString k).toList = stem'.toList ++ (toString k').toList := by
    simpa [generatedName] using congrArg String.toList h
  have hhead := congrArg List.head? hchars
  rw [List.head?_append_of_ne_nil _ (ne_nil_of_mem_stems hs),
    List.head?_append_of_ne_nil _ (ne_nil_of_mem_stems hs')] at hhead
  obtain rfl := stem_eq_of_head hs hs' hhead
  exact generatedName_injective h

/-- A generated name with a number above `n` and up to `n'`. -/
def Numbered (n n' : Nat) (x : String) : Prop :=
  ∃ stem ∈ stems, ∃ k, n < k ∧ k ≤ n' ∧ x = generatedName stem k

theorem Numbered.mono {n n' m m' : Nat} {x : String} (h : Numbered n n' x) (hm : m ≤ n)
    (hm' : n' ≤ m') : Numbered m m' x := by
  obtain ⟨stem, hstem, k, hk, hk', rfl⟩ := h
  exact ⟨stem, hstem, k, hm.trans_lt hk, hk'.trans hm', rfl⟩

theorem Numbered.disjoint {n n₁ n' : Nat} {x : String} (h : Numbered n n₁ x)
    (h' : Numbered n₁ n' x) : False := by
  obtain ⟨stem, hstem, k, -, hk, rfl⟩ := h
  obtain ⟨stem', hstem', k', hk', -, heq⟩ := h'
  have := generatedName_number hstem hstem' heq
  omega

end CompileM

/-! ## The invariant -/

namespace Compile

open Ir (Part)

/-- Every generated name is bound at most once, and with a number in the range. -/
structure Distinct (n n' : Nat) (ps : List Part) : Prop where
  le : n ≤ n'
  numbered : ∀ x, isGenerated x = true → .binder x ∈ ps → Numbered n n' x
  once : ∀ x, isGenerated x = true → ps.count (.binder x) ≤ 1

namespace Distinct

variable {n n₁ n' m m' : Nat} {ps qs : List Part}

theorem widen (h : Distinct n n' ps) (hm : m ≤ n) (hm' : n' ≤ m') : Distinct m m' ps :=
  ⟨(hm.trans h.le).trans hm', fun x hx hp => (h.numbered x hx hp).mono hm hm', h.once⟩

/-- Only how often names are bound matters, so code may be put together in any order. -/
theorem of_count_le (h : Distinct n n' ps)
    (hle : ∀ x, qs.count (.binder x) ≤ ps.count (.binder x)) : Distinct n n' qs := by
  refine ⟨h.le, fun x hx hq => h.numbered x hx ?_, fun x hx => (hle x).trans (h.once x hx)⟩
  exact List.count_pos_iff.mp ((List.count_pos_iff.mpr hq).trans_le (hle x))

theorem append (h : Distinct n n₁ ps) (h' : Distinct n₁ n' qs) : Distinct n n' (ps ++ qs) := by
  refine ⟨h.le.trans h'.le, fun x hx hp => ?_, fun x hx => ?_⟩
  · rcases List.mem_append.mp hp with hp | hp
    · exact (h.numbered x hx hp).mono (le_refl n) h'.le
    · exact (h'.numbered x hx hp).mono h.le (le_refl n')
  · rw [List.count_append]
    by_cases hp : .binder x ∈ ps
    · have hq : .binder x ∉ qs := fun hq =>
        (h.numbered x hx hp).disjoint (h'.numbered x hx hq)
      rw [List.count_eq_zero_of_not_mem hq]
      exact h.once x hx
    · rw [List.count_eq_zero_of_not_mem hp, Nat.zero_add]
      exact h'.once x hx

/-- Parts that bind no generated name. -/
theorem of_source (h : ∀ x, .binder x ∈ ps → isGenerated x = false) : Distinct n n ps := by
  refine ⟨le_refl n, fun x hx hp => ?_, fun x hx => ?_⟩
  · simp [h x hp] at hx
  · have hnot : .binder x ∉ ps := fun hp => by simp [h x hp] at hx
    rw [List.count_eq_zero_of_not_mem hnot]
    exact Nat.zero_le 1

end Distinct

/-- The part names what it may: a variable that is generated or known, a name that is generated or
may be bound, or a registered type. -/
def Allowed (r : Registry) (K B : String → Prop) : Part → Prop
  | .var x => isGenerated x = true ∨ K x
  | .binder x => isGenerated x = true ∨ B x
  | .hostType typeName codeName => ∃ T ∈ r.types, T.fullName = typeName ∧ T.emitName = codeName
  | .annotated typeName => ∃ T ∈ r.types, T.fullName = typeName

/-- Every part names what it may, and generated names are distinct. -/
structure WellNamed (r : Registry) (K B : String → Prop) (n n' : Nat) (ps : List Part) : Prop where
  distinct : Distinct n n' ps
  allowed : ∀ p ∈ ps, Allowed r K B p

namespace WellNamed

variable {r : Registry} {K B : String → Prop} {n n₁ n' m m' : Nat} {ps qs : List Part}

theorem widen (h : WellNamed r K B n n' ps) (hm : m ≤ n) (hm' : n' ≤ m') :
    WellNamed r K B m m' ps :=
  ⟨h.distinct.widen hm hm', h.allowed⟩

theorem of_count_le (h : WellNamed r K B n n' ps) (hle : ∀ p, qs.count p ≤ ps.count p) :
    WellNamed r K B n n' qs := by
  refine ⟨h.distinct.of_count_le fun x => hle _, fun p hp => h.allowed p ?_⟩
  exact List.count_pos_iff.mp ((List.count_pos_iff.mpr hp).trans_le (hle p))

theorem append (h : WellNamed r K B n n₁ ps) (h' : WellNamed r K B n₁ n' qs) :
    WellNamed r K B n n' (ps ++ qs) :=
  ⟨h.distinct.append h'.distinct, List.forall_mem_append.mpr ⟨h.allowed, h'.allowed⟩⟩

theorem nil : WellNamed r K B n n [] := ⟨.of_source (by simp), by simp⟩

theorem var {x : String} (h : isGenerated x = true ∨ K x) : WellNamed r K B n n [.var x] :=
  ⟨.of_source (by simp), by simpa [Allowed] using h⟩

theorem hostType {T : HostType} (h : T ∈ r.types) :
    WellNamed r K B n n [.hostType T.fullName T.emitName] :=
  ⟨.of_source (by simp), by simpa [Allowed] using ⟨T, h, rfl, rfl⟩⟩

theorem annotated {T : HostType} (h : T ∈ r.types) : WellNamed r K B n n [.annotated T.fullName] :=
  ⟨.of_source (by simp), by simpa [Allowed] using ⟨T, h, rfl⟩⟩

theorem fresh {stem : String} (h : stem ∈ stems) :
    WellNamed r K B n (n + 1) [.binder (generatedName stem (n + 1))] := by
  refine ⟨⟨Nat.le_succ n, fun x _ hx => ?_, fun x _ => List.count_le_length⟩,
    by simp [Allowed, isGenerated_generatedName]⟩
  obtain rfl : x = generatedName stem (n + 1) := by simpa using hx
  exact ⟨stem, h, n + 1, Nat.lt_succ_self n, le_refl _, rfl⟩

theorem assigned {x : String} (hx : isGenerated x = false) (hK : K x) (hB : B x) :
    WellNamed r K B n n [.binder x, .var x] :=
  ⟨.of_source (by simp [hx]), by simp [Allowed, hK, hB]⟩

end WellNamed

/-! ## Known names -/

/-- All names that the environment knows count as known. -/
def Covers (K : String → Prop) (env : TypeEnv) : Prop :=
  ∀ x, env.knows x = true → isGenerated x = true ∨ K x

theorem Covers.bind {K : String → Prop} {env : TypeEnv} (h : Covers K env) {y : String}
    (hy : isGenerated y = true ∨ K y) (T : Option HostType) : Covers K (env.bind y T) := by
  intro x hx
  by_cases hxy : x = y
  · exact hxy ▸ hy
  · refine h x ?_
    simpa [TypeEnv.knows, TypeEnv.bind, Table.contains, hxy] using hx

/-- A flow makes no other names known than those that it binds. -/
theorem Flow.covers {r : Registry} {annotated : String → HostType → Prop} {B : List String}
    {env env' : TypeEnv} {n n' : Nat} {K : String → Prop} (h : Flow r annotated B env n env' n')
    (hB : ∀ x ∈ B, K x) (henv : Covers K env) : Covers K env' := by
  intro x hx
  by_cases hgen : isGenerated x = true
  · exact .inl hgen
  by_cases hmem : x ∈ B
  · exact .inr (hB x hmem)
  -- The name is neither bound nor generated, so all is known of it from before.
  have hne (k : Nat) : x ≠ generatedName "cast" k := by
    rintro rfl
    exact hgen (isGenerated_generatedName "cast" k)
  obtain ⟨hget, -⟩ := h.kept hmem fun k _ _ => hne k
  obtain ⟨hglobals, hcallables, hhost⟩ := h.module
  refine henv x ?_
  simpa [TypeEnv.knows, Table.contains, hget, hglobals, hcallables, hhost] using hx

/-! ## Branches -/

section Branches

variable {r : Registry} {K B : String → Prop} {bind : String} {env : TypeEnv} {t t' : Trace}
  {β : Type} {parts : β → List Part}

/-- What a branch leaves when it is built. -/
def BranchNamed (r : Registry) (K B : String → Prop) (parts : β → List Part)
    (branch : Branch CompileM β) (env : TypeEnv) : Prop :=
  ∀ t b t', Yields (branch env) t b t' → WellNamed r K B t.generated t'.generated (parts b)

theorem wellNamed_test (hbind : isGenerated bind = true ∨ K bind) {T : HostType}
    (hT : T ∈ r.types) {n : Nat} : WellNamed r K B n n (Dispatch.test bind T).parts :=
  (WellNamed.var hbind).append (.hostType hT)

theorem wellNamed_buildAll (hbind : isGenerated bind = true ∨ K bind)
    {cs : List (Clause (Branch CompileM β))} (htypes : ∀ c ∈ cs, c.type ∈ r.types)
    (hcs : ∀ c ∈ cs, ∀ T, BranchNamed r K B parts c.branch (env.bind bind T))
    {bs : List (HostType × β)} (h : Yields (Dispatch.buildAll bind env cs) t bs t') :
    WellNamed r K B t.generated t'.generated
      (bs.flatMap fun b => (Dispatch.test bind b.1).parts ++ parts b.2) := by
  induction cs generalizing t bs with
  | nil =>
    obtain ⟨rfl, rfl⟩ := yields_pure.mp h
    exact .nil
  | cons c rest ih =>
    obtain ⟨htype, htypes⟩ := List.forall_mem_cons.mp htypes
    obtain ⟨hc, hcs⟩ := List.forall_mem_cons.mp hcs
    simp only [Dispatch.buildAll, yields_bind, yields_pure] at h
    obtain ⟨b, t₁, hb, bs, t₂, hbs, rfl, rfl⟩ := h
    rw [List.flatMap_cons]
    exact ((wellNamed_test hbind htype).append (hc _ t b t₁ hb)).append (ih htypes hcs hbs)

/-- What all branches leave, a dispatch leaves, if joining them adds only the tests. -/
theorem wellNamed_body (hbind : isGenerated bind = true ∨ K bind) {absent : β}
    {chain : β → List (HostType × β) → β} {default : Option (Branch CompileM β)}
    {plan : Plan (Branch CompileM β)} {code : β} (habsent : parts absent = [])
    (hdefault : ∀ d ∈ default, ∀ T, BranchNamed r K B parts d (env.bind bind T))
    (htypes : ∀ c ∈ plan.clauses, c.type ∈ r.types)
    (hclauses : ∀ c ∈ plan.clauses, ∀ T, BranchNamed r K B parts c.branch (env.bind bind T))
    (hchain : ∀ final bs, parts (chain final bs) =
      (bs.flatMap fun b => (Dispatch.test bind b.1).parts ++ parts b.2) ++ parts final)
    (h : Yields (Dispatch.body bind env absent chain default plan) t code t') :
    WellNamed r K B t.generated t'.generated (parts code) := by
  have hfinal {static : Option HostType} {t t' : Trace} {b : β}
      (h : Yields (Dispatch.buildDefault bind env static absent default) t b t') :
      WellNamed r K B t.generated t'.generated (parts b) := by
    cases default with
    | none =>
      obtain ⟨rfl, rfl⟩ := yields_pure.mp h
      rw [habsent]
      exact .nil
    | some d => exact hdefault d rfl _ t b t' h
  -- The default is built first, and stands last in the chain.
  have hjoin {t t₁ t' : Trace} {final : β} {bs : List (HostType × β)}
      (h : WellNamed r K B t.generated t₁.generated (parts final))
      (h' : WellNamed r K B t₁.generated t'.generated
        (bs.flatMap fun b => (Dispatch.test bind b.1).parts ++ parts b.2)) :
      WellNamed r K B t.generated t'.generated (parts (chain final bs)) := by
    refine (h.append h').of_count_le fun p => ?_
    rw [hchain, List.count_append, List.count_append, Nat.add_comm]
  cases plan with
  | exact T c => exact hclauses c List.mem_cons_self _ t code t' h
  | fallback T => exact hfinal h
  | pruned T cs =>
    simp only [Dispatch.body, yields_bind, yields_pure] at h
    obtain ⟨final, t₁, hf, bs, t₂, hbs, rfl, rfl⟩ := h
    exact hjoin (hfinal hf) (wellNamed_buildAll hbind htypes hclauses hbs)
  | full cs =>
    simp only [Dispatch.body, yields_bind, yields_pure] at h
    obtain ⟨final, t₁, hf, bs, t₂, hbs, rfl, rfl⟩ := h
    exact hjoin (hfinal hf) (wellNamed_buildAll hbind htypes hclauses hbs)

theorem parts_exprChain (default : Ir.Expr) (bs : List (HostType × Ir.Expr)) :
    (Dispatch.exprChain bind default bs).parts =
      (bs.flatMap fun b => (Dispatch.test bind b.1).parts ++ b.2.parts) ++ default.parts := by
  induction bs with
  | nil => rfl
  | cons b rest ih => simp [Dispatch.exprChain, Ir.Expr.parts, ih]

theorem parts_stmtChain (default : List Ir.Stmt) (bs : List (HostType × List Ir.Stmt)) :
    Ir.partsOfBlock (Dispatch.stmtChain bind default bs) =
      (bs.flatMap fun b => (Dispatch.test bind b.1).parts ++ Ir.partsOfBlock b.2) ++
        Ir.partsOfBlock default := by
  induction bs with
  | nil => rfl
  | cons b rest ih => simp [Dispatch.stmtChain, Ir.partsOfBlock, Ir.Stmt.parts, ih]

end Branches

end Compile

end Componentry
