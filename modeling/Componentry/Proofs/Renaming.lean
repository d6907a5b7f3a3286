import Componentry.Proofs.ClosedCode

/-!
# Renumbering generated names

Generated names carry numbers, and only the numbers depend on what was compiled before. `renumber σ`
gives every generated name the number that `σ` says and leaves the names of sources as they are;
`rename` applies a change of names to code.

Code is renamed alike by two changes of names that agree on the names in it (`rename_congr`). So a
shift of the numbers of one declaration and a permutation of the numbers of the whole module do the
same to that declaration, if they agree on its range.
-/

namespace Componentry

namespace CompileM

/-- The number of a generated name with the given stem. -/
def number? (stem x : String) : Option Nat :=
  let k := Nat.ofDigitChars 10 (x.toList.drop (generatedStart ++ stem).toList.length) 0
  if x = generatedName stem k then some k else none

theorem number?_eq_some {stem x : String} {k : Nat} :
    number? stem x = some k ↔ x = generatedName stem k := by
  simp only [number?]
  constructor
  · intro h
    split_ifs at h with hx
    rw [← Option.some.inj h]
    exact hx
  · rintro rfl
    have hdigits : (generatedName stem k).toList.drop (generatedStart ++ stem).toList.length =
        (toString k).toList := by
      simp [generatedName]
    have hk : Nat.ofDigitChars 10 (toString k).toList 0 = k := by
      rw [Nat.toString_eq_ofList_toDigits, String.toList_ofList, Nat.ofDigitChars_ten_toDigits]
    rw [hdigits, hk, if_pos rfl]

/-- Gives a generated name another number. -/
def renumber (σ : Nat → Nat) (x : String) : String :=
  match stems.findSome? fun stem => (number? stem x).map fun k => generatedName stem (σ k) with
  | some y => y
  | none => x

/-- A name is generated from one of the stems, or it is as it was. -/
theorem renumber_cases (σ : Nat → Nat) (x : String) :
    (∃ stem ∈ stems, ∃ k, x = generatedName stem k ∧ renumber σ x = generatedName stem (σ k)) ∨
      ((∀ stem ∈ stems, ∀ k, x ≠ generatedName stem k) ∧ renumber σ x = x) := by
  unfold renumber
  split
  · next y hy =>
    obtain ⟨stem, hstem, hmap⟩ := List.exists_of_findSome?_eq_some hy
    obtain ⟨k, hk, rfl⟩ := Option.map_eq_some_iff.mp hmap
    exact .inl ⟨stem, hstem, k, number?_eq_some.mp hk, rfl⟩
  · next hnone =>
    refine .inr ⟨fun stem hstem k hx => ?_, rfl⟩
    have hnumber := List.findSome?_eq_none_iff.mp hnone stem hstem
    simp [number?_eq_some.mpr hx] at hnumber

theorem generatedName_inj {stem stem' : String} {k k' : Nat} (hs : stem ∈ stems)
    (hs' : stem' ∈ stems) (h : generatedName stem k = generatedName stem' k') :
    stem = stem' ∧ k = k' := by
  obtain rfl := generatedName_number hs hs' h
  refine ⟨?_, rfl⟩
  have hchars : stem.toList ++ (toString k).toList = stem'.toList ++ (toString k).toList := by
    simpa [generatedName] using congrArg String.toList h
  exact String.toList_inj.mp (List.append_cancel_right hchars)

@[simp] theorem renumber_generatedName {stem : String} (h : stem ∈ stems)
    (σ : Nat → Nat) (k : Nat) : renumber σ (generatedName stem k) = generatedName stem (σ k) := by
  rcases renumber_cases σ (generatedName stem k) with ⟨stem', hstem', k', heq, hr⟩ | ⟨hne, -⟩
  · obtain ⟨rfl, rfl⟩ := generatedName_inj h hstem' heq
    exact hr
  · exact absurd rfl (hne stem h k)

theorem renumber_of_source {x : String} (h : Compile.isGenerated x = false) (σ : Nat → Nat) :
    renumber σ x = x := by
  rcases renumber_cases σ x with ⟨stem, hstem, k, rfl, -⟩ | ⟨-, hr⟩
  · simp [Compile.isGenerated_generatedName] at h
  · exact hr

theorem renumber_renumber (σ τ : Nat → Nat) (x : String) :
    renumber σ (renumber τ x) = renumber (σ ∘ τ) x := by
  rcases renumber_cases τ x with ⟨stem, hstem, k, rfl, hr⟩ | ⟨hne, hr⟩
  · simp [hr, hstem]
  · rcases renumber_cases (σ ∘ τ) x with ⟨stem, hstem, k, rfl, -⟩ | ⟨-, hr'⟩
    · exact absurd rfl (hne stem hstem k)
    · rcases renumber_cases σ x with ⟨stem, hstem, k, rfl, -⟩ | ⟨-, hr''⟩
      · exact absurd rfl (hne stem hstem k)
      · rw [hr, hr', hr'']

theorem renumber_id (x : String) : renumber id x = x := by
  rcases renumber_cases id x with ⟨stem, hstem, k, rfl, hr⟩ | ⟨-, hr⟩
  · exact hr
  · exact hr

/-- Changes that agree on a range of numbers do the same to its names. -/
theorem Numbered.renumber_congr {n n' : Nat} {x : String} (h : Numbered n n' x) {σ τ : Nat → Nat}
    (hστ : ∀ k, n < k → k ≤ n' → σ k = τ k) : renumber σ x = renumber τ x := by
  obtain ⟨stem, hstem, k, hk, hk', rfl⟩ := h
  rw [renumber_generatedName hstem, renumber_generatedName hstem, hστ k hk hk']

end CompileM

namespace Ir

/-! ## Renaming code -/

mutual

/-- The expression with other names of variables. -/
def Expr.rename (ρ : String → String) : Expr → Expr
  | .const value => .const value
  | .var name => .var (ρ name)
  | .typeRef typeName codeName => .typeRef typeName codeName
  | .attr obj field => .attr (obj.rename ρ) field
  | .call func args => .call (func.rename ρ) (renameList ρ args)
  | .unary op value => .unary op (value.rename ρ)
  | .binary op left right => .binary op (left.rename ρ) (right.rename ρ)
  | .ifExpr condition yes no => .ifExpr (condition.rename ρ) (yes.rename ρ) (no.rename ρ)
  | .isInstance value typeName codeName => .isInstance (value.rename ρ) typeName codeName
  | .annotated value typeName => .annotated (value.rename ρ) typeName
  | .letIn bindings body => .letIn (renameBindings ρ bindings) (body.rename ρ)
  | .list items => .list (renameList ρ items)
  | .tuple items => .tuple (renameList ρ items)
  | .dict keys values => .dict (renameList ρ keys) (renameList ρ values)
  | .subscript value index => .subscript (value.rename ρ) (index.rename ρ)

def renameList (ρ : String → String) : List Expr → List Expr
  | [] => []
  | e :: rest => e.rename ρ :: renameList ρ rest

/-- The bindings with other names, bound ones included. -/
def renameBindings (ρ : String → String) : List (String × Expr) → List (String × Expr)
  | [] => []
  | (x, e) :: rest => (ρ x, e.rename ρ) :: renameBindings ρ rest

end

mutual

/-- The statement with other names of variables. -/
def Stmt.rename (ρ : String → String) : Stmt → Stmt
  | .assign target value => .assign (target.rename ρ) (value.rename ρ)
  | .augAssign target op value => .augAssign (target.rename ρ) op (value.rename ρ)
  | .exprStmt value => .exprStmt (value.rename ρ)
  | .ifElse condition body orelse =>
    .ifElse (condition.rename ρ) (renameBlock ρ body) (renameBlock ρ orelse)
  | .whileDo condition body => .whileDo (condition.rename ρ) (renameBlock ρ body)
  | .forIn var iterable body => .forIn (ρ var) (iterable.rename ρ) (renameBlock ρ body)
  | .ret value => .ret (value.map (Expr.rename ρ))
  | .brk => .brk
  | .cont => .cont

def renameBlock (ρ : String → String) : List Stmt → List Stmt
  | [] => []
  | s :: rest => s.rename ρ :: renameBlock ρ rest

end

theorem renameBlock_append (ρ : String → String) (xs ys : List Stmt) :
    renameBlock ρ (xs ++ ys) = renameBlock ρ xs ++ renameBlock ρ ys := by
  induction xs with
  | nil => rfl
  | cons s rest ih => simp [renameBlock, ih]

def Global.rename (ρ : String → String) (g : Global) : Global :=
  { g with value := g.value.map (Expr.rename ρ) }

def Function.rename (ρ : String → String) (f : Function) : Function :=
  { f with body := renameBlock ρ f.body }

def Field.rename (ρ : String → String) (f : Field) : Field :=
  { f with default := f.default.map (Expr.rename ρ) }

def Method.rename (ρ : String → String) (m : Method) : Method :=
  { m with body := renameBlock ρ m.body }

def Component.rename (ρ : String → String) (c : Component) : Component :=
  { c with
    fields := c.fields.map (Field.rename ρ)
    implementations := c.implementations.map fun i =>
      { i with methods := i.methods.map (Method.rename ρ) } }

/-! ## Changes of names that agree -/

/-- The parts have the name, as that of a variable or of a binder. -/
def Has (ps : List Part) (x : String) : Prop := .var x ∈ ps ∨ .binder x ∈ ps

@[simp] theorem has_nil {x : String} : ¬ Has [] x := by simp [Has]

@[simp] theorem has_cons {p : Part} {ps : List Part} {x : String} :
    Has (p :: ps) x ↔ (p = .var x ∨ p = .binder x) ∨ Has ps x := by
  simp only [Has, List.mem_cons, eq_comm]
  tauto

@[simp] theorem has_append {ps qs : List Part} {x : String} :
    Has (ps ++ qs) x ↔ Has ps x ∨ Has qs x := by
  simp only [Has, List.mem_append]
  tauto

theorem has_flatMap {α : Type} {f : α → List Part} {as : List α} {x : String} :
    Has (as.flatMap f) x ↔ ∃ a ∈ as, Has (f a) x := by
  simp only [Has, List.mem_flatMap]
  constructor
  · rintro (⟨a, ha, h⟩ | ⟨a, ha, h⟩)
    · exact ⟨a, ha, .inl h⟩
    · exact ⟨a, ha, .inr h⟩
  · rintro ⟨a, ha, h | h⟩
    · exact .inl ⟨a, ha, h⟩
    · exact .inr ⟨a, ha, h⟩

section Congr

variable {ρ ρ' : String → String}

mutual

/-- **Changes that agree on the names of an expression rename it alike.** -/
theorem Expr.rename_congr : ∀ e : Expr, (∀ x, Has e.parts x → ρ x = ρ' x) →
    e.rename ρ = e.rename ρ'
  | .const _, _ => rfl
  | .var x, h => by simp [Expr.rename, h x (by simp [Expr.parts])]
  | .typeRef _ _, _ => rfl
  | .attr obj _, h => by simp [Expr.rename, obj.rename_congr h]
  | .call func args, h => by
    simp only [Expr.parts, has_append] at h
    simp [Expr.rename, func.rename_congr fun x hx => h x (.inl hx),
      renameList_congr args fun x hx => h x (.inr hx)]
  | .unary _ value, h => by simp [Expr.rename, value.rename_congr h]
  | .binary _ left right, h => by
    simp only [Expr.parts, has_append] at h
    simp [Expr.rename, left.rename_congr fun x hx => h x (.inl hx),
      right.rename_congr fun x hx => h x (.inr hx)]
  | .ifExpr condition yes no, h => by
    simp only [Expr.parts, has_append] at h
    simp [Expr.rename, condition.rename_congr fun x hx => h x (.inl (.inl hx)),
      yes.rename_congr fun x hx => h x (.inl (.inr hx)), no.rename_congr fun x hx => h x (.inr hx)]
  | .isInstance value _ _, h => by
    simp only [Expr.parts, has_append] at h
    simp [Expr.rename, value.rename_congr fun x hx => h x (.inl hx)]
  | .annotated value _, h => by
    simp only [Expr.parts, has_append] at h
    simp [Expr.rename, value.rename_congr fun x hx => h x (.inl hx)]
  | .letIn bindings body, h => by
    simp only [Expr.parts, has_append] at h
    simp [Expr.rename, renameBindings_congr bindings fun x hx => h x (.inl hx),
      body.rename_congr fun x hx => h x (.inr hx)]
  | .list items, h => by simp [Expr.rename, renameList_congr items h]
  | .tuple items, h => by simp [Expr.rename, renameList_congr items h]
  | .dict keys values, h => by
    simp only [Expr.parts, has_append] at h
    simp [Expr.rename, renameList_congr keys fun x hx => h x (.inl hx),
      renameList_congr values fun x hx => h x (.inr hx)]
  | .subscript value index, h => by
    simp only [Expr.parts, has_append] at h
    simp [Expr.rename, value.rename_congr fun x hx => h x (.inl hx),
      index.rename_congr fun x hx => h x (.inr hx)]

theorem renameList_congr : ∀ es : List Expr, (∀ x, Has (partsOfList es) x → ρ x = ρ' x) →
    renameList ρ es = renameList ρ' es
  | [], _ => rfl
  | e :: rest, h => by
    simp only [partsOfList, has_append] at h
    simp [renameList, e.rename_congr fun x hx => h x (.inl hx),
      renameList_congr rest fun x hx => h x (.inr hx)]

theorem renameBindings_congr : ∀ bs : List (String × Expr),
    (∀ x, Has (partsOfBindings bs) x → ρ x = ρ' x) → renameBindings ρ bs = renameBindings ρ' bs
  | [], _ => rfl
  | (y, e) :: rest, h => by
    simp only [partsOfBindings, List.cons_append, has_cons, has_append] at h
    simp [renameBindings, h y (.inl (.inr rfl)), e.rename_congr fun x hx => h x (.inr (.inl hx)),
      renameBindings_congr rest fun x hx => h x (.inr (.inr hx))]

end

theorem renameOption_congr {e : Option Expr} (h : ∀ x, Has (partsOfOption e) x → ρ x = ρ' x) :
    e.map (Expr.rename ρ) = e.map (Expr.rename ρ') := by
  cases e with
  | none => rfl
  | some e => simp [e.rename_congr fun x hx => h x (by simpa [partsOfOption] using hx)]

mutual

theorem Stmt.rename_congr : ∀ s : Stmt, (∀ x, Has s.parts x → ρ x = ρ' x) →
    s.rename ρ = s.rename ρ'
  | .assign target value, h => by
    simp only [Stmt.parts, has_append] at h
    simp [Stmt.rename, target.rename_congr fun x hx => h x (.inl (.inr hx)),
      value.rename_congr fun x hx => h x (.inr hx)]
  | .augAssign target _ value, h => by
    simp only [Stmt.parts, has_append] at h
    simp [Stmt.rename, target.rename_congr fun x hx => h x (.inl (.inr hx)),
      value.rename_congr fun x hx => h x (.inr hx)]
  | .exprStmt value, h => by simp [Stmt.rename, value.rename_congr h]
  | .ifElse condition body orelse, h => by
    simp only [Stmt.parts, has_append] at h
    simp [Stmt.rename, condition.rename_congr fun x hx => h x (.inl (.inl hx)),
      renameBlock_congr body fun x hx => h x (.inl (.inr hx)),
      renameBlock_congr orelse fun x hx => h x (.inr hx)]
  | .whileDo condition body, h => by
    simp only [Stmt.parts, has_append] at h
    simp [Stmt.rename, condition.rename_congr fun x hx => h x (.inl hx),
      renameBlock_congr body fun x hx => h x (.inr hx)]
  | .forIn var iterable body, h => by
    simp only [Stmt.parts, List.cons_append, has_cons, has_append] at h
    simp [Stmt.rename, h var (.inl (.inr rfl)),
      iterable.rename_congr fun x hx => h x (.inr (.inl hx)),
      renameBlock_congr body fun x hx => h x (.inr (.inr hx))]
  | .ret value, h => by simp [Stmt.rename, renameOption_congr (e := value) h]
  | .brk, _ => rfl
  | .cont, _ => rfl

theorem renameBlock_congr : ∀ code : List Stmt, (∀ x, Has (partsOfBlock code) x → ρ x = ρ' x) →
    renameBlock ρ code = renameBlock ρ' code
  | [], _ => rfl
  | s :: rest, h => by
    simp only [partsOfBlock, has_append] at h
    simp [renameBlock, s.rename_congr fun x hx => h x (.inl hx),
      renameBlock_congr rest fun x hx => h x (.inr hx)]

end

theorem Component.rename_congr {c : Component} (h : ∀ x, Has c.parts x → ρ x = ρ' x) :
    c.rename ρ = c.rename ρ' := by
  simp only [Component.parts, has_append, partsOfFields, partsOfMethods, List.flatMap_assoc,
    has_flatMap] at h
  have hfields : c.fields.map (Field.rename ρ) = c.fields.map (Field.rename ρ') := by
    refine List.map_congr_left fun f hf => ?_
    simp [Field.rename, renameOption_congr fun x hx => h x (.inl ⟨f, hf, hx⟩)]
  have hmethods : c.implementations.map
      (fun i => { i with methods := i.methods.map (Method.rename ρ) }) =
      c.implementations.map fun i => { i with methods := i.methods.map (Method.rename ρ') } := by
    refine List.map_congr_left fun i hi => ?_
    have hi' : i.methods.map (Method.rename ρ) = i.methods.map (Method.rename ρ') := by
      refine List.map_congr_left fun m hm => ?_
      simp [Method.rename, renameBlock_congr m.body fun x hx => h x (.inr ⟨i, hi, m, hm, hx⟩)]
    rw [hi']
  simp only [Component.rename, hfields, hmethods]

end Congr

/-! ## One change after another -/

section Compose

variable (ρ ρ' : String → String)

mutual

theorem Expr.rename_rename : ∀ e : Expr, (e.rename ρ).rename ρ' = e.rename (ρ' ∘ ρ)
  | .const _ => rfl
  | .var _ => rfl
  | .typeRef _ _ => rfl
  | .attr obj _ => by simp [Expr.rename, obj.rename_rename]
  | .call func args => by simp [Expr.rename, func.rename_rename, renameList_renameList args]
  | .unary _ value => by simp [Expr.rename, value.rename_rename]
  | .binary _ left right => by simp [Expr.rename, left.rename_rename, right.rename_rename]
  | .ifExpr condition yes no => by
    simp [Expr.rename, condition.rename_rename, yes.rename_rename, no.rename_rename]
  | .isInstance value _ _ => by simp [Expr.rename, value.rename_rename]
  | .annotated value _ => by simp [Expr.rename, value.rename_rename]
  | .letIn bindings body => by
    simp [Expr.rename, renameBindings_renameBindings bindings, body.rename_rename]
  | .list items => by simp [Expr.rename, renameList_renameList items]
  | .tuple items => by simp [Expr.rename, renameList_renameList items]
  | .dict keys values => by
    simp [Expr.rename, renameList_renameList keys, renameList_renameList values]
  | .subscript value index => by simp [Expr.rename, value.rename_rename, index.rename_rename]

theorem renameList_renameList : ∀ es : List Expr,
    renameList ρ' (renameList ρ es) = renameList (ρ' ∘ ρ) es
  | [] => rfl
  | e :: rest => by simp [renameList, e.rename_rename, renameList_renameList rest]

theorem renameBindings_renameBindings : ∀ bs : List (String × Expr),
    renameBindings ρ' (renameBindings ρ bs) = renameBindings (ρ' ∘ ρ) bs
  | [] => rfl
  | (x, e) :: rest => by
    simp [renameBindings, e.rename_rename, renameBindings_renameBindings rest]

end

mutual

theorem Stmt.rename_rename : ∀ s : Stmt, (s.rename ρ).rename ρ' = s.rename (ρ' ∘ ρ)
  | .assign target value => by
    simp [Stmt.rename, target.rename_rename ρ ρ', value.rename_rename ρ ρ']
  | .augAssign target _ value => by
    simp [Stmt.rename, target.rename_rename ρ ρ', value.rename_rename ρ ρ']
  | .exprStmt value => by simp [Stmt.rename, value.rename_rename ρ ρ']
  | .ifElse condition body orelse => by
    simp [Stmt.rename, condition.rename_rename ρ ρ', renameBlock_renameBlock body,
      renameBlock_renameBlock orelse]
  | .whileDo condition body => by
    simp [Stmt.rename, condition.rename_rename ρ ρ', renameBlock_renameBlock body]
  | .forIn _ iterable body => by
    simp [Stmt.rename, iterable.rename_rename ρ ρ', renameBlock_renameBlock body]
  | .ret value => by
    cases value with
    | none => rfl
    | some e => simp [Stmt.rename, e.rename_rename ρ ρ']
  | .brk => rfl
  | .cont => rfl

theorem renameBlock_renameBlock : ∀ code : List Stmt,
    renameBlock ρ' (renameBlock ρ code) = renameBlock (ρ' ∘ ρ) code
  | [] => rfl
  | s :: rest => by simp [renameBlock, s.rename_rename, renameBlock_renameBlock rest]

end

theorem renameOption_renameOption (e : Option Expr) :
    (e.map (Expr.rename ρ)).map (Expr.rename ρ') = e.map (Expr.rename (ρ' ∘ ρ)) := by
  cases e with
  | none => rfl
  | some e => simp [e.rename_rename ρ ρ']

theorem Component.rename_rename (c : Component) : (c.rename ρ).rename ρ' = c.rename (ρ' ∘ ρ) := by
  have hfield (f : Field) : (f.rename ρ).rename ρ' = f.rename (ρ' ∘ ρ) := by
    simp [Field.rename, renameOption_renameOption ρ ρ' f.default]
  have hmethod (m : Method) : (m.rename ρ).rename ρ' = m.rename (ρ' ∘ ρ) := by
    simp [Method.rename, renameBlock_renameBlock]
  simp [Component.rename, Function.comp_def, hfield, hmethod]

end Compose

section Identity

mutual

theorem Expr.rename_id : ∀ e : Expr, e.rename id = e
  | .const _ => rfl
  | .var _ => rfl
  | .typeRef _ _ => rfl
  | .attr obj _ => by simp [Expr.rename, obj.rename_id]
  | .call func args => by simp [Expr.rename, func.rename_id, renameList_id args]
  | .unary _ value => by simp [Expr.rename, value.rename_id]
  | .binary _ left right => by simp [Expr.rename, left.rename_id, right.rename_id]
  | .ifExpr condition yes no => by
    simp [Expr.rename, condition.rename_id, yes.rename_id, no.rename_id]
  | .isInstance value _ _ => by simp [Expr.rename, value.rename_id]
  | .annotated value _ => by simp [Expr.rename, value.rename_id]
  | .letIn bindings body => by simp [Expr.rename, renameBindings_id bindings, body.rename_id]
  | .list items => by simp [Expr.rename, renameList_id items]
  | .tuple items => by simp [Expr.rename, renameList_id items]
  | .dict keys values => by simp [Expr.rename, renameList_id keys, renameList_id values]
  | .subscript value index => by simp [Expr.rename, value.rename_id, index.rename_id]

theorem renameList_id : ∀ es : List Expr, renameList id es = es
  | [] => rfl
  | e :: rest => by simp [renameList, e.rename_id, renameList_id rest]

theorem renameBindings_id : ∀ bs : List (String × Expr), renameBindings id bs = bs
  | [] => rfl
  | (x, e) :: rest => by simp [renameBindings, e.rename_id, renameBindings_id rest]

end

theorem renameOption_id (e : Option Expr) : e.map (Expr.rename id) = e := by
  cases e with
  | none => rfl
  | some e => simp [e.rename_id]

mutual

theorem Stmt.rename_id : ∀ s : Stmt, s.rename id = s
  | .assign target value => by simp [Stmt.rename, target.rename_id, value.rename_id]
  | .augAssign target _ value => by simp [Stmt.rename, target.rename_id, value.rename_id]
  | .exprStmt value => by simp [Stmt.rename, value.rename_id]
  | .ifElse condition body orelse => by
    simp [Stmt.rename, condition.rename_id, renameBlock_id body, renameBlock_id orelse]
  | .whileDo condition body => by simp [Stmt.rename, condition.rename_id, renameBlock_id body]
  | .forIn _ iterable body => by simp [Stmt.rename, iterable.rename_id, renameBlock_id body]
  | .ret value => by simp [Stmt.rename, renameOption_id value]
  | .brk => rfl
  | .cont => rfl

theorem renameBlock_id : ∀ code : List Stmt, renameBlock id code = code
  | [] => rfl
  | s :: rest => by simp [renameBlock, s.rename_id, renameBlock_id rest]

end

theorem Component.rename_id (c : Component) : c.rename id = c := by
  have hfield (f : Field) : f.rename id = f := by simp [Field.rename, renameOption_id]
  have hmethod (m : Method) : m.rename id = m := by simp [Method.rename, renameBlock_id]
  simp [Component.rename, funext hfield, funext hmethod]

end Identity

/-! ## Things with code -/

/-- Things that hold code whose variables can be renamed. -/
class Coded (α : Type) where
  parts : α → List Part
  rename : (String → String) → α → α
  rename_congr : ∀ {ρ ρ' : String → String} {a : α}, (∀ x, Has (parts a) x → ρ x = ρ' x) →
    rename ρ a = rename ρ' a
  rename_rename : ∀ (ρ ρ' : String → String) (a : α), rename ρ' (rename ρ a) = rename (ρ' ∘ ρ) a
  rename_id : ∀ a : α, rename id a = a

instance : Coded Global where
  parts g := partsOfOption g.value
  rename := Global.rename
  rename_congr h := by simp [Global.rename, renameOption_congr h]
  rename_rename ρ ρ' g := by simp [Global.rename, renameOption_renameOption ρ ρ' g.value]
  rename_id g := by simp [Global.rename, renameOption_id]

instance : Coded Function where
  parts f := partsOfBlock f.body
  rename := Function.rename
  rename_congr h := by simp [Function.rename, renameBlock_congr _ h]
  rename_rename ρ ρ' f := by simp [Function.rename, renameBlock_renameBlock]
  rename_id f := by simp [Function.rename, renameBlock_id]

instance : Coded Component where
  parts := Component.parts
  rename := Component.rename
  rename_congr := Component.rename_congr
  rename_rename := Component.rename_rename
  rename_id := Component.rename_id

end Ir

end Componentry
