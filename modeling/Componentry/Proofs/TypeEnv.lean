import Componentry.Dispatch.Plan
import Componentry.Proofs.Registry

/-!
# What environments know

The view of an environment is what it holds for each name and which names are declared. The first
part says what `bind`, `declare`, `forget` and `merge` do to that view.

**The invariant** (`TypeEnv.Within`). Every type that an environment knows is registered. All
operations keep it, and then `resolve` only gives registered types (`resolve_mem`).
-/

namespace Componentry

namespace Table

variable {α : Type}

theorem mem_keys_iff (t : Table α) (x : String) : x ∈ t.keys ↔ (t.get? x).isSome := by
  obtain ⟨es⟩ := t
  simp only [keys, get?]
  induction es with
  | nil => simp [findEntry]
  | cons e rest ih =>
    obtain ⟨k, v⟩ := e
    by_cases h : k = x
    · simp [findEntry, h]
    · simp [findEntry, h, ih, Ne.symm h]

theorem findEntry_map (names : List String) (f : String → α) (x : String) :
    findEntry x (names.map fun name => (name, f name)) =
      if x ∈ names then some (f x) else none := by
  induction names with
  | nil => rfl
  | cons n rest ih =>
    by_cases h : n = x
    · simp [findEntry, h]
    · simp [findEntry, h, ih, Ne.symm h]

end Table

namespace TypeEnv

/-! ## The view -/

section View

variable (env : TypeEnv) (x y : String) (T : Option HostType)

@[simp] theorem get?_bind :
    (env.bind x T).locals.get? y = if y = x then some T else env.locals.get? y := by
  simp [bind]

@[simp] theorem isDeclared_bind : (env.bind x T).isDeclared y = env.isDeclared y := rfl

@[simp] theorem get?_declare :
    (env.declare x T).locals.get? y = if y = x then some T else env.locals.get? y :=
  env.get?_bind x y T

@[simp] theorem isDeclared_declare :
    (env.declare x T).isDeclared y = true ↔ y = x ∨ env.isDeclared y = true := by
  by_cases hx : x ∈ env.declared
  · have hmem : y = x → y ∈ env.declared := by rintro rfl; exact hx
    simpa [declare, isDeclared, hx] using hmem
  · simp [declare, isDeclared, hx, or_comm]

@[simp] theorem localType_bind :
    (env.bind x T).localType y = if y = x then T else env.localType y := by
  rw [localType, get?_bind]
  split_ifs <;> rfl

@[simp] theorem localType_declare :
    (env.declare x T).localType y = if y = x then T else env.localType y :=
  env.localType_bind x y T

@[simp] theorem isDeclared_forget (names : List String) :
    (env.forget names).isDeclared x = env.isDeclared x := rfl

@[simp] theorem get?_forget (names : List String) :
    (env.forget names).locals.get? x =
      if x ∈ names ∧ env.isDeclared x = false then some none else env.locals.get? x := by
  simp only [forget]
  generalize env.locals = table
  induction names generalizing table with
  | nil => simp
  | cons n rest ih =>
    rw [List.foldl_cons, ih]
    by_cases hd : env.isDeclared x = true <;> by_cases hn : env.isDeclared n = true
    · simp [hd, hn]
    · have hne : x ≠ n := by rintro rfl; exact hn hd
      simp [hd, hn, hne]
    · have hne : x ≠ n := by rintro rfl; exact hd hn
      simp [hd, hn, hne]
    · by_cases hx : x = n <;> by_cases hr : x ∈ rest <;> simp [hd, hn, hx, hr]

theorem localType_forget (names : List String) :
    (env.forget names).localType x =
      if x ∈ names ∧ env.isDeclared x = false then none else env.localType x := by
  rw [localType, get?_forget]
  split_ifs <;> rfl

theorem isDeclared_merge (branches : List TypeEnv) :
    (env.merge branches).isDeclared x = true ↔
      env.isDeclared x = true ∨ ∃ b ∈ branches, b.isDeclared x = true := by
  simp [merge, isDeclared]

/-- A join binds the names that some path binds. -/
theorem get?_merge (branches : List TypeEnv) :
    (env.merge branches).locals.get? x =
      if (∃ e ∈ env :: branches, (e.locals.get? x).isSome) then some (joined env branches x)
      else none := by
  simp only [merge, Table.get?]
  rw [Table.findEntry_map]
  congr 1
  simp [Table.mem_keys_iff, Table.get?]

theorem localType_eq_some {U : HostType} :
    env.localType x = some U ↔ env.locals.get? x = some (some U) := by
  simp [localType, Option.join_eq_some_iff]

theorem agreed_eq_some {branches : List TypeEnv} {U : HostType} (h : agreed branches x = some U) :
    branches ≠ [] ∧ ∀ b ∈ branches, b.locals.get? x = some (some U) := by
  cases branches with
  | nil => simp [agreed] at h
  | cons b rest =>
    refine ⟨by simp, ?_⟩
    simp only [agreed, List.map_cons] at h
    split at h
    · next type rest' heq =>
      obtain ⟨hb, rfl⟩ := List.cons.inj heq
      split_ifs at h with hall
      subst h
      intro b' hb'
      rcases List.mem_cons.mp hb' with rfl | hb'
      · exact hb
      · simpa using List.all_eq_true.mp hall _ (List.mem_map_of_mem hb')
    · simp at h

theorem agreed_of_forall {branches : List TypeEnv} {type : Option HostType} (hne : branches ≠ [])
    (h : ∀ b ∈ branches, b.locals.get? x = some type) : agreed branches x = type := by
  cases branches with
  | nil => exact absurd rfl hne
  | cons b rest =>
    have hb : b.locals.get? x = some type := h b List.mem_cons_self
    have hrest : (rest.map (·.locals.get? x)).all (· == some type) = true := by
      simpa using fun b' hb' => h b' (List.mem_cons_of_mem b hb')
    simp [agreed, hb, hrest]

end View

/-! ## Joins -/

section Joins

variable {env : TypeEnv} {branches : List TypeEnv} {x : String} {U : HostType}

theorem localType_merge (hx : env.isDeclared x = true) :
    (env.merge branches).localType x = env.localType x := by
  rw [localType, get?_merge, joined, if_pos hx]
  split_ifs with h
  · rfl
  · have hnone : env.locals.get? x = none := by simpa using fun hs => h ⟨env, by simp, hs⟩
    simp [localType, hnone]

/-- A known type after a join comes from the start or from every branch. -/
theorem get?_merge_eq_some (h : (env.merge branches).locals.get? x = some (some U)) :
    (env.isDeclared x = true ∧ env.locals.get? x = some (some U)) ∨
      (env.isDeclared x = false ∧ branches ≠ [] ∧
        ∀ b ∈ branches, b.locals.get? x = some (some U)) := by
  rw [get?_merge] at h
  split_ifs at h
  have h : joined env branches x = some U := by simpa using h
  rw [joined] at h
  split_ifs at h with hd
  · exact Or.inl ⟨hd, (env.localType_eq_some x).mp h⟩
  · exact Or.inr ⟨by simpa using hd, agreed_eq_some x h⟩

theorem get?_merge_of_forall (hne : branches ≠ [])
    (h : ∀ b ∈ branches, b.locals.get? x = env.locals.get? x) :
    (env.merge branches).locals.get? x = env.locals.get? x := by
  rw [get?_merge]
  cases hx : env.locals.get? x with
  | none =>
    rw [if_neg]
    rintro ⟨e, he, hs⟩
    rcases List.mem_cons.mp he with rfl | he
    · simp [hx] at hs
    · simp [h e he, hx] at hs
  | some type =>
    rw [if_pos ⟨env, by simp, by simp [hx]⟩, joined]
    split_ifs
    · simp [localType, hx]
    · rw [agreed_of_forall x hne fun b hb => (h b hb).trans hx]

/-- A loop joins the start and the end of its body. A name is then as it was at the start if a
type that is known there is the same at the end. -/
theorem get?_merge_round {last : TypeEnv} {type : Option HostType}
    (hx : env.locals.get? x = some type) (hlast : ∀ U ∈ type, last.locals.get? x = some (some U)) :
    (env.merge [env, last]).locals.get? x = some type := by
  cases type with
  | none =>
    rw [get?_merge, if_pos ⟨env, by simp, by simp [hx]⟩, joined]
    split_ifs
    · simp [localType, hx]
    · simp [agreed, hx]
  | some U =>
    rw [get?_merge_of_forall (by simp) (by simp [hx, hlast U rfl]), hx]

end Joins

/-! ## Registered types -/

/-- Every type that the environment knows is registered. -/
structure Within (r : Registry) (env : TypeEnv) : Prop where
  locals : ∀ x U, env.locals.get? x = some (some U) → U ∈ r.types
  globals : ∀ x U, env.globals.get? x = some (some U) → U ∈ r.types

namespace Within

variable {r : Registry} {env : TypeEnv} {x : String} {T : Option HostType}

theorem bind (h : env.Within r) (hT : ∀ U ∈ T, U ∈ r.types) : (env.bind x T).Within r := by
  refine ⟨fun y U hy => ?_, h.globals⟩
  rw [get?_bind] at hy
  split_ifs at hy
  · exact hT U (Option.some.inj hy)
  · exact h.locals y U hy

theorem declare (h : env.Within r) (hT : ∀ U ∈ T, U ∈ r.types) : (env.declare x T).Within r :=
  ⟨(h.bind hT).locals, h.globals⟩

theorem forget (h : env.Within r) (names : List String) : (env.forget names).Within r := by
  refine ⟨fun y U hy => ?_, h.globals⟩
  rw [get?_forget] at hy
  split_ifs at hy
  · simp at hy
  · exact h.locals y U hy

theorem merge (h : env.Within r) {branches : List TypeEnv} (hb : ∀ b ∈ branches, b.Within r) :
    (env.merge branches).Within r := by
  refine ⟨fun y U hy => ?_, h.globals⟩
  rcases get?_merge_eq_some hy with ⟨-, hy⟩ | ⟨-, hne, hy⟩
  · exact h.locals y U hy
  · obtain ⟨b, hmem⟩ := List.exists_mem_of_ne_nil branches hne
    exact (hb b hmem).locals y U (hy b hmem)

end Within

/-! ## Declared types -/

/-- The known types of declared names have the property `P`. -/
def Justified (P : String → HostType → Prop) (env : TypeEnv) : Prop :=
  ∀ x T, env.isDeclared x = true → env.localType x = some T → P x T

end TypeEnv

/-! ## Types of expressions -/

section Resolve

variable {r : Registry} {env : TypeEnv} {T : HostType}

theorem literalType_mem {value : Ir.Literal} (h : literalType r value = some T) : T ∈ r.types := by
  cases value with
  | none => simp [literalType] at h
  | _ => exact Registry.mem_of_lookup h

theorem fieldType_mem {U : HostType} {field : String} (h : r.fieldType U field = some T) :
    T ∈ r.types := by
  simp only [Registry.fieldType, Option.bind_eq_some_iff] at h
  obtain ⟨designator, -, h⟩ := h
  exact Registry.mem_of_lookup h

theorem nameType_bind (env : TypeEnv) (x y : String) (type : Option HostType) :
    nameType (env.bind x type) y = if y = x then type else nameType env y := by
  by_cases hy : y = x <;>
    simp [nameType, TypeEnv.isLocal, Table.contains, TypeEnv.localType, TypeEnv.bind, hy]

theorem nameType_mem (henv : env.Within r) {x : String} (h : nameType env x = some T) :
    T ∈ r.types := by
  unfold nameType at h
  split_ifs at h
  · exact henv.locals x T ((env.localType_eq_some x).mp h)
  · exact henv.globals x T (Option.join_eq_some_iff.mp h)

/-- **Static types are registered.** -/
theorem resolve_mem (henv : env.Within r) {e : Ir.Expr} (h : resolve r env e = some T) :
    T ∈ r.types := by
  unfold resolve at h
  split at h
  · exact Registry.mem_of_lookup h
  · exact literalType_mem h
  · exact Registry.mem_of_lookup h
  · exact nameType_mem henv h
  · obtain ⟨U, -, h⟩ := Option.bind_eq_some_iff.mp h
    exact fieldType_mem h
  · simp at h

theorem mostSpecific_mem {types : List (Option HostType)}
    (h : ∀ candidate ∈ types, ∀ U ∈ candidate, U ∈ r.types) :
    ∀ U ∈ mostSpecific r types, U ∈ r.types := by
  have hfold : ∀ champion : Option HostType, (∀ U ∈ champion, U ∈ r.types) →
      ∀ U ∈ types.foldl (challenge r) champion, U ∈ r.types := by
    induction types with
    | nil => exact fun _ hchampion => hchampion
    | cons candidate rest ih =>
      obtain ⟨hcandidate, hrest⟩ := List.forall_mem_cons.mp h
      intro champion hchampion
      refine ih hrest (challenge r champion candidate) ?_
      unfold challenge
      split
      · exact hchampion
      · exact hcandidate
      · split_ifs
        · exact hcandidate
        · exact hchampion
  exact hfold none (by simp)

theorem subjectType_mem (henv : env.Within r) {value : Ir.Expr} {bindType : Option HostType}
    (hbind : ∀ U ∈ bindType, U ∈ r.types) :
    ∀ U ∈ subjectType r env value bindType, U ∈ r.types := by
  refine mostSpecific_mem ?_
  simpa using ⟨fun U hU => resolve_mem henv hU, hbind⟩

end Resolve

end Componentry
