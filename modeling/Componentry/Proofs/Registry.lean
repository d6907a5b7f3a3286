import Componentry.Host.Model
import Mathlib.Data.List.Infix

/-!
# The registry is a forest

A type enters a registry under a new full name and after its base. We call a list of registrations
with this property a `Forest`, and show that every registry that grows by `register` and
`registerComponent` holds one.

In a forest the ancestors of a type are determined by its full name, and the ancestors of an
ancestor are a suffix of them. So `isSubtype` is the suffix order of ancestor lists
(`isSubtype_iff_suffix`), from which it is reflexive and transitive, and any two bases of one type
are comparable (`isSubtype_or_of_common`). The last fact is what makes it right to drop unrelated
clauses of a dispatch.
-/

namespace Componentry.Registry

/-! ## Histories -/

/-- The registries that grow from the empty one by accepted requests. -/
inductive Reachable : Registry → Prop
  | empty : Reachable .empty
  | register {r r' : Registry} {t : HostType} {aliases : List String} :
      Reachable r → r.register t aliases = .ok r' → Reachable r'
  | registerComponent {r r' : Registry} {t : HostType} {name base : String} {methods : List String}
      {fields : List (String × String)} :
      Reachable r → r.registerComponent name base methods fields = .ok (t, r') → Reachable r'

/-- Registrations, newest first, in which every full name is new and every base is older. -/
def Forest : List HostType → Prop
  | [] => True
  | t :: older =>
    (∀ u ∈ older, u.fullName ≠ t.fullName) ∧ (∀ b ∈ t.base, ∃ u ∈ older, u.fullName = b) ∧
      Forest older

theorem find?_isSome {r : Registry} {n : String} :
    (r.find? n).isSome ↔ ∃ t ∈ r.types, t.fullName = n := by
  simp [find?, List.find?_isSome]

theorem mem_of_find? {r : Registry} {n : String} {t : HostType} (h : r.find? n = some t) :
    t ∈ r.types ∧ t.fullName = n :=
  ⟨List.mem_of_find?_eq_some h, by simpa using List.find?_some h⟩

theorem mem_of_lookup {r : Registry} {d : String} {t : HostType} (h : r.lookup d = some t) :
    t ∈ r.types := by
  unfold lookup at h
  split at h
  · next u hu =>
    obtain rfl : u = t := by simpa using h
    exact (mem_of_find? hu).1
  · obtain ⟨full, -, hfull⟩ := Option.bind_eq_some_iff.mp h
    exact (mem_of_find? hfull).1

theorem ensure_eq_ok {r : Registry} {d : String} {t : HostType} :
    r.ensure d = .ok t ↔ r.lookup d = some t := by
  unfold ensure
  split <;> simp_all

theorem register_eq_ok {r r' : Registry} {t : HostType} {aliases : List String}
    (h : r.register t aliases = .ok r') :
    r' = r.add t aliases ∧ (∀ u ∈ r.types, u.fullName ≠ t.fullName) ∧
      ∀ b ∈ t.base, ∃ u ∈ r.types, u.fullName = b := by
  unfold register at h
  split at h
  · exact absurd h (by simp)
  next hnew =>
    have hnew : ∀ u ∈ r.types, u.fullName ≠ t.fullName := fun u hu he =>
      hnew (find?_isSome.mpr ⟨u, hu, he⟩)
    split at h
    · next hb => exact ⟨by simpa using h.symm, hnew, by simp [hb]⟩
    · next b hb =>
      split at h
      · next hbase =>
        refine ⟨by simpa using h.symm, hnew, fun b' hb' => ?_⟩
        obtain rfl : b = b' := by simpa [hb] using hb'
        exact find?_isSome.mp hbase
      · exact absurd h (by simp)

/-- An accepted component is registered under its base's full name. -/
theorem registerComponent_eq_ok {r r' : Registry} {t : HostType} {name base : String}
    {methods : List String} {fields : List (String × String)}
    (h : r.registerComponent name base methods fields = .ok (t, r')) :
    r.register t [] = .ok r' ∧ r.lookup name = none ∧
      ∃ u, r.lookup base = some u ∧
        t = { name, fullName := name, base := some u.fullName, methods, fields, codeName := name,
              serializable := true } := by
  unfold registerComponent at h
  cases hb : r.ensure base with
  | error e => simp [hb, bind, Except.bind] at h
  | ok u =>
    rw [hb] at h
    simp only [bind, Except.bind] at h
    split at h
    · exact absurd h (by simp)
    next hn =>
      split at h
      · exact absurd h (by simp)
      next r₁ hr₁ =>
        obtain ⟨rfl, rfl⟩ : _ ∧ r₁ = r' := by simpa using h
        exact ⟨hr₁, by simpa using hn, u, ensure_eq_ok.mp hb, rfl⟩

theorem Reachable.forest {r : Registry} (h : r.Reachable) : Forest r.types := by
  induction h with
  | empty => trivial
  | register _ h ih =>
    obtain ⟨rfl, hnew, hbase⟩ := register_eq_ok h
    exact ⟨hnew, hbase, ih⟩
  | registerComponent _ h ih =>
    obtain ⟨rfl, hnew, hbase⟩ := register_eq_ok (registerComponent_eq_ok h).1
    exact ⟨hnew, hbase, ih⟩

/-! ## Ancestors -/

theorem Forest.nodup {ts : List HostType} (hf : Forest ts) :
    (ts.map HostType.fullName).Nodup := by
  induction ts with
  | nil => exact List.nodup_nil
  | cons t older ih =>
    refine List.nodup_cons.mpr ⟨fun hmem => ?_, ih hf.2.2⟩
    obtain ⟨u, hu, heq⟩ := List.mem_map.mp hmem
    exact hf.1 u hu heq

theorem Forest.eq_of_fullName {ts : List HostType} (hf : Forest ts) {t u : HostType} (ht : t ∈ ts)
    (hu : u ∈ ts) (h : t.fullName = u.fullName) : t = u := by
  induction ts with
  | nil => simp at ht
  | cons s older ih =>
    rcases List.mem_cons.mp ht with rfl | ht' <;> rcases List.mem_cons.mp hu with rfl | hu'
    · rfl
    · exact absurd h.symm (hf.1 u hu')
    · exact absurd h (hf.1 t ht')
    · exact ih hf.2.2 ht' hu'

theorem Forest.base_mem {ts : List HostType} (hf : Forest ts) {t : HostType} (ht : t ∈ ts)
    {b : String} (hb : b ∈ t.base) : ∃ u ∈ ts, u.fullName = b := by
  induction ts with
  | nil => simp at ht
  | cons s older ih =>
    rcases List.mem_cons.mp ht with rfl | ht
    · obtain ⟨u, hu, rfl⟩ := hf.2.1 b hb
      exact ⟨u, List.mem_cons_of_mem _ hu, rfl⟩
    · obtain ⟨u, hu, rfl⟩ := ih hf.2.2 ht
      exact ⟨u, List.mem_cons_of_mem _ hu, rfl⟩

theorem mem_of_mem_chain {ts : List HostType} {n : Option String} {u : HostType}
    (h : u ∈ chain ts n) : u ∈ ts := by
  fun_induction chain ts n with
  | case1 => simp at h
  | case2 => simp at h
  | case3 t older ih =>
    rcases List.mem_cons.mp h with rfl | h
    · exact List.mem_cons_self
    · exact List.mem_cons_of_mem _ (ih h)
  | case4 t older n _ ih => exact List.mem_cons_of_mem _ (ih h)

/-- A registration is passed over by the search for a name that an older one has. -/
theorem Forest.chain_cons {s : HostType} {older : List HostType} (hf : Forest (s :: older))
    {n : Option String} (hn : ∀ m ∈ n, ∃ u ∈ older, u.fullName = m) :
    chain (s :: older) n = chain older n := by
  cases n with
  | none => cases older <;> rfl
  | some m =>
    obtain ⟨u, hu, rfl⟩ := hn m rfl
    rw [chain, if_neg (hf.1 u hu).symm]

/-- The search for a registered name finds its type and goes on with the base. -/
theorem Forest.chain_fullName {ts : List HostType} (hf : Forest ts) {t : HostType} (ht : t ∈ ts) :
    chain ts (some t.fullName) = t :: chain ts t.base := by
  induction ts with
  | nil => simp at ht
  | cons s older ih =>
    rcases List.mem_cons.mp ht with rfl | ht
    · rw [hf.chain_cons hf.2.1, chain, if_pos rfl]
    · rw [hf.chain_cons fun b hb => hf.2.2.base_mem ht hb, hf.chain_cons, ih hf.2.2 ht]
      rintro _ ⟨⟩
      exact ⟨t, ht, rfl⟩

theorem Forest.chain_suffix {ts : List HostType} (hf : Forest ts) {n : Option String} {u : HostType}
    (hu : u ∈ chain ts n) : chain ts (some u.fullName) <:+ chain ts n := by
  induction ts generalizing n with
  | nil => exact absurd (mem_of_mem_chain hu) List.not_mem_nil
  | cons s older ih =>
    cases n with
    | none => simp [chain] at hu
    | some m =>
      rw [chain] at hu
      by_cases hm : s.fullName = m
      · rw [if_pos hm] at hu
        rcases List.mem_cons.mp hu with rfl | hu
        · rw [hm]
        · rw [hf.chain_cons (by rintro _ ⟨⟩; exact ⟨u, mem_of_mem_chain hu, rfl⟩), chain, if_pos hm]
          exact (ih hf.2.2 hu).trans (List.suffix_cons _ _)
      · rw [if_neg hm] at hu
        rw [hf.chain_cons (by rintro _ ⟨⟩; exact ⟨u, mem_of_mem_chain hu, rfl⟩), chain, if_neg hm]
        exact ih hf.2.2 hu

section Order

variable {r : Registry} {s t u : HostType}

theorem ancestors_eq_chain (hf : Forest r.types) (ht : t ∈ r.types) :
    r.ancestors t = chain r.types (some t.fullName) :=
  (hf.chain_fullName ht).symm

theorem mem_of_mem_ancestors (ht : t ∈ r.types) (hu : u ∈ r.ancestors t) : u ∈ r.types := by
  rcases List.mem_cons.mp hu with rfl | hu
  · exact ht
  · exact mem_of_mem_chain hu

theorem isSubtype_iff_mem (hf : Forest r.types) (hs : s ∈ r.types) (ht : t ∈ r.types) :
    r.isSubtype s t = true ↔ t ∈ r.ancestors s := by
  constructor
  · intro h
    obtain ⟨u, hu, hn⟩ := List.any_eq_true.mp h
    have hut : u = t := hf.eq_of_fullName (mem_of_mem_ancestors hs hu) ht (by simpa using hn)
    exact hut ▸ hu
  · exact fun h => List.any_eq_true.mpr ⟨t, h, by simp⟩

/-- **Subtyping is the suffix order of ancestors.** -/
theorem isSubtype_iff_suffix (hf : Forest r.types) (hs : s ∈ r.types) (ht : t ∈ r.types) :
    r.isSubtype s t = true ↔ r.ancestors t <:+ r.ancestors s := by
  rw [isSubtype_iff_mem hf hs ht]
  constructor
  · intro h
    rw [ancestors_eq_chain hf hs] at h ⊢
    rw [ancestors_eq_chain hf ht]
    exact hf.chain_suffix h
  · exact fun h => h.subset List.mem_cons_self

theorem isSubtype_refl (r : Registry) (t : HostType) : r.isSubtype t t = true := by
  simp [isSubtype, ancestors]

theorem isSubtype_trans (hf : Forest r.types) (hs : s ∈ r.types) (ht : t ∈ r.types)
    (hu : u ∈ r.types) (hst : r.isSubtype s t = true) (htu : r.isSubtype t u = true) :
    r.isSubtype s u = true := by
  rw [isSubtype_iff_suffix hf hs ht] at hst
  rw [isSubtype_iff_suffix hf ht hu] at htu
  exact (isSubtype_iff_suffix hf hs hu).mpr (htu.trans hst)

/-- **Two bases of one type are comparable.** -/
theorem isSubtype_or_of_common (hf : Forest r.types) (hs : s ∈ r.types) (ht : t ∈ r.types)
    (hu : u ∈ r.types) (hst : r.isSubtype s t = true) (hsu : r.isSubtype s u = true) :
    r.isSubtype t u = true ∨ r.isSubtype u t = true := by
  rw [isSubtype_iff_suffix hf hs ht] at hst
  rw [isSubtype_iff_suffix hf hs hu] at hsu
  rw [isSubtype_iff_suffix hf ht hu, isSubtype_iff_suffix hf hu ht]
  exact (List.suffix_or_suffix_of_suffix hst hsu).symm

theorem areRelated_of_common (hf : Forest r.types) (hs : s ∈ r.types) (ht : t ∈ r.types)
    (hu : u ∈ r.types) (hst : r.isSubtype s t = true) (hsu : r.isSubtype s u = true) :
    r.areRelated t u = true := by
  simpa [areRelated] using isSubtype_or_of_common hf hs ht hu hst hsu

end Order

theorem ancestors_add {r : Registry} {t u : HostType} {aliases : List String}
    (hf : Forest (r.add t aliases).types) (hu : u ∈ r.types) :
    (r.add t aliases).ancestors u = r.ancestors u := by
  have hbase : ∀ b ∈ u.base, ∃ v ∈ r.types, v.fullName = b := fun b hb => hf.2.2.base_mem hu hb
  simp only [ancestors]
  rw [show (r.add t aliases).types = t :: r.types from rfl, hf.chain_cons hbase]

/-! ## The built-in types -/

theorem Reachable.foldlM {r r' : Registry} (h : r.Reachable)
    (entries : List (HostType × List String))
    (hr' : entries.foldlM (fun r entry => r.register entry.1 entry.2) r = .ok r') :
    r'.Reachable := by
  induction entries generalizing r with
  | nil =>
    obtain rfl : r = r' := by simpa [pure, Except.pure] using hr'
    exact h
  | cons entry rest ih =>
    rw [List.foldlM_cons] at hr'
    cases hentry : r.register entry.1 entry.2 with
    | error e => simp [hentry, bind, Except.bind] at hr'
    | ok r₁ => exact ih (.register h hentry) (by simpa [hentry, bind, Except.bind] using hr')

/-- The built-in types are registered one by one, none of them refused. -/
theorem builtin_reachable : Reachable Host.builtin :=
  Reachable.empty.foldlM Host.builtinTypes rfl

end Componentry.Registry
