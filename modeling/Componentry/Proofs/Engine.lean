import Componentry.Proofs.Registry

/-!
# Registries of the host

A session starts with the built-in types and adds the components that sources declare, all of them
below `MonoBehaviour`. So the built-in types stay what they are, and what is true of all
components is true of new ones.

**Theorem (`Engine.shape_of_hasMethod`).** Only game objects and components have the method that
answers lookups.
-/

namespace Componentry.Host

/-- Registries of the built-in types and of components. -/
inductive Engine : Registry → Prop
  | builtin : Engine Host.builtin
  | component {r r' : Registry} {t u : HostType} {name base : String} {methods : List String}
      {fields : List (String × String)} : Engine r →
      r.registerComponent name base methods fields = .ok (t, r') → r.lookup base = some u →
      u.fullName = monoBehaviourName → Engine r'

namespace Engine

variable {r : Registry}

theorem reachable (h : Engine r) : r.Reachable := by
  induction h with
  | builtin => exact Registry.builtin_reachable
  | component _ hok _ _ ih => exact .registerComponent ih hok

/-- The type of a component stands on top of the types that were there before. -/
theorem add_of_registerComponent {r' : Registry} {t u : HostType} {name base : String}
    {methods : List String} {fields : List (String × String)}
    (hok : r.registerComponent name base methods fields = .ok (t, r'))
    (hu : r.lookup base = some u) :
    r' = r.add t [] ∧ (∀ v ∈ r.types, v.fullName ≠ t.fullName) ∧ t.base = some u.fullName := by
  obtain ⟨hregister, -, u', hu', rfl⟩ := Registry.registerComponent_eq_ok hok
  obtain ⟨rfl, hnew, -⟩ := Registry.register_eq_ok hregister
  obtain rfl : u = u' := Option.some.inj (hu.symm.trans hu')
  exact ⟨rfl, hnew, rfl⟩

theorem find?_eq (h : Engine r) {n : String} {u : HostType} (hu : Host.builtin.find? n = some u) :
    r.find? n = some u := by
  induction h with
  | builtin => exact hu
  | @component r r' t v name base methods fields _ hok hbase _ ih =>
    obtain ⟨rfl, hnew, -⟩ := add_of_registerComponent hok hbase
    obtain ⟨hmem, hname⟩ := Registry.mem_of_find? ih
    have hne : t.fullName ≠ n := fun heq => hnew u hmem (hname.trans heq.symm)
    simpa [Registry.find?, Registry.add, hne] using ih

theorem lookup_eq (h : Engine r) {n : String} {u : HostType} (hu : Host.builtin.find? n = some u) :
    r.lookup n = some u := by
  simp [Registry.lookup, h.find?_eq hu]

/-- A component is above every component that a source declares. -/
theorem component_above (h : Engine r) :
    (Registry.chain r.types (some monoBehaviourName)).any (·.fullName == componentName) = true := by
  induction h with
  | builtin => decide +kernel
  | @component r r' t u name base methods fields hr hok hbase hmono ih =>
    have hf : Registry.Forest r'.types := (hr.component hok hbase hmono).reachable.forest
    obtain ⟨rfl, -, -⟩ := add_of_registerComponent hok hbase
    have hknown : ∀ m ∈ some monoBehaviourName, ∃ v ∈ r.types, v.fullName = m := by
      rintro m ⟨⟩
      exact ⟨u, Registry.mem_of_lookup hbase, hmono⟩
    rw [show (r.add t []).types = t :: r.types from rfl, hf.chain_cons hknown]
    exact ih

/-- **Only game objects and components answer lookups.** -/
theorem shape_of_hasMethod (h : Engine r) {T : HostType} (hT : T ∈ r.types)
    (hmethod : r.hasMethod T accessMethod = true) :
    ∃ s ∈ ObjectShape.all, (r.ancestors T).any (·.fullName == s.fullName) = true := by
  induction h with
  | builtin =>
    have hall : ∀ T ∈ Host.builtin.types, Host.builtin.hasMethod T accessMethod = true →
        ∃ s ∈ ObjectShape.all,
          (Host.builtin.ancestors T).any (·.fullName == s.fullName) = true := by
      decide +kernel
    exact hall T hT hmethod
  | @component r r' t u name base methods fields hr hok hbase hmono ih =>
    have hengine := hr.component hok hbase hmono
    have hf : Registry.Forest r'.types := hengine.reachable.forest
    have habove := hengine.component_above
    obtain ⟨rfl, -, ht⟩ := add_of_registerComponent hok hbase
    rcases List.mem_cons.mp hT with rfl | hT
    · -- The new component has the base of all components.
      refine ⟨.component, by simp [ObjectShape.all], ?_⟩
      simp only [Registry.ancestors, List.any_cons, ht, hmono, Bool.or_eq_true]
      exact .inr habove
    · rw [Registry.ancestors_add hf hT]
      refine ih hT ?_
      rwa [Registry.hasMethod, Registry.ancestors_add hf hT] at hmethod

theorem shape (h : Engine r) (s : ObjectShape) :
    ∃ C, r.lookup s.fullName = some C ∧ C.fullName = s.fullName ∧
      r.hasMethod C accessMethod = true := by
  have hbuiltin : ∃ C, Host.builtin.find? s.fullName = some C ∧ C.fullName = s.fullName ∧
      C.methods.contains accessMethod = true := by
    cases s <;> exact ⟨_, rfl, by decide +kernel, by decide +kernel⟩
  obtain ⟨C, hC, hname, hmethod⟩ := hbuiltin
  refine ⟨C, h.lookup_eq hC, hname, ?_⟩
  rw [Registry.hasMethod, Registry.ancestors, List.any_cons, hmethod, Bool.true_or]

theorem kind (h : Engine r) (k : TargetKind) :
    ∃ C, r.lookup k.fullName = some C ∧ C.fullName = k.fullName := by
  have hbuiltin : ∃ C, Host.builtin.find? k.fullName = some C ∧ C.fullName = k.fullName := by
    cases k <;> exact ⟨_, rfl, by decide +kernel⟩
  obtain ⟨C, hC, hname⟩ := hbuiltin
  exact ⟨C, h.lookup_eq hC, hname⟩

end Engine

end Componentry.Host
