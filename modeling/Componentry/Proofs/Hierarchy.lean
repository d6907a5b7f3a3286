import Componentry.Proofs.Registry

/-!
# The hierarchy under any history

A registry is asked for types and for components. It refuses a request whose name is taken or whose
base it does not know, and then stays as it was. So whatever it has been asked for, an accepted type
stands above nothing that was there before.

**Theorem (`hierarchy_after_any_history`).** After any history of requests, going from a type to its
base and on to the base of that ends at a type without a base, and meets only registered types, each
once. Subtyping is a partial order by full names, in which the ancestors of one type form a chain.
Every alias leads to a registered type. A refused request changes nothing, an accepted one leaves
the ancestors of all earlier types as they were, and an accepted component also what every
designator names that named something.
-/

namespace Componentry.Registry

/-! ## Requests -/

/-- A request to a registry. -/
inductive Request where
  | type (t : HostType) (aliases : List String)
  | component (name base : String) (methods : List String) (fields : List (String × String))

/-- The answer to a request, the new type or a refusal, and the registry that it leaves. -/
def serve (r : Registry) : Request → Except Error HostType × Registry
  | .type t aliases =>
    match r.register t aliases with
    | .ok r' => (.ok t, r')
    | .error e => (.error e, r)
  | .component name base methods fields =>
    match r.registerComponent name base methods fields with
    | .ok (t, r') => (.ok t, r')
    | .error e => (.error e, r)

/-- The registry that a history of requests leaves, accepted and refused ones. -/
def afterAll (r : Registry) (requests : List Request) : Registry :=
  requests.foldl (fun r q => (r.serve q).2) r

/-- A request is refused and changes nothing, or a type is registered. -/
theorem serve_cases (r : Registry) (q : Request) :
    (∃ e, r.serve q = (.error e, r)) ∨
      ∃ t aliases, r.serve q = (.ok t, r.add t aliases) ∧
        r.register t aliases = .ok (r.add t aliases) := by
  cases q with
  | type t aliases =>
    cases h : r.register t aliases with
    | error e => exact .inl ⟨e, by simp [serve, h]⟩
    | ok r' =>
      obtain ⟨rfl, -, -⟩ := register_eq_ok h
      exact .inr ⟨t, aliases, by simp [serve, h], h⟩
  | component name base methods fields =>
    cases h : r.registerComponent name base methods fields with
    | error e => exact .inl ⟨e, by simp [serve, h]⟩
    | ok result =>
      obtain ⟨t, r'⟩ := result
      obtain ⟨hregister, -, -⟩ := registerComponent_eq_ok h
      obtain ⟨rfl, -, -⟩ := register_eq_ok hregister
      exact .inr ⟨t, [], by simp [serve, h], hregister⟩

theorem Reachable.serve {r : Registry} (h : r.Reachable) (q : Request) :
    (r.serve q).2.Reachable := by
  rcases r.serve_cases q with ⟨e, hserve⟩ | ⟨t, aliases, hserve, hregister⟩
  · rw [hserve]
    exact h
  · rw [hserve]
    exact .register h hregister

theorem Reachable.afterAll {r : Registry} (h : r.Reachable) (requests : List Request) :
    (r.afterAll requests).Reachable := by
  induction requests generalizing r with
  | nil => exact h
  | cons q rest ih => exact ih (h.serve q)

/-! ## What a registration changes -/

section Add

variable (r : Registry) (t : HostType) (aliases : List String)

@[simp] theorem find?_add (n : String) :
    (r.add t aliases).find? n = if t.fullName = n then some t else r.find? n := by
  by_cases h : t.fullName = n <;> simp [find?, add, h]

@[simp] theorem get?_aliases_add (a : String) :
    (r.add t aliases).aliases.get? a =
      (r.aliases.get? a).or (if a ∈ t.name :: aliases then some t.fullName else none) := by
  have hfold (names : List String) (table : Table String) :
      (names.foldl (fun table a => table.putNew a t.fullName) table).get? a =
        (table.get? a).or (if a ∈ names then some t.fullName else none) := by
    induction names generalizing table with
    | nil => simp
    | cons b rest ih =>
      rw [List.foldl_cons, ih, Table.get?_putNew, Option.or_assoc]
      by_cases hb : a = b <;> simp [hb]
  exact hfold (t.name :: aliases) r.aliases

end Add

/-- A type that a designator named is still named by it if the new full name is none that resolved.
-/
theorem lookup_add_of_new {r : Registry} {t : HostType} {aliases : List String}
    (hnew : r.lookup t.fullName = none) {d : String} {u : HostType} (hd : r.lookup d = some u) :
    (r.add t aliases).lookup d = some u := by
  have hne : t.fullName ≠ d := by
    rintro rfl
    simp [hnew] at hd
  unfold lookup at hd ⊢
  rw [find?_add, if_neg hne]
  cases hfind : r.find? d with
  | some v => simpa [hfind] using hd
  | none =>
    simp only [hfind] at hd ⊢
    obtain ⟨full, halias, hfull⟩ := Option.bind_eq_some_iff.mp hd
    have hne' : t.fullName ≠ full := by
      rintro rfl
      simp [lookup, hfull] at hnew
    simp [halias, hne', hfull]

/-! ## Going from base to base -/

/-- The base of a type as the registry knows it. -/
def parent? (r : Registry) (t : HostType) : Option HostType := t.base.bind r.find?

/-- Going from a type to its base, and so on until there is none, passes the types of the list. -/
inductive Climbs (r : Registry) : HostType → List HostType → Prop
  | last {t : HostType} : r.parent? t = none → Climbs r t [t]
  | next {t u : HostType} {path : List HostType} :
      r.parent? t = some u → Climbs r u path → Climbs r t (t :: path)

section Climbs

variable {r : Registry} {s t u : HostType}

theorem find?_fullName (hf : Forest r.types) (ht : t ∈ r.types) : r.find? t.fullName = some t := by
  obtain ⟨u, hu⟩ := Option.isSome_iff_exists.mp (find?_isSome.mpr ⟨t, ht, rfl⟩)
  obtain ⟨hmem, hname⟩ := mem_of_find? hu
  rw [hu, hf.eq_of_fullName hmem ht hname]

theorem parent?_eq_none (hf : Forest r.types) (ht : t ∈ r.types) :
    r.parent? t = none ↔ t.base = none := by
  constructor
  · intro h
    cases hb : t.base with
    | none => rfl
    | some b =>
      obtain ⟨u, hu, hname⟩ := hf.base_mem ht (by rw [hb]; rfl)
      simp [parent?, hb, ← hname, find?_fullName hf hu] at h
  · intro h
    simp [parent?, h]

theorem ancestors_of_parent? (hf : Forest r.types) (h : r.parent? t = some u) :
    u ∈ r.types ∧ r.ancestors t = t :: r.ancestors u := by
  obtain ⟨b, hb, hu⟩ := Option.bind_eq_some_iff.mp h
  obtain ⟨hmem, rfl⟩ := mem_of_find? hu
  refine ⟨hmem, ?_⟩
  rw [ancestors, hb, hf.chain_fullName hmem]
  rfl

theorem ancestors_of_root (h : t.base = none) : r.ancestors t = [t] := by
  rw [ancestors, h]
  cases r.types <;> rfl

/-- **The way up ends, and it passes exactly the ancestors.** The way from the base of a type is
shorter by one, so the induction is on the number of ancestors. -/
theorem climbs_ancestors (hf : Forest r.types) (ht : t ∈ r.types) :
    r.Climbs t (r.ancestors t) := by
  induction hn : (r.ancestors t).length generalizing t with
  | zero => simp [ancestors] at hn
  | succ n ih =>
    cases hparent : r.parent? t with
    | none =>
      rw [ancestors_of_root ((parent?_eq_none hf ht).mp hparent)]
      exact .last hparent
    | some u =>
      obtain ⟨hu, hancestors⟩ := ancestors_of_parent? hf hparent
      rw [hancestors] at hn ⊢
      exact .next hparent (ih hu (by simpa using hn))

theorem exists_root (hf : Forest r.types) {path : List HostType} (h : r.Climbs t path)
    (ht : t ∈ r.types) : ∃ u, path.getLast? = some u ∧ u.base = none := by
  induction h with
  | @last t hparent => exact ⟨t, rfl, (parent?_eq_none hf ht).mp hparent⟩
  | @next t u path hparent hclimbs ih =>
    obtain ⟨v, hv, hbase⟩ := ih (ancestors_of_parent? hf hparent).1
    refine ⟨v, ?_, hbase⟩
    cases hclimbs <;> simpa using hv

/-! ## The order -/

/-- The ancestors stand in the order of the registrations, so none occurs twice. -/
theorem nodup_ancestors (hf : Forest r.types) (ht : t ∈ r.types) :
    ((r.ancestors t).map HostType.fullName).Nodup := by
  rw [ancestors_eq_chain hf ht]
  generalize some t.fullName = n
  have hchain : (chain r.types n).Sublist r.types := by
    generalize r.types = ts
    fun_induction chain ts n with
    | case1 => exact List.nil_sublist _
    | case2 => exact List.nil_sublist _
    | case3 t older ih => exact ih.cons_cons t
    | case4 t older n _ ih => exact ih.cons t
  exact (hchain.map HostType.fullName).nodup hf.nodup

theorem isSubtype_antisymm (hf : Forest r.types) (hs : s ∈ r.types) (ht : t ∈ r.types)
    (hst : r.isSubtype s t = true) (hts : r.isSubtype t s = true) : s.fullName = t.fullName := by
  rw [isSubtype_iff_suffix hf hs ht] at hst
  rw [isSubtype_iff_suffix hf ht hs] at hts
  have heq : r.ancestors t = r.ancestors s := hst.eq_of_length_le hts.length_le
  rw [(List.cons.inj heq).1]

/-- Types are related exactly if some registered type is below both. -/
theorem areRelated_iff (hf : Forest r.types) (ht : t ∈ r.types) (hu : u ∈ r.types) :
    r.areRelated t u = true ↔
      ∃ s ∈ r.types, r.isSubtype s t = true ∧ r.isSubtype s u = true := by
  constructor
  · intro h
    rcases Bool.or_eq_true_iff.mp h with h | h
    · exact ⟨t, ht, isSubtype_refl r t, h⟩
    · exact ⟨u, hu, h, isSubtype_refl r u⟩
  · rintro ⟨s, hs, hst, hsu⟩
    exact areRelated_of_common hf hs ht hu hst hsu

end Climbs

/-! ## Aliases -/

/-- Every alias is a name of a registered type. -/
def AliasesKnown (r : Registry) : Prop :=
  ∀ a n, r.aliases.get? a = some n → ∃ t ∈ r.types, t.fullName = n

theorem AliasesKnown.add {r : Registry} (h : r.AliasesKnown) (t : HostType)
    (aliases : List String) : (r.add t aliases).AliasesKnown := by
  intro a n ha
  rw [get?_aliases_add] at ha
  rcases Option.or_eq_some_iff.mp ha with ha | ⟨-, ha⟩
  · obtain ⟨u, hu, hname⟩ := h a n ha
    exact ⟨u, List.mem_cons_of_mem t hu, hname⟩
  · split_ifs at ha
    exact ⟨t, List.mem_cons_self, Option.some.inj ha⟩

theorem Reachable.aliasesKnown {r : Registry} (h : r.Reachable) : r.AliasesKnown := by
  induction h with
  | empty => simp [AliasesKnown, Registry.empty]
  | register _ h ih =>
    obtain ⟨rfl, -, -⟩ := register_eq_ok h
    exact ih.add _ _
  | registerComponent _ h ih =>
    obtain ⟨rfl, -, -⟩ := register_eq_ok (registerComponent_eq_ok h).1
    exact ih.add _ _

theorem AliasesKnown.exists_lookup {r : Registry} (h : r.AliasesKnown) {a n : String}
    (ha : r.aliases.get? a = some n) : ∃ u ∈ r.types, r.lookup a = some u := by
  obtain ⟨t, ht, hname⟩ := h a n ha
  obtain ⟨v, hv⟩ := Option.isSome_iff_exists.mp (find?_isSome.mpr ⟨t, ht, hname⟩)
  cases hfind : r.find? a with
  | some u => exact ⟨u, (mem_of_find? hfind).1, by simp [lookup, hfind]⟩
  | none => exact ⟨v, (mem_of_find? hv).1, by simp [lookup, hfind, ha, hv]⟩

/-! ## Any history -/

/-- The registered types form a forest, and every alias leads into it. -/
structure Hierarchy (r : Registry) : Prop where
  /-- Going from base to base ends, and passes the ancestors. -/
  climbs : ∀ t ∈ r.types, r.Climbs t (r.ancestors t)
  registered : ∀ t ∈ r.types, ∀ u ∈ r.ancestors t, u ∈ r.types
  once : ∀ t ∈ r.types, ((r.ancestors t).map HostType.fullName).Nodup
  root : ∀ t ∈ r.types, ∃ u, (r.ancestors t).getLast? = some u ∧ u.base = none
  refl : ∀ t ∈ r.types, r.isSubtype t t = true
  trans : ∀ s ∈ r.types, ∀ t ∈ r.types, ∀ u ∈ r.types,
    r.isSubtype s t = true → r.isSubtype t u = true → r.isSubtype s u = true
  antisymm : ∀ s ∈ r.types, ∀ t ∈ r.types,
    r.isSubtype s t = true → r.isSubtype t s = true → s.fullName = t.fullName
  comparable : ∀ s ∈ r.types, ∀ t ∈ r.ancestors s, ∀ u ∈ r.ancestors s,
    r.isSubtype t u = true ∨ r.isSubtype u t = true
  /-- Unrelated types are those that no registered type is below both of. -/
  unrelated : ∀ t ∈ r.types, ∀ u ∈ r.types, r.areRelated t u = false ↔
    ¬ ∃ s ∈ r.types, r.isSubtype s t = true ∧ r.isSubtype s u = true
  aliases : ∀ a n, r.aliases.get? a = some n →
    (∃ t ∈ r.types, t.fullName = n) ∧ ∃ u ∈ r.types, r.lookup a = some u

theorem Reachable.hierarchy {r : Registry} (h : r.Reachable) : r.Hierarchy where
  climbs t ht := climbs_ancestors h.forest ht
  registered t ht u hu := mem_of_mem_ancestors ht hu
  once t ht := nodup_ancestors h.forest ht
  root t ht := exists_root h.forest (climbs_ancestors h.forest ht) ht
  refl t _ := isSubtype_refl r t
  trans s hs t ht u hu := isSubtype_trans h.forest hs ht hu
  antisymm s hs t ht := isSubtype_antisymm h.forest hs ht
  comparable s hs t ht u hu := by
    have ht' := mem_of_mem_ancestors hs ht
    have hu' := mem_of_mem_ancestors hs hu
    exact isSubtype_or_of_common h.forest hs ht' hu'
      ((isSubtype_iff_mem h.forest hs ht').mpr ht) ((isSubtype_iff_mem h.forest hs hu').mpr hu)
  unrelated t ht u hu := by rw [← Bool.not_eq_true, areRelated_iff h.forest ht hu]
  aliases a n ha := ⟨h.aliasesKnown a n ha, h.aliasesKnown.exists_lookup ha⟩

/-- What a request leaves of a registry. -/
structure Respects (r : Registry) (q : Request) : Prop where
  refused : ∀ e, (r.serve q).1 = .error e → (r.serve q).2 = r
  accepted : ∀ t, (r.serve q).1 = .ok t → t ∈ (r.serve q).2.types ∧
    ∀ u ∈ r.types, u ∈ (r.serve q).2.types ∧ (r.serve q).2.ancestors u = r.ancestors u
  component : ∀ name base methods fields t, q = .component name base methods fields →
    (r.serve q).1 = .ok t → ∀ d u, r.lookup d = some u → (r.serve q).2.lookup d = some u

theorem Reachable.respects {r : Registry} (h : r.Reachable) (q : Request) : r.Respects q where
  refused e he := by
    rcases r.serve_cases q with ⟨e', hserve⟩ | ⟨t, aliases, hserve, -⟩
    · rw [hserve]
    · simp [hserve] at he
  accepted t ht := by
    rcases r.serve_cases q with ⟨e, hserve⟩ | ⟨t', aliases, hserve, hregister⟩
    · simp [hserve] at ht
    · obtain rfl : t' = t := by simpa [hserve] using ht
      have hf : Forest (r.add t' aliases).types := (h.register hregister).forest
      rw [hserve]
      refine ⟨List.mem_cons_self, fun u hu => ⟨List.mem_cons_of_mem t' hu, ?_⟩⟩
      exact ancestors_add hf hu
  component name base methods fields t hq ht d u hd := by
    subst hq
    cases hregister : r.registerComponent name base methods fields with
    | error e => simp [Registry.serve, hregister] at ht
    | ok result =>
      obtain ⟨t', r'⟩ := result
      obtain ⟨hok, hnew, v, -, rfl⟩ := registerComponent_eq_ok hregister
      obtain ⟨rfl, -, -⟩ := register_eq_ok hok
      simp only [Registry.serve, hregister]
      exact lookup_add_of_new hnew hd

/-- **A registry holds a forest, whatever it has been asked for.** Requests may have been refused,
and every further request respects what is there. -/
theorem hierarchy_after_any_history (requests : List Request) :
    (empty.afterAll requests).Hierarchy ∧ ∀ q, (empty.afterAll requests).Respects q :=
  have h : (empty.afterAll requests).Reachable := Reachable.empty.afterAll requests
  ⟨h.hierarchy, h.respects⟩

end Componentry.Registry
