import Componentry.Definition.Basic
import Componentry.Proofs.Yields
import Mathlib.Data.List.FinRange
import Mathlib.Data.List.Forall2
import Mathlib.Data.List.Perm.Basic

/-!
# Which methods a definition has

A definition turns a list of declarations into buckets of methods, one bucket per interface.

**Theorem (`definition_keeps_each_method`).** If a definition compiles, its buckets hold exactly the
methods of `entries`: of every declared name the declaration that the policy chooses, in the order
of the declarations, and then the defaults of names that are not declared.

On the way from declarations to buckets the methods pass four stages, and each has its own section:
what is declared (`declaredMethods_eq_ok`), which of the declarations of one name stays
(`keepLast_eq_chosen`, `keepFirst_eq_pick`), what is added (`missingDefaults_eq_ok`), and how
methods are sorted by interface (`sorted_byInterface`). The choice is stated by positions and not by
recursion: a position stays if no later one, or no earlier one, has its name.
-/

namespace Componentry

/-- The methods of a component, over all interfaces. -/
abbrev Ir.Component.methods (c : Ir.Component) : List Ir.Method :=
  c.implementations.flatMap Ir.Implementation.methods

/-- The members of a component have names of their own. -/
structure Ir.Component.Settled (c : Ir.Component) : Prop where
  fields : (c.fields.map Ir.Field.name).Nodup
  free : ∀ x ∈ c.fields.map Ir.Field.name, Text.isReserved x = false
  methods : (c.methods.map Ir.Method.name).Nodup
  /-- Only the field that a constant component adds may have the name of a method. -/
  apart : ∀ x ∈ c.fields.map Ir.Field.name, x ∈ c.methods.map Ir.Method.name →
    c.constant = true ∧ x = serializedField
  state : c.constant = true → serializedField ∈ c.fields.map Ir.Field.name

/-- The method of a form under an interface, if there is one. -/
def MethodForm.under (form : MethodForm) (interface : Option String) : Ir.Method :=
  { name := form.name, params := form.params, body := form.body, interface }

namespace Definition

open Ir (Method Field Component Implementation)

/-! ## What is declared -/

/-- The forms that stand under the name of a message. -/
def shorthand (declarations : List Declaration) : List MethodForm :=
  declarations.flatMap fun
    | .message form => [form]
    | _ => []

/-- The forms that stand in groups, each with the interface of its group as written. -/
def grouped (declarations : List Declaration) : List (String × MethodForm) :=
  declarations.flatMap fun
    | .group interface methods => methods.map (interface, ·)
    | _ => []

/-- The declared methods in order: messages under the interface of their name, then the methods of
groups under the full name of the interface of their group. -/
def declared (known : Messages) (declarations : List Declaration) : List Method :=
  (shorthand declarations).map (fun form => form.under (known.interfaceFor form.name)) ++
    (grouped declarations).map fun entry => entry.2.under (some (known.canonical entry.1))

theorem split_eq_ok {ambient : Option Place} {declarations : List Declaration}
    {messages messages' : List MethodForm} {groups groups' : List (String × List MethodForm)}
    (h : split ambient messages groups declarations = .ok (messages', groups')) :
    messages' = messages ++ shorthand declarations ∧
      groups'.flatMap (fun g => g.2.map (g.1, ·)) =
        groups.flatMap (fun g => g.2.map (g.1, ·)) ++ grouped declarations := by
  induction declarations generalizing messages groups with
  | nil =>
    obtain ⟨rfl, rfl⟩ : messages = messages' ∧ groups = groups' := by simpa [split] using h
    simp [shorthand, grouped]
  | cons declaration rest ih =>
    cases declaration with
    | message form =>
      simp only [split] at h
      split at h
      · obtain ⟨hm, hg⟩ := ih h
        exact ⟨by simpa [shorthand] using hm, by simpa [grouped] using hg⟩
      · cases h
    | group interface methods =>
      obtain ⟨hm, hg⟩ := ih h
      exact ⟨by simpa [shorthand] using hm, by simpa [grouped] using hg⟩
    | stray form => cases h

theorem messageMethods_eq_ok {known : Messages} {ambient : Option Place} {forms : List MethodForm}
    {methods : List Method} (h : messageMethods known ambient forms = .ok methods) :
    methods = forms.map (fun form => form.under (known.interfaceFor form.name)) ∧
      ∀ m ∈ methods, m.interface.isSome := by
  induction forms generalizing methods with
  | nil =>
    obtain rfl : [] = methods := by simpa [messageMethods] using h
    simp
  | cons form rest ih =>
    simp only [messageMethods] at h
    split at h
    · cases h
    · next interface hi =>
      cases hr : messageMethods known ambient rest with
      | error e => simp [hr, bind, Except.bind] at h
      | ok others =>
        obtain rfl : form.toMethod interface :: others = methods := by
          simpa [hr, bind, Except.bind] using h
        obtain ⟨rfl, hsome⟩ := ih hr
        refine ⟨by simp [MethodForm.toMethod, MethodForm.under, hi], ?_⟩
        exact List.forall_mem_cons.mpr ⟨rfl, hsome⟩

theorem groupMethods_eq {known : Messages} {groups : List (String × List MethodForm)} :
    groupMethods known groups = (groups.flatMap fun g => g.2.map (g.1, ·)).map
      fun entry => entry.2.under (some (known.canonical entry.1)) := by
  unfold groupMethods
  rw [List.map_flatMap]
  simp [MethodForm.toMethod, MethodForm.under, Function.comp_def]

/-- The declared methods are found as they are declared, and every message among them is known. -/
theorem declaredMethods_eq_ok {known : Messages} {ambient : Option Place}
    {declarations : List Declaration} {methods : List Method}
    (h : declaredMethods known ambient declarations = .ok methods) :
    methods = declared known declarations ∧ ∀ m ∈ methods, m.interface.isSome := by
  unfold declaredMethods at h
  cases hs : split ambient [] [] declarations with
  | error e => simp [hs, bind, Except.bind] at h
  | ok parts =>
    obtain ⟨messages, groups⟩ := parts
    cases hm : messageMethods known ambient messages with
    | error e => simp [hs, hm, bind, Except.bind] at h
    | ok found =>
      obtain rfl : found ++ groupMethods known groups = methods := by
        simpa [hs, hm, bind, Except.bind] using h
      obtain ⟨hmessages, hgroups⟩ := split_eq_ok hs
      obtain ⟨hfound, hsome⟩ := messageMethods_eq_ok hm
      rw [List.nil_append] at hmessages
      rw [List.flatMap_nil, List.nil_append] at hgroups
      constructor
      · rw [hfound, hmessages, groupMethods_eq, hgroups, declared]
      · intro m hmem
        rcases List.mem_append.mp hmem with hmem | hmem
        · exact hsome m hmem
        · rw [groupMethods_eq] at hmem
          obtain ⟨entry, -, rfl⟩ := List.mem_map.mp hmem
          rfl

/-! ## Which declaration of a name stays -/

/-- The methods at the positions with a property, in order. -/
def pick (ds : List Method) (p : Fin ds.length → Bool) : List Method :=
  ((List.finRange ds.length).filter p).map ds.get

/-- Whether the method at a position is the one of its name that a policy keeps. -/
def Stays (policy : DuplicatePolicy) (ds : List Method) (i : Fin ds.length) : Prop :=
  match policy with
  | .keepFirst => ∀ j < i, (ds.get j).name ≠ (ds.get i).name
  | .keepLast => ∀ j > i, (ds.get j).name ≠ (ds.get i).name
  | .refuse => True

instance (policy : DuplicatePolicy) (ds : List Method) (i : Fin ds.length) :
    Decidable (Stays policy ds i) :=
  match policy with
  | .keepFirst => inferInstanceAs (Decidable (∀ j < i, (ds.get j).name ≠ (ds.get i).name))
  | .keepLast => inferInstanceAs (Decidable (∀ j > i, (ds.get j).name ≠ (ds.get i).name))
  | .refuse => inferInstanceAs (Decidable True)

/-- The declared methods that a policy keeps, in the order of their declarations. -/
def chosen (policy : DuplicatePolicy) (ds : List Method) : List Method :=
  pick ds fun i => decide (Stays policy ds i)

theorem pick_cons (m : Method) (rest : List Method) (p : Fin (m :: rest).length → Bool) :
    pick (m :: rest) p =
      (if p ⟨0, Nat.succ_pos _⟩ then [m] else []) ++ pick rest fun i => p i.succ := by
  have htail : (((List.finRange rest.length).map Fin.succ).filter p).map (m :: rest).get =
      pick rest fun i => p i.succ := by
    rw [List.filter_map, List.map_map]
    rfl
  unfold pick
  rw [show List.finRange (m :: rest).length =
    ⟨0, Nat.succ_pos _⟩ :: (List.finRange rest.length).map Fin.succ from List.finRange_succ]
  rw [List.filter_cons]
  split
  · rw [List.map_cons, htail]
    rfl
  · rw [htail]
    rfl

theorem mem_of_mem_pick {ds : List Method} {p : Fin ds.length → Bool} {m : Method}
    (h : m ∈ pick ds p) : m ∈ ds := by
  obtain ⟨i, -, rfl⟩ := List.mem_map.mp h
  exact List.get_mem ds i

theorem pick_congr {ds : List Method} {p q : Fin ds.length → Bool} (h : ∀ i, p i = q i) :
    pick ds p = pick ds q := by
  rw [show p = q from funext h]

theorem forall_get_name_ne {ds : List Method} {x : String} :
    (∀ j : Fin ds.length, (ds.get j).name ≠ x) ↔ x ∉ ds.map Method.name := by
  constructor
  · intro h hx
    obtain ⟨m, hm, rfl⟩ := List.mem_map.mp hx
    obtain ⟨j, rfl⟩ := List.get_of_mem hm
    exact h j rfl
  · intro h j hj
    exact h (hj ▸ List.mem_map_of_mem (List.get_mem ds j))

theorem keepLast_eq_chosen (ds : List Method) : keepLast ds = chosen .keepLast ds := by
  induction ds with
  | nil => rfl
  | cons m rest ih =>
    -- The first position stays if no later one has its name; a later one does not look back.
    have hfirst : Stays .keepLast (m :: rest) ⟨0, Nat.succ_pos _⟩ ↔
        m.name ∉ rest.map Method.name := by
      rw [← forall_get_name_ne]
      constructor
      · intro h j
        exact h j.succ (Fin.succ_pos j)
      · intro h j hj
        obtain ⟨k, rfl⟩ := Fin.exists_succ_eq.mpr (Fin.pos_iff_ne_zero.mp hj)
        exact h k
    have hlater : ∀ i : Fin rest.length, Stays .keepLast (m :: rest) i.succ ↔
        Stays .keepLast rest i := by
      intro i
      constructor
      · intro h j hj
        exact h j.succ (Fin.succ_lt_succ_iff.mpr hj)
      · intro h j hj
        obtain ⟨k, rfl⟩ := Fin.exists_succ_eq.mpr
          (Fin.pos_iff_ne_zero.mp (Nat.lt_trans (Fin.succ_pos i) hj))
        exact h k (Fin.succ_lt_succ_iff.mp hj)
    have hany : rest.any (·.name == m.name) = true ↔ m.name ∈ rest.map Method.name := by
      simp [List.mem_map]
    have htail : pick rest (fun i => decide (Stays .keepLast (m :: rest) i.succ)) =
        keepLast rest := by
      rw [ih]
      exact pick_congr fun i => decide_eq_decide.mpr (hlater i)
    rw [keepLast, chosen, pick_cons, htail]
    by_cases hm : m.name ∈ rest.map Method.name
    · rw [if_pos (hany.mpr hm), if_neg fun h => hfirst.mp (of_decide_eq_true h) hm,
        List.nil_append]
    · rw [if_neg fun h => hm (hany.mp h), if_pos (decide_eq_true (hfirst.mpr hm)),
        List.singleton_append]

theorem keepFirst_eq_pick (met : List String) (ds : List Method) :
    keepFirst met ds = pick ds fun i => decide ((ds.get i).name ∉ met ∧ Stays .keepFirst ds i) := by
  induction ds generalizing met with
  | nil => rfl
  | cons m rest ih =>
    have hfirst : Stays .keepFirst (m :: rest) ⟨0, Nat.succ_pos _⟩ := by
      intro j hj
      exact absurd hj (Nat.not_lt_zero _)
    have hlater : ∀ i : Fin rest.length, Stays .keepFirst (m :: rest) i.succ ↔
        m.name ≠ (rest.get i).name ∧ Stays .keepFirst rest i := by
      intro i
      constructor
      · intro h
        exact ⟨h ⟨0, Nat.succ_pos _⟩ (Fin.succ_pos i),
          fun j hj => h j.succ (Fin.succ_lt_succ_iff.mpr hj)⟩
      · rintro ⟨hne, h⟩ j hj
        cases j using Fin.cases with
        | zero => exact hne
        | succ k => exact h k (Fin.succ_lt_succ_iff.mp hj)
    rw [keepFirst, pick_cons]
    by_cases hm : m.name ∈ met
    · -- A name met before is already ruled out at every later position.
      rw [if_pos (by simpa using hm), if_neg (by simp [hm]), List.nil_append, ih]
      refine pick_congr fun i => decide_eq_decide.mpr ?_
      rw [hlater]
      constructor
      · rintro ⟨hi, hs⟩
        exact ⟨hi, fun h => hi (h ▸ hm), hs⟩
      · rintro ⟨hi, -, hs⟩
        exact ⟨hi, hs⟩
    · rw [if_neg (by simpa using hm), if_pos (by simpa [hm] using hfirst),
        List.singleton_append, ih]
      congr 1
      refine pick_congr fun i => decide_eq_decide.mpr ?_
      rw [hlater, List.mem_cons, not_or]
      constructor
      · rintro ⟨⟨hne, hi⟩, hs⟩
        exact ⟨hi, Ne.symm hne, hs⟩
      · rintro ⟨hi, hne, hs⟩
        exact ⟨⟨Ne.symm hne, hi⟩, hs⟩

theorem keepFirst_nil_eq_chosen (ds : List Method) : keepFirst [] ds = chosen .keepFirst ds := by
  rw [keepFirst_eq_pick, chosen]
  exact pick_congr fun i => by simp

theorem chosen_refuse (ds : List Method) : chosen .refuse ds = ds := by
  have hall : (List.finRange ds.length).filter (fun i => decide (Stays .refuse ds i)) =
      List.finRange ds.length := List.filter_eq_self.mpr fun _ _ => rfl
  rw [chosen, pick, hall]
  exact List.map_get_finRange ds

theorem keepLast_eq_self {ds : List Method} (h : (ds.map Method.name).Nodup) :
    keepLast ds = ds := by
  induction ds with
  | nil => rfl
  | cons m rest ih =>
    rw [List.map_cons, List.nodup_cons] at h
    have hany : ¬ rest.any (·.name == m.name) = true := by
      simpa [List.mem_map] using h.1
    rw [keepLast, if_neg hany, ih h.2]

theorem mem_names_keepLast {ds : List Method} {x : String} :
    x ∈ (keepLast ds).map Method.name ↔ x ∈ ds.map Method.name := by
  induction ds with
  | nil => rfl
  | cons m rest ih =>
    rw [keepLast]
    split
    · next h =>
      have hm : m.name ∈ rest.map Method.name := by simpa [List.mem_map] using h
      rw [ih, List.map_cons, List.mem_cons]
      exact ⟨Or.inr, fun hx => hx.elim (fun h => h ▸ hm) id⟩
    · rw [List.map_cons, List.map_cons, List.mem_cons, List.mem_cons, ih]

theorem nodup_names_keepLast (ds : List Method) :
    ((keepLast ds).map Method.name).Nodup := by
  induction ds with
  | nil => exact List.nodup_nil
  | cons m rest ih =>
    rw [keepLast]
    split
    · exact ih
    · next h =>
      rw [List.map_cons, List.nodup_cons, mem_names_keepLast]
      exact ⟨by simpa [List.mem_map] using h, ih⟩

theorem mem_names_keepFirst {met : List String} {ds : List Method} {x : String} :
    x ∈ (keepFirst met ds).map Method.name ↔ x ∉ met ∧ x ∈ ds.map Method.name := by
  induction ds generalizing met with
  | nil => simp [keepFirst]
  | cons m rest ih =>
    simp only [keepFirst, List.contains_iff_mem]
    split
    · next hm =>
      rw [ih, List.map_cons, List.mem_cons]
      constructor
      · rintro ⟨hx, hmem⟩
        exact ⟨hx, Or.inr hmem⟩
      · rintro ⟨hx, rfl | hmem⟩
        · exact absurd hm hx
        · exact ⟨hx, hmem⟩
    · next hm =>
      rw [List.map_cons, List.map_cons, List.mem_cons, List.mem_cons, ih, List.mem_cons]
      by_cases hx : x = m.name
      · subst hx
        simp [hm]
      · simp [hx]

theorem nodup_names_keepFirst (met : List String) (ds : List Method) :
    ((keepFirst met ds).map Method.name).Nodup := by
  induction ds generalizing met with
  | nil => exact List.nodup_nil
  | cons m rest ih =>
    rw [keepFirst]
    split
    · exact ih met
    · rw [List.map_cons, List.nodup_cons, mem_names_keepFirst]
      exact ⟨fun h => h.1 List.mem_cons_self, ih _⟩

theorem nodup_of_repeated {names : List String} (h : repeated names = []) : names.Nodup := by
  rw [List.nodup_iff_count_le_one]
  intro name
  by_cases hmem : name ∈ names
  · have hcount := List.filter_eq_nil_iff.mp h (name, names.count name)
      (List.mem_map_of_mem (List.mem_eraseDups.mpr hmem))
    simpa using hcount
  · rw [List.count_eq_zero_of_not_mem hmem]
    exact Nat.zero_le 1

theorem of_yields_settle {policy : DuplicatePolicy} {component : String} {ambient : Option Place}
    {declarations : List Declaration} {ds kept : List Method} {t t' : Trace}
    (h : Yields (settle policy component ambient declarations ds) t kept t') :
    kept = chosen policy ds ∧ (policy = .refuse → (ds.map Method.name).Nodup) ∧
      (kept.map Method.name).Nodup ∧
      ∀ x, x ∈ kept.map Method.name ↔ x ∈ ds.map Method.name := by
  unfold settle at h
  obtain ⟨u, t₁, hloop, hkept⟩ := yields_bind.mp h
  obtain ⟨rfl, -⟩ := yields_pure.mp hkept
  cases policy with
  | keepFirst =>
    refine ⟨keepFirst_nil_eq_chosen ds, fun h => (by cases h), nodup_names_keepFirst [] ds, ?_⟩
    intro x
    rw [kept, mem_names_keepFirst]
    simp
  | keepLast =>
    exact ⟨keepLast_eq_chosen ds, fun h => (by cases h), nodup_names_keepLast ds,
      fun x => mem_names_keepLast⟩
  | refuse =>
    -- The first repeated name is refused, so there is none.
    have hnone : repeated (ds.map Method.name) = [] := by
      cases hr : repeated (ds.map Method.name) with
      | nil => rfl
      | cons entry rest => simp [hr] at hloop
    have hnodup := nodup_of_repeated hnone
    refine ⟨?_, fun _ => hnodup, nodup_names_keepLast ds, fun x => mem_names_keepLast⟩
    rw [chosen_refuse]
    exact keepLast_eq_self hnodup

/-! ## What is added -/

def Default.toMethod (known : Messages) (e : Default) : Method :=
  { name := e.name, params := [{ name := "self" }], body := e.body,
    interface := e.interface <|> known.interfaceFor e.name }

/-- The defaults of names that are not among the given ones. -/
def absent (known : Messages) (names : List String) (es : List Default) : List Method :=
  (es.filter fun e => e.name ∉ names).map (Default.toMethod known)

theorem absent_congr {known : Messages} {names names' : List String} {es : List Default}
    (h : ∀ x, x ∈ names ↔ x ∈ names') : absent known names es = absent known names' es := by
  unfold absent
  congr 1
  exact List.filter_congr fun e _ => decide_eq_decide.mpr (not_congr (h e.name))

/-- The defaults that are added have names of their own. -/
theorem nodup_names_append_absent {known : Messages} {kept : List Method} {es : List Default}
    (hkept : (kept.map Method.name).Nodup) (hes : (es.map Default.name).Nodup) :
    ((kept ++ absent known (kept.map Method.name) es).map Method.name).Nodup := by
  have hnames : (absent known (kept.map Method.name) es).map Method.name =
      (es.filter fun e => e.name ∉ kept.map Method.name).map Default.name := by
    simp [absent, Default.toMethod, Function.comp_def]
  rw [List.map_append, hnames]
  refine hkept.append (hes.sublist ((List.filter_sublist).map _)) ?_
  intro x hx hx'
  obtain ⟨e, he, rfl⟩ := List.mem_map.mp hx'
  exact absurd hx (by simpa using (List.mem_filter.mp he).2)

theorem missingDefaults_eq_ok {known : Messages} {ambient : Option Place} {names : List String}
    {es : List Default} {methods : List Method}
    (h : missingDefaults known ambient names es = .ok methods) :
    methods = absent known names es ∧ ∀ m ∈ methods, m.interface.isSome := by
  induction es generalizing methods with
  | nil =>
    obtain rfl : [] = methods := by simpa [missingDefaults] using h
    simp [absent]
  | cons e rest ih =>
    simp only [missingDefaults, List.contains_iff_mem] at h
    split at h
    · next hmem =>
      obtain ⟨rfl, hsome⟩ := ih h
      exact ⟨by simp [absent, hmem], hsome⟩
    · next hmem =>
      split at h
      · cases h
      · next interface hi =>
        cases hr : missingDefaults known ambient names rest with
        | error e' => simp [hr, bind, Except.bind] at h
        | ok others =>
          obtain ⟨rfl, hsome⟩ := ih hr
          simp only [hr, bind, Except.bind, Except.ok.injEq] at h
          subst h
          refine ⟨?_, List.forall_mem_cons.mpr ⟨rfl, hsome⟩⟩
          simp [absent, hmem, Default.toMethod, hi]

/-- What a method has become when it is delivered to the host: a message that the host may send
before the module is loaded first asks for the module, and nothing else changes. -/
structure Delivers (moduleName : Option String) (m m' : Method) : Prop where
  name : m'.name = m.name
  params : m'.params = m.params
  interface : m'.interface = m.interface
  body : m'.body =
    if m.name ∈ ["Awake", "Start", "OnDrawGizmos", "OnDrawGizmosSelected"] then
      runtimeCall "require_module"
        [if moduleName.getD "" = "" then .var "__name__" else .const (.str (moduleName.getD ""))] ::
          m.body
    else m.body

theorem delivers_withLoading (moduleName : Option String) (m : Method) :
    Delivers moduleName m (withLoading moduleName m) := by
  unfold withLoading
  split
  · next h =>
    refine ⟨rfl, rfl, rfl, Eq.trans ?_ (if_pos (by simpa [loadingMessages] using h)).symm⟩
    refine congrArg (fun module => runtimeCall "require_module" [module] :: m.body) ?_
    split
    · rfl
    · rfl
    · next name hne => rw [Option.getD_some, if_neg fun h => hne (by rw [h])]
  · next h =>
    refine ⟨rfl, rfl, rfl, ?_⟩
    rw [if_neg (by simpa [loadingMessages] using h)]

/-! ## Buckets -/

/-- The buckets hold the methods, sorted by interface. -/
structure SortedByInterface (ms : List Method) (buckets : List Implementation) : Prop where
  /-- Every method is in one bucket, once. -/
  perm : (buckets.flatMap Implementation.methods).Perm ms
  nonempty : ∀ b ∈ buckets, b.methods ≠ []
  distinct : (buckets.map Implementation.interface).Nodup
  /-- The buckets come in the order of the first methods of their interfaces. -/
  order : buckets.Pairwise fun a b =>
    ms.findIdx (·.interface == some a.interface) < ms.findIdx (·.interface == some b.interface)
  /-- A bucket holds the methods of its interface in their order. -/
  bucket : ∀ b ∈ buckets, b.methods = ms.filter (·.interface == some b.interface)

section

variable {α : Type} [BEq α] [LawfulBEq α]

/-- Leaving out a third value does not change which of two values comes first. -/
theorem idxOf_lt_of_filter {x a b : α} {l : List α} (ha : a ≠ x) (hb : b ≠ x)
    (h : (l.filter (fun y => !y == x)).idxOf a < (l.filter (fun y => !y == x)).idxOf b) :
    l.idxOf a < l.idxOf b := by
  induction l with
  | nil => simp at h
  | cons y rest ih =>
    by_cases hy : y = x
    · subst hy
      rw [List.filter_cons_of_neg (by simp)] at h
      rw [List.idxOf_cons_ne _ (Ne.symm ha), List.idxOf_cons_ne _ (Ne.symm hb)]
      exact Nat.succ_lt_succ (ih h)
    · rw [List.filter_cons_of_pos (by simpa using hy)] at h
      by_cases hya : y = a
      · subst hya
        by_cases hyb : y = b
        · subst hyb
          exact absurd h (Nat.lt_irrefl _)
        · rw [List.idxOf_cons_self, List.idxOf_cons_ne _ hyb]
          exact Nat.succ_pos _
      · by_cases hyb : y = b
        · subst hyb
          rw [List.idxOf_cons_self] at h
          exact absurd h (Nat.not_lt_zero _)
        · rw [List.idxOf_cons_ne _ hya, List.idxOf_cons_ne _ hyb] at h ⊢
          exact Nat.succ_lt_succ (ih (Nat.lt_of_succ_lt_succ h))

/-- Values without repetitions come in the order of their first occurrences. -/
theorem pairwise_idxOf_eraseDups (l : List α) :
    l.eraseDups.Pairwise fun a b => l.idxOf a < l.idxOf b := by
  match l with
  | [] => simp
  | x :: rest =>
    have hne : ∀ a ∈ (rest.filter fun y => !y == x).eraseDups, a ≠ x := by
      intro a ha
      rw [List.mem_eraseDups, List.mem_filter] at ha
      simpa using ha.2
    rw [List.eraseDups_cons, List.pairwise_cons]
    constructor
    · intro a ha
      rw [List.idxOf_cons_self, List.idxOf_cons_ne _ (Ne.symm (hne a ha))]
      exact Nat.succ_pos _
    · refine (pairwise_idxOf_eraseDups (rest.filter fun y => !y == x)).imp_of_mem ?_
      intro a b ha hb hlt
      rw [List.idxOf_cons_ne _ (Ne.symm (hne a ha)), List.idxOf_cons_ne _ (Ne.symm (hne b hb))]
      exact Nat.succ_lt_succ (idxOf_lt_of_filter (hne a ha) (hne b hb) hlt)
termination_by l.length
decreasing_by
  exact Nat.lt_succ_of_le (List.length_filter_le _ rest)

theorem nodup_eraseDups (l : List α) : l.eraseDups.Nodup :=
  (pairwise_idxOf_eraseDups l).imp fun hlt heq => by
    rw [heq] at hlt
    exact Nat.lt_irrefl _ hlt

end

/-- Methods that all have interfaces are found by interface as the interface is found among theirs.
-/
theorem findIdx_interface {ms : List Method} (h : ∀ m ∈ ms, m.interface.isSome) (i : String) :
    ms.findIdx (·.interface == some i) = (ms.filterMap Method.interface).idxOf i := by
  induction ms with
  | nil => rfl
  | cons m rest ih =>
    obtain ⟨hm, hrest⟩ := List.forall_mem_cons.mp h
    obtain ⟨j, hj⟩ := Option.isSome_iff_exists.mp hm
    rw [List.filterMap_cons_some hj, List.findIdx_cons, List.idxOf_cons, ih hrest, hj]
    rfl

/-- Collecting the methods of distinct interfaces one interface after the other only reorders the
methods that have one of them. -/
theorem perm_flatMap_filter {is : List String} (his : is.Nodup) (ms : List Method) :
    (is.flatMap fun i => ms.filter (·.interface == some i)).Perm
      (ms.filter fun m => m.interface.any is.contains) := by
  induction is with
  | nil =>
    rw [List.flatMap_nil, List.filter_eq_nil_iff.mpr]
    intro m _
    cases m.interface <;> simp
  | cons i rest ih =>
    obtain ⟨hi, hrest⟩ := List.nodup_cons.mp his
    -- A method of `i` has no other interface, so the two filters split the larger one.
    have hsplit := List.filter_append_perm (fun m : Method => m.interface == some i)
      (ms.filter fun m => m.interface.any (i :: rest).contains)
    rw [List.filter_filter, List.filter_filter] at hsplit
    rw [List.flatMap_cons]
    refine List.Perm.trans (List.Perm.append ?_ ((ih hrest).trans ?_)) hsplit
    · refine List.Perm.of_eq (List.filter_congr fun m _ => ?_)
      cases hm : m.interface with
      | none => rfl
      | some j => by_cases hj : j = i <;> simp [hj]
    · refine List.Perm.of_eq (List.filter_congr fun m _ => ?_)
      cases hm : m.interface with
      | none => rfl
      | some j =>
        by_cases hj : j = i
        · subst hj
          simpa using hi
        · simp [hj]

theorem sorted_byInterface {ms : List Method} (h : ∀ m ∈ ms, m.interface.isSome) :
    SortedByInterface ms (byInterface ms) := by
  have hmem : ∀ m ∈ ms, ∃ i ∈ (ms.filterMap Method.interface).eraseDups,
      m.interface = some i := by
    intro m hm
    obtain ⟨i, hi⟩ := Option.isSome_iff_exists.mp (h m hm)
    exact ⟨i, List.mem_eraseDups.mpr (List.mem_filterMap.mpr ⟨m, hm, hi⟩), hi⟩
  unfold byInterface
  refine ⟨?_, ?_, ?_, ?_, ?_⟩
  · rw [List.flatMap_map]
    refine (perm_flatMap_filter (nodup_eraseDups _) ms).trans (List.Perm.of_eq ?_)
    rw [List.filter_eq_self]
    intro m hm
    obtain ⟨i, hi, hmi⟩ := hmem m hm
    simpa [hmi] using List.mem_eraseDups.mp hi
  · intro b hb
    obtain ⟨i, hi, rfl⟩ := List.mem_map.mp hb
    obtain ⟨m, hm, hmi⟩ := List.mem_filterMap.mp (List.mem_eraseDups.mp hi)
    exact List.ne_nil_of_mem (List.mem_filter.mpr ⟨hm, by simp [hmi]⟩)
  · rw [List.map_map]
    exact (List.map_id _).symm ▸ nodup_eraseDups _
  · rw [List.pairwise_map]
    refine (pairwise_idxOf_eraseDups _).imp fun {a b} hlt => ?_
    rw [findIdx_interface h, findIdx_interface h]
    exact hlt
  · intro b hb
    obtain ⟨i, -, rfl⟩ := List.mem_map.mp hb
    rfl

/-! ## The methods of a definition -/

/-- The methods that a definition has, before they are sorted: the chosen declarations, and the
defaults (`Start`, `Awake`, `OnAfterDeserialize`, `OnBeforeSerialize`) that none of them replaces.
-/
def entries (known : Messages) (policy : DuplicatePolicy) (declarations : List Declaration) :
    List Method :=
  chosen policy (declared known declarations) ++
    absent known ((declared known declarations).map Method.name) defaults

example : defaults.map Default.name =
    ["Start", "Awake", "OnAfterDeserialize", "OnBeforeSerialize"] := rfl

/-- The stages of a definition together: its buckets hold its entries, and these cover all that is
declared. -/
theorem of_yields_compile {known : Messages} {policy : DuplicatePolicy} {ambient : Option Place}
    {d : Input} {c : Component} {t t' : Trace}
    (h : Yields (compile known policy ambient d) t c t') :
    (policy = .refuse → ((declared known d.declarations).map Method.name).Nodup) ∧
      ((entries known policy d.declarations).map Method.name).Nodup ∧
      (∀ x ∈ (declared known d.declarations).map Method.name,
        x ∈ (entries known policy d.declarations).map Method.name) ∧
      SortedByInterface ((entries known policy d.declarations).map (withLoading d.moduleName))
        c.implementations := by
  unfold compile at h
  simp only [yields_bind, CompileM.yields_ofExcept, yields_pure] at h
  obtain ⟨ds, _, ⟨hds, rfl⟩, kept, t₁, hkept, added, _, ⟨hadded, rfl⟩, _, _, -, rfl, -⟩ := h
  obtain ⟨rfl, hdsome⟩ := declaredMethods_eq_ok hds
  obtain ⟨rfl, hrefuse, hnodup, hnames⟩ := of_yields_settle hkept
  obtain ⟨rfl, hasome⟩ := missingDefaults_eq_ok hadded
  have hentries : chosen policy (declared known d.declarations) ++ absent known
      ((chosen policy (declared known d.declarations)).map Method.name) defaults =
      entries known policy d.declarations := by
    rw [entries, absent_congr hnames]
  have hsome : ∀ m ∈ entries known policy d.declarations, m.interface.isSome := by
    intro m hm
    rw [← hentries] at hm
    rcases List.mem_append.mp hm with hm | hm
    · exact hdsome m (mem_of_mem_pick hm)
    · exact hasome m hm
  refine ⟨hrefuse, ?_, ?_, ?_⟩
  · rw [← hentries]
    exact nodup_names_append_absent hnodup (by decide)
  · intro x hx
    rw [entries, List.map_append, List.mem_append, hnames]
    exact Or.inl hx
  · rw [hentries]
    refine sorted_byInterface fun m hm => ?_
    obtain ⟨e, he, rfl⟩ := List.mem_map.mp hm
    rw [(delivers_withLoading d.moduleName e).interface]
    exact hsome e he

/-- A definition neither loses nor duplicates a method: what it delivers are its entries, whose
names are distinct and cover every declared name, sorted by interface. -/
theorem definition_keeps_each_method {known : Messages} {policy : DuplicatePolicy}
    {ambient : Option Place} {d : Input} {c : Component} {t t' : Trace}
    (h : Yields (compile known policy ambient d) t c t') :
    (policy = .refuse → ((declared known d.declarations).map Method.name).Nodup) ∧
      ((entries known policy d.declarations).map Method.name).Nodup ∧
      (∀ m ∈ declared known d.declarations,
        m.name ∈ (entries known policy d.declarations).map Method.name) ∧
      ∃ ms, List.Forall₂ (Delivers d.moduleName) (entries known policy d.declarations) ms ∧
        SortedByInterface ms c.implementations := by
  obtain ⟨hrefuse, hnodup, hnames, hsorted⟩ := of_yields_compile h
  refine ⟨hrefuse, hnodup, fun m hm => hnames m.name (List.mem_map_of_mem hm),
    (entries known policy d.declarations).map (withLoading d.moduleName), ?_, hsorted⟩
  rw [List.forall₂_map_right_iff]
  exact List.forall₂_same.mpr fun m _ => delivers_withLoading d.moduleName m

/-- A definition with `Update` once as a message and once in a group, and with its own `Awake`. -/
def twiceUpdated : Input :=
  { name := "Mover"
    declarations :=
      [ .message { name := "Update", params := [{ name := "self" }], body := [.ret none] },
        .message { name := "Awake", params := [{ name := "this" }], body := [.brk] },
        .group "IUpdate" [{ name := "Update", params := [{ name := "self" }], body := [] }] ] }

/-- The later `Update` takes the place of the earlier one, after `Awake`. -/
theorem twiceUpdated_keeps_each_method :
    (entries .standard .keepLast twiceUpdated.declarations).map
        (fun m => (m.name, m.body.length)) =
      [("Awake", 1), ("Update", 0), ("Start", 0), ("OnAfterDeserialize", 1),
        ("OnBeforeSerialize", 1)] ∧
    ∃ c t', Yields (compile .standard .keepLast none twiceUpdated) {} c t' ∧
      ∃ ms, List.Forall₂ (Delivers none)
        (entries .standard .keepLast twiceUpdated.declarations) ms ∧
        SortedByInterface ms c.implementations := by
  refine ⟨by decide, ?_⟩
  have hc : ∃ c t', Yields (compile .standard .keepLast none twiceUpdated) {} c t' := ⟨_, _, rfl⟩
  obtain ⟨c, t', h⟩ := hc
  obtain ⟨-, -, -, hms⟩ := definition_keeps_each_method h
  exact ⟨c, t', h, hms⟩

/-! ## The fields of a definition -/

/-- Accepted fields have distinct names that are not reserved, and none is that of the serialized
state or of a method. -/
theorem checkFields_eq_ok {component : String} {ambient : Option Place}
    {methodNames met : List String} {fields : List Field}
    (h : checkFields component ambient methodNames met fields = .ok ()) :
    (fields.map Field.name).Nodup ∧ ∀ f ∈ fields, Text.isReserved f.name = false ∧
      f.name ≠ serializedField ∧ f.name ∉ methodNames ∧ f.name ∉ met := by
  induction fields generalizing met with
  | nil => simp
  | cons f rest ih =>
    unfold checkFields at h
    dsimp only at h
    split_ifs at h with hname hgenerated hstate hmet hmethod
    obtain ⟨hnodup, hrest⟩ := ih h
    have hfree : Text.isReserved f.name = false := by simp_all
    constructor
    · rw [List.map_cons, List.nodup_cons]
      refine ⟨fun hmem => ?_, hnodup⟩
      obtain ⟨g, hg, hgf⟩ := List.mem_map.mp hmem
      exact (hrest g hg).2.2.2 (hgf ▸ List.mem_cons_self)
    · refine List.forall_mem_cons.mpr ⟨⟨hfree, hstate, by simpa using hmethod, by simpa using hmet⟩,
        fun g hg => ?_⟩
      obtain ⟨hfree', hstate', hmethod', hmet'⟩ := hrest g hg
      exact ⟨hfree', hstate', hmethod', fun hmem => hmet' (List.mem_cons_of_mem f.name hmem)⟩

theorem mem_of_mem_byInterface {ms : List Method} {m : Method}
    (h : m ∈ (byInterface ms).flatMap Implementation.methods) : m ∈ ms := by
  obtain ⟨b, hb, hm⟩ := List.mem_flatMap.mp h
  obtain ⟨interface, -, rfl⟩ := List.mem_map.mp hb
  exact List.mem_of_mem_filter hm

theorem fields_of_compile {known : Messages} {policy : DuplicatePolicy} {ambient : Option Place}
    {d : Input} {c : Component} {t t' : Trace}
    (h : Yields (compile known policy ambient d) t c t') :
    c.fields = completeFields d.constant d.fields ∧ c.constant = d.constant ∧
      (d.fields.map Field.name).Nodup ∧ ∀ f ∈ d.fields, Text.isReserved f.name = false ∧
        f.name ≠ serializedField ∧ f.name ∉ c.methods.map Method.name := by
  unfold compile at h
  simp only [yields_bind, CompileM.yields_ofExcept, yields_pure] at h
  obtain ⟨_, _, -, _, _, -, _, _, -, _, _, ⟨hfields, -⟩, rfl, -⟩ := h
  obtain ⟨hnodup, hall⟩ := checkFields_eq_ok hfields
  refine ⟨rfl, rfl, hnodup, fun f hf => ⟨(hall f hf).1, (hall f hf).2.1, fun hmem => ?_⟩⟩
  obtain ⟨m, hm, hname⟩ := List.mem_map.mp hmem
  exact (hall f hf).2.2.1 (List.mem_map.mpr ⟨m, mem_of_mem_byInterface hm, hname⟩)

theorem names_completeFields (constant : Bool) (fields : List Field) :
    (completeFields constant fields).map Field.name =
      fields.map Field.name ++ if constant then [serializedField] else [] := by
  cases constant <;> simp [completeFields, stateField, Function.comp_def]

/-- The members of a component have names of their own, but for the field that a constant component
adds. -/
theorem settled_of_compile {known : Messages} {policy : DuplicatePolicy} {ambient : Option Place}
    {d : Input} {c : Component} {t t' : Trace}
    (h : Yields (compile known policy ambient d) t c t') : c.Settled := by
  obtain ⟨hc, hconstant, hnodup, hall⟩ := fields_of_compile h
  obtain ⟨-, hentries, -, hsorted⟩ := of_yields_compile h
  have hnames := names_completeFields d.constant d.fields
  have hmem {x : String} (hx : x ∈ c.fields.map Field.name) :
      x ∈ d.fields.map Field.name ∨ c.constant = true ∧ x = serializedField := by
    rw [hc, hnames, ← hconstant] at hx
    split_ifs at hx <;> simp_all
  refine ⟨?_, fun x hx => ?_, ?_, fun x hx hmethod => ?_, fun hstate => ?_⟩
  · rw [hc, hnames]
    refine hnodup.append (by split_ifs <;> simp) fun x hx hstate => ?_
    obtain ⟨f, hf, rfl⟩ := List.mem_map.mp hx
    split_ifs at hstate
    · exact (hall f hf).2.1 (List.mem_singleton.mp hstate)
    · exact List.not_mem_nil hstate
  · rcases hmem hx with hx | ⟨-, rfl⟩
    · obtain ⟨f, hf, rfl⟩ := List.mem_map.mp hx
      exact (hall f hf).1
    · decide
  · have hperm := hsorted.perm.map Method.name
    refine hperm.nodup_iff.mpr ?_
    rw [List.map_map]
    exact (List.map_congr_left fun m _ => (delivers_withLoading d.moduleName m).name) ▸ hentries
  · refine (hmem hx).resolve_left fun hx => ?_
    obtain ⟨f, hf, rfl⟩ := List.mem_map.mp hx
    exact (hall f hf).2.2 hmethod
  · rw [hc, hnames, ← hconstant, if_pos hstate]
    exact List.mem_append_right _ (List.mem_singleton_self _)

/-- A constant component has fields of distinct names, and among them its serialized state, which
the host stores. -/
theorem fields_of_constant {known : Messages} {policy : DuplicatePolicy} {ambient : Option Place}
    {d : Input} {c : Component} {t t' : Trace}
    (h : Yields (compile known policy ambient d) t c t') (hd : d.constant = true) :
    (c.fields.map Field.name).Nodup ∧ stateField ∈ c.fields := by
  refine ⟨(settled_of_compile h).fields, ?_⟩
  simp [(fields_of_compile h).1, completeFields, hd]

end Definition

end Componentry
