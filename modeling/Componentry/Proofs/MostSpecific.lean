import Componentry.Proofs.Hierarchy
import Componentry.Typing.Resolve
import Mathlib.Data.List.ReduceOption

/-!
# The most specific of several types

`mostSpecific` goes through a list once and keeps one type, the champion. A candidate is compared
with the champion only, and takes over if it is a strict subtype of it.

**Theorem (`mostSpecific_minimal`).** The pass ends without a type exactly if it met none. Otherwise
it ends with a type of the list that is below the first one, and no type of the list is strictly
below it. Unknown entries change nothing. If any two types of the list are related, their order does
not matter either.

A champion is only ever replaced by a subtype. So a candidate that lost against an earlier champion
is not strictly below any later one: by transitivity it would have been below the earlier one too.
Of related types the champion is below all, and only one full name can be.
-/

namespace Componentry

namespace Registry

variable {r : Registry} {s t u : HostType}

theorem isStrictSubtype_iff :
    r.isStrictSubtype s t = true ↔ s.fullName ≠ t.fullName ∧ r.isSubtype s t = true := by
  simp [isStrictSubtype]

theorem isStrictSubtype_irrefl (r : Registry) (t : HostType) : r.isStrictSubtype t t = false := by
  simp [isStrictSubtype]

theorem isSubtype_of_strict (h : r.isStrictSubtype s t = true) : r.isSubtype s t = true :=
  (isStrictSubtype_iff.mp h).2

/-- What is strictly below a type is strictly below the bases of that type. -/
theorem isStrictSubtype_of_isSubtype (hf : Forest r.types) (hs : s ∈ r.types) (ht : t ∈ r.types)
    (hu : u ∈ r.types) (hst : r.isStrictSubtype s t = true) (htu : r.isSubtype t u = true) :
    r.isStrictSubtype s u = true := by
  obtain ⟨hne, hst⟩ := isStrictSubtype_iff.mp hst
  refine isStrictSubtype_iff.mpr ⟨fun hname => hne ?_, isSubtype_trans hf hs ht hu hst htu⟩
  -- A type has its full name for itself, so `s` is `u`, and `t` is both below and above it.
  obtain rfl := hf.eq_of_fullName hs hu hname
  exact isSubtype_antisymm hf hs ht hst htu

/-- Of two related types, one that is not strictly below the other is above it. -/
theorem isSubtype_of_areRelated (hrelated : r.areRelated s t = true)
    (hnot : r.isStrictSubtype t s = false) : r.isSubtype s t = true := by
  rcases Bool.or_eq_true_iff.mp hrelated with h | h
  · exact h
  · by_cases hname : t.fullName = s.fullName
    · simp [isSubtype, ancestors, hname]
    · simp [isStrictSubtype_iff.mpr ⟨hname, h⟩] at hnot

end Registry

/-! ## The pass over known types -/

@[simp] theorem challenge_none (r : Registry) (champion : Option HostType) :
    challenge r champion none = champion := by
  cases champion <;> rfl

@[simp] theorem challenge_first (r : Registry) (t : HostType) :
    challenge r none (some t) = some t := rfl

@[simp] theorem challenge_some (r : Registry) (c t : HostType) :
    challenge r (some c) (some t) = some (if r.isStrictSubtype t c then t else c) := by
  simp only [challenge]
  split_ifs <;> rfl

theorem foldl_challenge_reduceOption (r : Registry) (types : List (Option HostType))
    (champion : Option HostType) :
    types.foldl (challenge r) champion =
      types.reduceOption.foldl (fun c t => challenge r c (some t)) champion := by
  induction types generalizing champion with
  | nil => rfl
  | cons t rest ih =>
    cases t with
    | none => rw [List.foldl_cons, challenge_none, List.reduceOption_cons_of_none, ih]
    | some t => rw [List.foldl_cons, List.reduceOption_cons_of_some, List.foldl_cons, ih]

theorem mostSpecific_eq (r : Registry) (types : List (Option HostType)) :
    mostSpecific r types =
      types.reduceOption.foldl (fun c t => challenge r c (some t)) none :=
  foldl_challenge_reduceOption r types none

/-- The type is one of the list, it is below the first of the list, and none of the list is strictly
below it. -/
structure Champion (r : Registry) (ts : List HostType) (c : HostType) : Prop where
  mem : c ∈ ts
  below : ∀ first ∈ ts.head?, r.isSubtype c first = true
  minimal : ∀ t ∈ ts, r.isStrictSubtype t c = false

namespace Champion

open Registry

variable {r : Registry} {ts ts' : List HostType} {c c' t : HostType}

theorem first (r : Registry) (t : HostType) : Champion r [t] t where
  mem := List.mem_singleton_self t
  below first hfirst := by
    obtain rfl : t = first := by simpa using hfirst
    exact isSubtype_refl r t
  minimal u hu := by
    obtain rfl := List.mem_singleton.mp hu
    exact isStrictSubtype_irrefl r u

theorem head?_append (h : Champion r ts c) (t : HostType) : (ts ++ [t]).head? = ts.head? :=
  List.head?_append_of_ne_nil ts (List.ne_nil_of_mem h.mem)

/-- **One step.** After a further candidate the champion is the candidate or the one before. -/
theorem step (hf : Forest r.types) (hts : ∀ u ∈ ts, u ∈ r.types) (ht : t ∈ r.types)
    (h : Champion r ts c) :
    Champion r (ts ++ [t]) (if r.isStrictSubtype t c then t else c) := by
  have hc := hts c h.mem
  split_ifs with hstrict
  · have htc := isSubtype_of_strict hstrict
    refine ⟨by simp, fun first hfirst => ?_, fun u hu => ?_⟩
    · rw [h.head?_append] at hfirst
      exact isSubtype_trans hf ht hc (hts first (List.mem_of_mem_head? hfirst)) htc
        (h.below first hfirst)
    · rcases List.mem_append.mp hu with hu | hu
      · -- Strictly below `t`, `u` would have been strictly below the champion that `t` replaces.
        rw [← Bool.not_eq_true]
        intro hut
        simpa [h.minimal u hu] using isStrictSubtype_of_isSubtype hf (hts u hu) ht hc hut htc
      · obtain rfl := List.mem_singleton.mp hu
        exact isStrictSubtype_irrefl r u
  · refine ⟨List.mem_append_left _ h.mem, fun first hfirst => ?_, fun u hu => ?_⟩
    · rw [h.head?_append] at hfirst
      exact h.below first hfirst
    · rcases List.mem_append.mp hu with hu | hu
      · exact h.minimal u hu
      · obtain rfl := List.mem_singleton.mp hu
        simpa using hstrict

/-- **The whole pass.** It goes on from the champion of what it has met. -/
theorem foldl (hf : Forest r.types) {rest : List HostType} (hts : ∀ u ∈ ts ++ rest, u ∈ r.types)
    (h : Champion r ts c) :
    ∃ c', rest.foldl (fun c t => challenge r c (some t)) (some c) = some c' ∧
      Champion r (ts ++ rest) c' := by
  induction rest generalizing ts c with
  | nil => exact ⟨c, rfl, by simpa using h⟩
  | cons t rest ih =>
    have hstep := h.step hf (fun u hu => hts u (by simp [hu])) (hts t (by simp))
    have happend : ts ++ t :: rest = ts ++ [t] ++ rest := by simp
    rw [happend] at hts ⊢
    rw [List.foldl_cons, challenge_some]
    exact ih hts hstep

/-- Of types that are all related the champion is below each. -/
theorem least (h : Champion r ts c) (hrelated : ∀ t ∈ ts, ∀ u ∈ ts, r.areRelated t u = true)
    (ht : t ∈ ts) : r.isSubtype c t = true :=
  isSubtype_of_areRelated (hrelated c h.mem t ht) (h.minimal t ht)

/-- Champions of the same related types have one full name. -/
theorem fullName_eq (hf : Forest r.types) (hts : ∀ u ∈ ts, u ∈ r.types)
    (hrelated : ∀ t ∈ ts, ∀ u ∈ ts, r.areRelated t u = true) (hperm : ts'.Perm ts)
    (h : Champion r ts c) (h' : Champion r ts' c') : c'.fullName = c.fullName := by
  have hc' : c' ∈ ts := hperm.mem_iff.mp h'.mem
  have hrelated' : ∀ t ∈ ts', ∀ u ∈ ts', r.areRelated t u = true := fun t ht u hu =>
    hrelated t (hperm.mem_iff.mp ht) u (hperm.mem_iff.mp hu)
  apply isSubtype_antisymm hf (hts c' hc') (hts c h.mem)
  · exact h'.least hrelated' (hperm.mem_iff.mpr h.mem)
  · exact h.least hrelated hc'

end Champion

/-- The pass ends with a champion, if there is a known type. -/
theorem champion_mostSpecific {r : Registry} (hf : Registry.Forest r.types)
    {types : List (Option HostType)} (htypes : ∀ t ∈ types.reduceOption, t ∈ r.types) :
    types.reduceOption = [] ∧ mostSpecific r types = none ∨
      ∃ c, mostSpecific r types = some c ∧ Champion r types.reduceOption c := by
  rw [mostSpecific_eq]
  cases hknown : types.reduceOption with
  | nil => exact .inl ⟨rfl, rfl⟩
  | cons t rest =>
    rw [hknown] at htypes
    exact .inr ((Champion.first r t).foldl hf htypes)

/-- **The pass finds a minimal type.** The types may come from any registry that grew by accepted
requests, and unknown entries may stand anywhere among them. -/
theorem mostSpecific_minimal {r : Registry} (hr : r.Reachable) (types : List (Option HostType))
    (htypes : ∀ t, some t ∈ types → t ∈ r.types) :
    (mostSpecific r types = none ↔ ∀ entry ∈ types, entry = none) ∧
      (∀ c, mostSpecific r types = some c → Champion r types.reduceOption c) ∧
      (∀ types' : List (Option HostType), types'.reduceOption = types.reduceOption →
        mostSpecific r types' = mostSpecific r types) ∧
      ((∀ t ∈ types.reduceOption, ∀ u ∈ types.reduceOption, r.areRelated t u = true) →
        ∀ types' : List (Option HostType), types'.Perm types →
          (mostSpecific r types').map HostType.fullName =
            (mostSpecific r types).map HostType.fullName) := by
  have hknown : ∀ t ∈ types.reduceOption, t ∈ r.types := fun t ht =>
    htypes t (List.reduceOption_mem_iff.mp ht)
  have hempty : types.reduceOption = [] ↔ ∀ entry ∈ types, entry = none := by
    simp [List.reduceOption]
  refine ⟨?_, ?_, ?_, ?_⟩
  · rcases champion_mostSpecific hr.forest hknown with ⟨hnil, hnone⟩ | ⟨c, hc, hchampion⟩
    · exact iff_of_true hnone (hempty.mp hnil)
    · refine iff_of_false (by simp [hc]) fun hall => ?_
      exact List.ne_nil_of_mem hchampion.mem (hempty.mpr hall)
  · intro c hc
    rcases champion_mostSpecific hr.forest hknown with ⟨-, hnone⟩ | ⟨c', hc', hchampion⟩
    · simp [hnone] at hc
    · obtain rfl : c' = c := by simpa [hc'] using hc
      exact hchampion
  · intro types' hsame
    rw [mostSpecific_eq, mostSpecific_eq, hsame]
  · intro hrelated types' hperm
    have hperm' : types'.reduceOption.Perm types.reduceOption := hperm.filterMap id
    have hknown' : ∀ t ∈ types'.reduceOption, t ∈ r.types := fun t ht =>
      hknown t (hperm'.mem_iff.mp ht)
    rcases champion_mostSpecific hr.forest hknown with ⟨hnil, hnone⟩ | ⟨c, hc, hchampion⟩
    · rw [mostSpecific_eq r types', hnone]
      rw [hnil] at hperm'
      rw [hperm'.eq_nil]
      rfl
    · rcases champion_mostSpecific hr.forest hknown' with ⟨hnil', -⟩ | ⟨c', hc', hchampion'⟩
      · rw [hnil'] at hperm'
        exact absurd (hperm'.symm.eq_nil ▸ hchampion.mem) List.not_mem_nil
      · rw [hc, hc', Option.map_some, Option.map_some,
          hchampion.fullName_eq hr.forest hknown hrelated hperm' hchampion']

/-- A chain of built-in types, not in its order, with unknown entries. -/
def behaviours : List (Option HostType) :=
  [none, Host.builtin.lookup "Component", Host.builtin.lookup "MonoBehaviour", none,
    Host.builtin.lookup "Behaviour"]

/-- Of the chain the lowest type is found from both ends. -/
theorem behaviours_minimal :
    ∃ c, mostSpecific Host.builtin behaviours = some c ∧ c.fullName = Host.monoBehaviourName ∧
      Champion Host.builtin behaviours.reduceOption c ∧
      (mostSpecific Host.builtin behaviours.reverse).map HostType.fullName =
        some Host.monoBehaviourName := by
  have hknown : ∀ t ∈ behaviours.reduceOption, t ∈ Host.builtin.types := by decide +kernel
  have hrelated : ∀ t ∈ behaviours.reduceOption, ∀ u ∈ behaviours.reduceOption,
      Host.builtin.areRelated t u = true := by decide +kernel
  have hfound : (mostSpecific Host.builtin behaviours).map HostType.fullName =
      some Host.monoBehaviourName := by decide +kernel
  obtain ⟨-, hchampion, -, hperm⟩ := mostSpecific_minimal Registry.builtin_reachable behaviours
    fun t ht => hknown t (List.reduceOption_mem_iff.mpr ht)
  obtain ⟨c, hc, hname⟩ := Option.map_eq_some_iff.mp hfound
  refine ⟨c, hc, hname, hchampion c hc, ?_⟩
  rw [hperm hrelated _ (List.reverse_perm behaviours), hfound]

end Componentry
