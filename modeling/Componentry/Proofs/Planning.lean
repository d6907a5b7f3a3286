import Componentry.Dispatch.Plan
import Componentry.Proofs.Registry
import Mathlib.Data.List.Find

/-!
# Which clause a plan runs

A dispatch that knows nothing tries its clauses in order and runs the first that accepts the
subject (`dynamicChoice`). A plan tries fewer. The main facts, for a subject whose runtime type is
a subtype of the plan's static type:

* `survivors_find?`: dropping unrelated clauses and those behind a clause that always matches does
  not change which clause is the first to accept the subject, because the bases of the subject's
  type are comparable;
* `make_pick`: the clause that a plan runs stands at `choice`, which is the dynamic choice unless a
  clause names the static type itself;
* `exactChoice_eq_dynamicChoice_iff`: then the first such clause runs, and this is the dynamic
  choice unless an earlier clause accepts the subject.
-/

namespace Componentry

variable {α β : Type}

/-- Changes what is done with the subject. -/
def Clause.map (f : α → β) (c : Clause α) : Clause β := ⟨c.type, f c.branch⟩

/-- The items up to the first that passes, which is the last one tried. -/
def upTo (p : α → Bool) : List α → List α
  | [] => []
  | a :: rest => if p a then [a] else a :: upTo p rest

theorem upTo_length_le (p : α → Bool) (as : List α) : (upTo p as).length ≤ as.length := by
  fun_induction upTo p as with
  | case1 => simp
  | case2 => simp
  | case3 a rest _ ih => simpa using ih

theorem upTo_map (f : α → β) (p : β → Bool) (as : List α) :
    upTo p (as.map f) = (upTo (fun a => p (f a)) as).map f := by
  induction as with
  | nil => rfl
  | cons a rest ih =>
    rw [List.map_cons, upTo, upTo, ih]
    split_ifs <;> rfl

theorem upTo_congr {p q : α → Bool} {as : List α} (h : ∀ a ∈ as, p a = q a) :
    upTo p as = upTo q as := by
  induction as with
  | nil => rfl
  | cons a rest ih =>
    rw [upTo, upTo, h a List.mem_cons_self, ih fun b hb => h b (List.mem_cons_of_mem _ hb)]

namespace Plan

/-! ## Plans do not look at branches -/

/-- Changes what is done with the subject in every clause. -/
def map (f : α → β) : Plan α → Plan β
  | full cs => full (cs.map (Clause.map f))
  | exact t c => exact t (c.map f)
  | pruned t cs => pruned t (cs.map (Clause.map f))
  | fallback t => fallback t

@[simp] theorem staticType_map (f : α → β) (p : Plan α) : (p.map f).staticType = p.staticType := by
  cases p <;> rfl

@[simp] theorem clauses_map (f : α → β) (p : Plan α) :
    (p.map f).clauses = p.clauses.map (Clause.map f) := by
  cases p <;> rfl

theorem survivors_map (r : Registry) (t : HostType) (f : α → β) (cs : List (Clause α)) :
    survivors r t (cs.map (Clause.map f)) = (survivors r t cs).map (Clause.map f) := by
  induction cs with
  | nil => rfl
  | cons c rest ih =>
    simp only [List.map_cons, survivors, ih, show (c.map f).type = c.type from rfl]
    split_ifs <;> rfl

theorem make_map (r : Registry) (static : Option HostType) (f : α → β) (cs : List (Clause α)) :
    make r static (cs.map (Clause.map f)) = (make r static cs).map f := by
  cases static with
  | none => rfl
  | some t =>
    have hfind : (cs.map (Clause.map f)).find? (·.type.fullName == t.fullName) =
        (cs.find? (·.type.fullName == t.fullName)).map (Clause.map f) := by
      rw [List.find?_map]
      rfl
    unfold make
    simp only [hfind, survivors_map]
    cases cs.find? (·.type.fullName == t.fullName) with
    | some c => rfl
    | none => cases survivors r t cs <;> rfl

/-! ## The clause that runs -/

/-- The clause that a plan runs, where `accepts` decides the type tests; none stands for the
default. -/
def pick (accepts : HostType → Bool) : Plan α → Option (Clause α)
  | exact _ c => some c
  | full cs => cs.find? (accepts ·.type)
  | pruned _ cs => cs.find? (accepts ·.type)
  | fallback _ => none

/-- The types that a plan tests, where `accepts` decides the type tests. -/
def tried (accepts : HostType → Bool) : Plan α → List HostType
  | exact _ _ => []
  | full cs => upTo accepts (cs.map Clause.type)
  | pruned _ cs => upTo accepts (cs.map Clause.type)
  | fallback _ => []

@[simp] theorem pick_map (f : α → β) (accepts : HostType → Bool) (p : Plan α) :
    (p.map f).pick accepts = (p.pick accepts).map (Clause.map f) := by
  cases p <;> simp [map, pick, List.find?_map] <;> rfl

@[simp] theorem tried_map (f : α → β) (accepts : HostType → Bool) (p : Plan α) :
    (p.map f).tried accepts = p.tried accepts := by
  cases p <;> simp [map, tried] <;> rfl

/-- A plan depends on the tests against its own clauses only. -/
theorem pick_congr {p q : HostType → Bool} {plan : Plan α}
    (h : ∀ c ∈ plan.clauses, p c.type = q c.type) :
    plan.pick p = plan.pick q ∧ plan.tried p = plan.tried q := by
  have hupTo (cs : List (Clause α)) (hcs : ∀ c ∈ cs, p c.type = q c.type) :
      upTo p (cs.map Clause.type) = upTo q (cs.map Clause.type) := upTo_congr (by simpa using hcs)
  cases plan with
  | exact t c => exact ⟨rfl, rfl⟩
  | fallback t => exact ⟨rfl, rfl⟩
  | full cs => exact ⟨List.find?_congr h, hupTo cs h⟩
  | pruned t cs => exact ⟨List.find?_congr h, hupTo cs h⟩

theorem tried_length_le (accepts : HostType → Bool) (p : Plan α) :
    (p.tried accepts).length ≤ p.typeTests := by
  cases p with
  | exact t c => simp [tried, typeTests]
  | fallback t => simp [tried, typeTests]
  | full cs => simpa [tried, typeTests] using upTo_length_le accepts (cs.map Clause.type)
  | pruned t cs => simpa [tried, typeTests] using upTo_length_le accepts (cs.map Clause.type)

/-- The position of the first clause that accepts a subject of type `R`. -/
def dynamicChoice (r : Registry) (R : HostType) (cs : List (Clause α)) : Option Nat :=
  cs.findIdx? fun c => r.isSubtype R c.type

/-- The position of the first clause that names the type `T`. -/
def exactChoice (T : HostType) (cs : List (Clause α)) : Option Nat :=
  cs.findIdx? fun c => c.type.fullName == T.fullName

/-- The position of the clause that a plan runs on a subject of type `R`. -/
def choice (r : Registry) (static : Option HostType) (R : HostType) (cs : List (Clause α)) :
    Option Nat :=
  (static.bind (exactChoice · cs)).or (dynamicChoice r R cs)

/-- Whether a plan runs a clause without a test. -/
def isExact : Plan α → Bool
  | exact _ _ => true
  | _ => false

section

variable {r : Registry} {R T : HostType} {static : Option HostType} {cs : List (Clause α)}

/-- Whether a type is a subtype of another depends on the other's name only. -/
theorem isSubtype_congr {C : HostType} (h : C.fullName = T.fullName) :
    r.isSubtype R C = r.isSubtype R T := by
  simp [Registry.isSubtype, h]

theorem exactChoice_eq_dynamicChoice_iff {i : Nat} (hRT : r.isSubtype R T = true)
    (hi : exactChoice T cs = some i) :
    exactChoice T cs = dynamicChoice r R cs ↔
      ∀ j < i, ∀ c, cs[j]? = some c → r.isSubtype R c.type = false := by
  obtain ⟨hlt, hname, -⟩ := List.findIdx?_eq_some_iff_getElem.mp hi
  have haccepts : r.isSubtype R cs[i].type = true := by
    rw [isSubtype_congr (by simpa using hname), hRT]
  rw [hi, eq_comm, dynamicChoice, List.findIdx?_eq_some_iff_getElem]
  constructor
  · rintro ⟨_, _, hbefore⟩ j hj c hc
    obtain ⟨hjlt, rfl⟩ := List.getElem?_eq_some_iff.mp hc
    simpa using hbefore j hj
  · intro hbefore
    refine ⟨hlt, haccepts, fun j hj => ?_⟩
    simpa using hbefore j hj _ (List.getElem?_eq_getElem (hj.trans hlt))

/-- What planning can come to. -/
theorem make_cases (r : Registry) (static : Option HostType) (cs : List (Clause α)) :
    (static = none ∧ make r static cs = full cs) ∨
    (∃ T i c, static = some T ∧ exactChoice T cs = some i ∧ cs[i]? = some c ∧
      make r static cs = exact T c) ∨
    (∃ T, static = some T ∧ exactChoice T cs = none ∧ survivors r T cs = [] ∧
      make r static cs = fallback T) ∨
    (∃ T, static = some T ∧ exactChoice T cs = none ∧
      make r static cs = pruned T (survivors r T cs)) := by
  cases static with
  | none => exact .inl ⟨rfl, rfl⟩
  | some T =>
    have hfind : cs.find? (·.type.fullName == T.fullName) = (exactChoice T cs).bind (cs[·]?) :=
      List.find?_eq_bind_findIdx?_getElem?
    cases hi : exactChoice T cs with
    | some i =>
      obtain ⟨hlt, -, -⟩ := List.findIdx?_eq_some_iff_getElem.mp hi
      rw [hi, Option.bind_some, List.getElem?_eq_getElem hlt] at hfind
      exact .inr (.inl ⟨T, i, cs[i], rfl, hi, List.getElem?_eq_getElem hlt, by simp [make, hfind]⟩)
    | none =>
      rw [hi, Option.bind_none] at hfind
      cases hs : survivors r T cs with
      | nil => exact .inr (.inr (.inl ⟨T, rfl, hi, hs, by simp [make, hfind, hs]⟩))
      | cons c rest => exact .inr (.inr (.inr ⟨T, rfl, hi, by simp [make, hfind, hs]⟩))

theorem survivors_subset (r : Registry) (T : HostType) (cs : List (Clause α)) :
    survivors r T cs ⊆ cs := by
  induction cs with
  | nil => simp [survivors]
  | cons c rest ih =>
    unfold survivors
    split_ifs
    · exact List.Subset.trans ih (List.subset_cons_self c rest)
    · simp
    · exact List.cons_subset_cons c ih

theorem make_clauses_subset (r : Registry) (static : Option HostType) (cs : List (Clause α)) :
    (make r static cs).clauses ⊆ cs := by
  obtain ⟨-, h⟩ | ⟨T, i, c, -, -, hc, h⟩ | ⟨T, -, -, -, h⟩ | ⟨T, -, -, h⟩ := make_cases r static cs
  · simp [h, clauses]
  · simpa [h, clauses] using List.mem_of_getElem? hc
  · simp [h, clauses]
  · simpa [h, clauses] using survivors_subset r T cs

@[simp] theorem make_staticType (r : Registry) (static : Option HostType) (cs : List (Clause α)) :
    (make r static cs).staticType = static := by
  obtain ⟨rfl, h⟩ | ⟨T, i, c, rfl, -, -, h⟩ | ⟨T, rfl, -, -, h⟩ | ⟨T, rfl, -, h⟩ :=
    make_cases r static cs <;> rw [h] <;> rfl

/-! ## Pruning -/

/-- A clause unrelated to the static type rejects the subject: otherwise the two types would have
the subject's type as a common subtype. -/
theorem rejects_of_unrelated (hf : Registry.Forest r.types) (hR : R ∈ r.types) (hT : T ∈ r.types)
    (hRT : r.isSubtype R T = true) {C : HostType} (hC : C ∈ r.types)
    (hunrelated : r.areRelated T C = false) : r.isSubtype R C = false := by
  by_contra haccept
  have hrelated := Registry.areRelated_of_common hf hR hT hC hRT (by simpa using haccept)
  simp [hunrelated] at hrelated

/-- Pruning drops a clause that rejects the subject, ends at one that accepts it, or keeps it. -/
theorem survivors_cons_cases (hf : Registry.Forest r.types) (hR : R ∈ r.types) (hT : T ∈ r.types)
    (hRT : r.isSubtype R T = true) (hc : c.type ∈ r.types) (rest : List (Clause α)) :
    (r.isSubtype R c.type = false ∧ survivors r T (c :: rest) = survivors r T rest) ∨
      (r.isSubtype R c.type = true ∧ survivors r T (c :: rest) = [c]) ∨
      survivors r T (c :: rest) = c :: survivors r T rest := by
  rw [survivors]
  split_ifs with hunrelated hsuper
  · exact .inl ⟨rejects_of_unrelated hf hR hT hRT hc (by simpa using hunrelated), rfl⟩
  · exact .inr (.inl ⟨Registry.isSubtype_trans hf hR hT hc hRT hsuper, rfl⟩)
  · exact .inr (.inr rfl)

/-- **Pruning keeps the first clause that accepts the subject.** -/
theorem survivors_find? (hf : Registry.Forest r.types) (hR : R ∈ r.types) (hT : T ∈ r.types)
    (hRT : r.isSubtype R T = true) (hcs : ∀ c ∈ cs, c.type ∈ r.types) :
    (survivors r T cs).find? (r.isSubtype R ·.type) = cs.find? (r.isSubtype R ·.type) := by
  induction cs with
  | nil => rfl
  | cons c rest ih =>
    obtain ⟨hc, hrest⟩ := List.forall_mem_cons.mp hcs
    obtain ⟨hreject, h⟩ | ⟨haccept, h⟩ | h := survivors_cons_cases hf hR hT hRT hc rest
    · simp [h, hreject, ih hrest]
    · simp [h, haccept]
    · simp [h, List.find?_cons, ih hrest]

theorem upTo_survivors_length_le (hf : Registry.Forest r.types) (hR : R ∈ r.types)
    (hT : T ∈ r.types) (hRT : r.isSubtype R T = true) (hcs : ∀ c ∈ cs, c.type ∈ r.types) :
    (upTo (r.isSubtype R) ((survivors r T cs).map Clause.type)).length ≤
      (upTo (r.isSubtype R) (cs.map Clause.type)).length := by
  induction cs with
  | nil => simp [survivors]
  | cons c rest ih =>
    obtain ⟨hc, hrest⟩ := List.forall_mem_cons.mp hcs
    have ih := ih hrest
    obtain ⟨hreject, h⟩ | ⟨haccept, h⟩ | h := survivors_cons_cases hf hR hT hRT hc rest
    · simp only [h, List.map_cons, upTo, hreject, Bool.false_eq_true, if_false, List.length_cons]
      omega
    · simp [h, upTo, haccept]
    · simp only [h, List.map_cons, upTo]
      split_ifs
      · simp
      · simpa using ih

theorem make_tried_length_le (hf : Registry.Forest r.types) (hR : R ∈ r.types)
    (hT : ∀ T ∈ static, T ∈ r.types ∧ r.isSubtype R T = true)
    (hcs : ∀ c ∈ cs, c.type ∈ r.types) :
    ((make r static cs).tried (r.isSubtype R)).length ≤
      ((full cs).tried (r.isSubtype R)).length := by
  obtain ⟨rfl, h⟩ | ⟨T, i, c, rfl, -, -, h⟩ | ⟨T, rfl, -, -, h⟩ | ⟨T, rfl, -, h⟩ :=
    make_cases r static cs
  · rw [h]
  · simp [h, tried]
  · simp [h, tried]
  · obtain ⟨hT, hRT⟩ := hT T rfl
    simpa only [h, tried] using upTo_survivors_length_le hf hR hT hRT hcs

theorem choice_eq_dynamicChoice (h : (make r static cs).isExact = false) :
    choice r static R cs = dynamicChoice r R cs := by
  obtain ⟨rfl, -⟩ | ⟨T, i, c, rfl, -, -, hmake⟩ | ⟨T, rfl, hi, -⟩ | ⟨T, rfl, hi, -⟩ :=
    make_cases r static cs
  · simp [choice]
  · simp [hmake, isExact] at h
  · simp [choice, hi]
  · simp [choice, hi]

theorem choice_of_forall_ne (h : ∀ T ∈ static, ∀ c ∈ cs, c.type.fullName ≠ T.fullName) :
    choice r static R cs = dynamicChoice r R cs := by
  cases static with
  | none => rfl
  | some T =>
    have hnone : exactChoice T cs = none := by
      simpa [exactChoice] using h T rfl
    simp [choice, hnone]

theorem choice_of_isExact (h : (make r static cs).isExact = true) :
    ∃ T k, static = some T ∧ exactChoice T cs = some k ∧ choice r static R cs = some k := by
  obtain ⟨rfl, hmake⟩ | ⟨T, k, c, rfl, hk, -, -⟩ | ⟨T, rfl, -, -, hmake⟩ | ⟨T, rfl, -, hmake⟩ :=
    make_cases r static cs
  · simp [hmake, isExact] at h
  · exact ⟨T, k, rfl, hk, by simp [choice, hk]⟩
  · simp [hmake, isExact] at h
  · simp [hmake, isExact] at h

/-- **The clause that a plan runs** stands at `choice`. -/
theorem make_pick (hf : Registry.Forest r.types) (hR : R ∈ r.types)
    (hT : ∀ T ∈ static, T ∈ r.types ∧ r.isSubtype R T = true)
    (hcs : ∀ c ∈ cs, c.type ∈ r.types) :
    (make r static cs).pick (r.isSubtype R) = (choice r static R cs).bind (cs[·]?) := by
  have hdynamic : cs.find? (r.isSubtype R ·.type) = (dynamicChoice r R cs).bind (cs[·]?) :=
    List.find?_eq_bind_findIdx?_getElem?
  obtain ⟨rfl, h⟩ | ⟨T, i, c, rfl, hi, hc, h⟩ | ⟨T, rfl, hi, hs, h⟩ | ⟨T, rfl, hi, h⟩ :=
    make_cases r static cs
  · simp [h, pick, choice, hdynamic]
  · simp [h, pick, choice, hi, hc]
  · obtain ⟨hT, hRT⟩ := hT T rfl
    have hfind := survivors_find? hf hR hT hRT hcs
    simp [h, pick, choice, hi, ← hdynamic, ← hfind, hs]
  · obtain ⟨hT, hRT⟩ := hT T rfl
    simp [h, pick, choice, hi, ← hdynamic, survivors_find? hf hR hT hRT hcs]

end

end Plan

/-! ## Resolving the types of clauses -/

section

variable {r : Registry} {clauses : List (String × α)} {cs : List (Clause α)}

theorem resolveClauses_cons {c : String × α} :
    resolveClauses r (c :: clauses) = .ok cs ↔
      ∃ t cs', r.lookup c.1 = some t ∧ resolveClauses r clauses = .ok cs' ∧
        ⟨t, c.2⟩ :: cs' = cs := by
  have hcons : resolveClauses r (c :: clauses) = (r.ensure c.1).bind fun t =>
      (resolveClauses r clauses).bind fun cs' => .ok (⟨t, c.2⟩ :: cs') := rfl
  rw [hcons]
  constructor
  · intro h
    cases ht : r.ensure c.1 with
    | error e => cases ht ▸ h
    | ok t =>
      rw [ht] at h
      cases hrest : resolveClauses r clauses with
      | error e => cases hrest ▸ h
      | ok cs' => exact ⟨t, cs', Registry.ensure_eq_ok.mp ht, rfl, Except.ok.inj (hrest ▸ h)⟩
  · rintro ⟨t, cs', ht, hrest, rfl⟩
    rw [Registry.ensure_eq_ok.mpr ht, hrest]
    rfl

theorem exists_resolveClauses (h : ∀ c ∈ clauses, (r.lookup c.1).isSome) :
    ∃ cs, resolveClauses r clauses = .ok cs := by
  induction clauses with
  | nil => exact ⟨[], rfl⟩
  | cons c rest ih =>
    obtain ⟨cs, hcs⟩ := ih fun c' hc' => h c' (List.mem_cons_of_mem _ hc')
    obtain ⟨t, ht⟩ := Option.isSome_iff_exists.mp (h c List.mem_cons_self)
    exact ⟨_, resolveClauses_cons.mpr ⟨t, cs, ht, hcs, rfl⟩⟩

/-- A resolved clause keeps its branch and gets the type that its designator names. -/
theorem of_mem_resolveClauses (h : resolveClauses r clauses = .ok cs) :
    ∀ c ∈ cs, ∃ d, r.lookup d = some c.type ∧ (d, c.branch) ∈ clauses := by
  induction clauses generalizing cs with
  | nil =>
    obtain rfl : [] = cs := Except.ok.inj h
    simp
  | cons c rest ih =>
    obtain ⟨t, cs', ht, hrest, rfl⟩ := resolveClauses_cons.mp h
    refine List.forall_mem_cons.mpr ⟨⟨c.1, ht, List.mem_cons_self⟩, fun c' hc' => ?_⟩
    obtain ⟨d, hd, hmem⟩ := ih hrest c' hc'
    exact ⟨d, hd, List.mem_cons_of_mem c hmem⟩

/-- Clauses that share a branch and are written with full names have these names. -/
theorem fullNames_of_resolveClauses {b : α} {types : List String}
    (h : resolveClauses r (types.map fun type => (type, b)) = .ok cs)
    (htypes : ∀ d ∈ types, ∃ C, r.lookup d = some C ∧ C.fullName = d) :
    (cs.map Clause.type).map HostType.fullName = types ∧ ∀ c ∈ cs, c.branch = b := by
  induction types generalizing cs with
  | nil =>
    obtain rfl : [] = cs := Except.ok.inj h
    simp
  | cons d rest ih =>
    obtain ⟨C, cs', hC, hrest, rfl⟩ := resolveClauses_cons.mp h
    obtain ⟨⟨C', hC', hname⟩, hothers⟩ := List.forall_mem_cons.mp htypes
    obtain rfl : C = C' := Option.some.inj (hC.symm.trans hC')
    obtain ⟨hnames, hbranches⟩ := ih hrest hothers
    exact ⟨by simp [hname, hnames], by simpa using hbranches⟩

theorem mem_of_resolveClauses (h : resolveClauses r clauses = .ok cs) :
    ∀ c ∈ cs, c.type ∈ r.types := by
  intro c hc
  obtain ⟨d, hd, -⟩ := of_mem_resolveClauses h c hc
  exact Registry.mem_of_lookup hd

theorem resolveClauses_map (f : α → β) (h : resolveClauses r clauses = .ok cs) :
    resolveClauses r (clauses.map fun c => (c.1, f c.2)) = .ok (cs.map (Clause.map f)) := by
  induction clauses generalizing cs with
  | nil =>
    obtain rfl : [] = cs := Except.ok.inj h
    rfl
  | cons c rest ih =>
    obtain ⟨t, cs', ht, hrest, rfl⟩ := resolveClauses_cons.mp h
    exact resolveClauses_cons.mpr ⟨t, _, ht, ih hrest, rfl⟩

/-- Planning is making a plan from resolved clauses, whatever is done with the subject. -/
theorem planDispatch_map (f : α → β) (h : resolveClauses r clauses = .ok cs) (env : TypeEnv)
    (value : Ir.Expr) (bindType : Option HostType) :
    planDispatch r env value bindType (clauses.map fun c => (c.1, f c.2)) =
      .ok ((Plan.make r (subjectType r env value bindType) cs).map f) := by
  rw [planDispatch, resolveClauses_map f h, ← Plan.make_map]
  rfl

theorem planDispatch_eq_ok {env : TypeEnv} {value : Ir.Expr} {bindType : Option HostType}
    {plan : Plan α} :
    planDispatch r env value bindType clauses = .ok plan ↔
      ∃ cs, resolveClauses r clauses = .ok cs ∧
        Plan.make r (subjectType r env value bindType) cs = plan := by
  cases h : resolveClauses r clauses <;> simp [planDispatch, h, bind, Except.bind]

/-- A plan rests on the subject's static type and keeps only clauses that it was given. -/
theorem of_mem_planDispatch {env : TypeEnv} {value : Ir.Expr} {bindType : Option HostType}
    {plan : Plan α} (h : planDispatch r env value bindType clauses = .ok plan) :
    plan.staticType = subjectType r env value bindType ∧
      ∀ c ∈ plan.clauses, ∃ d, r.lookup d = some c.type ∧ (d, c.branch) ∈ clauses := by
  obtain ⟨cs, hcs, rfl⟩ := planDispatch_eq_ok.mp h
  refine ⟨Plan.make_staticType r _ cs, fun c hc => ?_⟩
  exact of_mem_resolveClauses hcs c (Plan.make_clauses_subset r _ cs hc)

theorem branch_of_mem_planDispatch {env : TypeEnv} {value : Ir.Expr} {bindType : Option HostType}
    {types : List String} {b : α} {plan : Plan α}
    (h : planDispatch r env value bindType (types.map fun type => (type, b)) = .ok plan) :
    ∀ c ∈ plan.clauses, c.branch = b := by
  intro c hc
  obtain ⟨d, -, hmem⟩ := (of_mem_planDispatch h).2 c hc
  obtain ⟨type, -, heq⟩ := List.mem_map.mp hmem
  exact (congrArg Prod.snd heq).symm

end

end Componentry
