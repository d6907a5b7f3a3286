import Componentry.Proofs.WellFormed
import Mathlib.Data.List.TakeWhile

/-!
# Interface names under any history

A registry is asked to declare messages and to make interfaces known. It refuses a message that is
declared already, and then stays as it was.

**Theorem (`interface_names_are_canonical`).** After any history of requests, a message keeps its
interface and a short name its expansion, which is the first interface that was registered with this
last segment. Making a name canonical twice is making it canonical once, so a group may be written
with either name of its interface.

Both tables are told from the history alone (`interfaceFor_afterAll`, `get?_shortNames_afterAll`),
and in both equations what was there before comes first, so that it stays. An expansion ends in its
short name: it has a dot and is left as it is, or it is the short name itself.
-/

namespace Componentry

namespace Messages

/-! ## The last segment -/

/-- The segment is what stands after the last dot of the interface, or all of it without a dot. -/
def EndsIn (interface segment : String) : Prop :=
  '.' ∉ segment.toList ∧ (interface = segment ∨ ∃ front, interface = front ++ "." ++ segment)

theorem endsIn_lastSegment (interface : String) : EndsIn interface (lastSegment interface) := by
  unfold EndsIn lastSegment
  set back := interface.toList.reverse with hback
  have hsplit : interface.toList =
      (back.dropWhile (· != '.')).reverse ++ (back.takeWhile (· != '.')).reverse := by
    rw [← List.reverse_append, List.takeWhile_append_dropWhile, hback, List.reverse_reverse]
  refine ⟨fun hmem => ?_, ?_⟩
  · rw [String.toList_ofList, List.mem_reverse] at hmem
    simpa using List.mem_takeWhile_imp hmem
  · cases hdrop : back.dropWhile (· != '.') with
    | nil =>
      left
      rw [hdrop, List.reverse_nil, List.nil_append] at hsplit
      rw [← hsplit, String.ofList_toList]
    | cons c front =>
      -- The first character that is dropped is the dot.
      right
      have hc : c = '.' := by
        have hhead := List.head?_dropWhile_not (· != '.') back
        simpa [hdrop] using hhead
      refine ⟨String.ofList front.reverse, String.toList_injective ?_⟩
      rw [hsplit, hdrop, hc]
      simp

theorem EndsIn.lastSegment_eq {interface segment : String} (h : EndsIn interface segment) :
    lastSegment interface = segment := by
  obtain ⟨hdot, hinterface⟩ := h
  have hall : ∀ c ∈ segment.toList.reverse, (c != '.') = true := by
    intro c hc
    simpa using fun he : c = '.' => hdot (he ▸ List.mem_reverse.mp hc)
  rcases hinterface with rfl | ⟨front, rfl⟩
  · rw [lastSegment, List.takeWhile_eq_self_iff.mpr hall, List.reverse_reverse,
      String.ofList_toList]
  · have hback : (front ++ "." ++ segment).toList.reverse =
        segment.toList.reverse ++ '.' :: front.toList.reverse := by simp
    rw [lastSegment, hback, List.takeWhile_append_of_pos hall, List.takeWhile_cons_of_neg (by simp),
      List.append_nil, List.reverse_reverse, String.ofList_toList]

theorem lastSegment_eq_iff {interface segment : String} :
    lastSegment interface = segment ↔ EndsIn interface segment :=
  ⟨fun h => h ▸ endsIn_lastSegment interface, EndsIn.lastSegment_eq⟩

instance (interface segment : String) : Decidable (EndsIn interface segment) :=
  decidable_of_iff _ lastSegment_eq_iff

/-- The first of the interfaces that ends in the segment. -/
def FirstEndingIn (interfaces : List String) (segment interface : String) : Prop :=
  ∃ earlier later, interfaces = earlier ++ interface :: later ∧ EndsIn interface segment ∧
    ∀ i ∈ earlier, ¬ EndsIn i segment

theorem find?_lastSegment_eq_some {interfaces : List String} {segment interface : String} :
    interfaces.find? (lastSegment · == segment) = some interface ↔
      FirstEndingIn interfaces segment interface := by
  simp only [List.find?_eq_some_iff_append, beq_iff_eq, Bool.not_eq_true',
    beq_eq_false_iff_ne, ne_eq, lastSegment_eq_iff, FirstEndingIn]
  constructor
  · rintro ⟨hends, earlier, later, hsplit, hearlier⟩
    exact ⟨earlier, later, hsplit, hends, hearlier⟩
  · rintro ⟨earlier, later, hsplit, hends, hearlier⟩
    exact ⟨hends, earlier, later, hsplit, hearlier⟩

/-! ## Requests -/

/-- A request to a registry of messages. -/
inductive Request where
  | message (name : String) (interface : Option String)
  | interface (name : String)

/-- The registry that a request leaves. A refused declaration changes nothing. -/
def after (m : Messages) : Request → Messages
  | .message name interface =>
    match m.register name interface with
    | .ok (_, m') => m'
    | .error _ => m
  | .interface name => m.addInterface name

/-- The registry that a history of requests leaves, accepted and refused ones. -/
def afterAll (m : Messages) (requests : List Request) : Messages := requests.foldl after m

/-- The interface of a message that is declared with one or without. An empty name counts as none.
-/
def declaredAs (name : String) (interface : Option String) : String :=
  (interface.filter (· ≠ "")).getD (interfaceOf name)

/-- The interface that a request asks for a message of the given name. -/
def Request.interfaceOf? (name : String) : Request → Option String
  | .message name' given => if name' = name then some (declaredAs name' given) else none
  | .interface _ => none

/-- The interfaces that requests register, oldest first, given the names of the messages that are
declared. A message whose name is among them is refused and registers nothing. -/
def registered (declared : List String) : List Request → List String
  | [] => []
  | .interface name :: rest => name :: registered declared rest
  | .message name interface :: rest =>
    if name ∈ declared then registered declared rest
    else declaredAs name interface :: registered (name :: declared) rest

/-- A declaration is refused for a known message, and otherwise gives it an interface that becomes
known too. -/
theorem register_eq (m : Messages) (name : String) (interface : Option String) :
    m.register name interface =
      if m.has name then .error (.declared name)
      else .ok (declaredAs name interface,
        { m with interfaces := m.interfaces.put name (declaredAs name interface) }.addInterface
          (declaredAs name interface)) := by
  cases interface with
  | none => rfl
  | some i =>
    by_cases hi : i = ""
    · subst hi
      rfl
    · simp [register, has, declaredAs, Option.filter, hi]

theorem after_message_of_has {m : Messages} {name : String} (h : m.has name = true)
    (interface : Option String) : m.after (.message name interface) = m := by
  simp [after, register_eq, h]

theorem after_message_of_not_has {m : Messages} {name : String} (h : m.has name = false)
    (interface : Option String) :
    m.after (.message name interface) =
      { m with interfaces := m.interfaces.put name (declaredAs name interface) }.addInterface
        (declaredAs name interface) := by
  simp [after, register_eq, h]

/-! ## What requests leave -/

@[simp] theorem interfaceFor_addInterface (m : Messages) (interface name : String) :
    (m.addInterface interface).interfaceFor name = m.interfaceFor name := rfl

@[simp] theorem get?_shortNames_addInterface (m : Messages) (interface s : String) :
    (m.addInterface interface).shortNames.get? s =
      (m.shortNames.get? s).or (if s = lastSegment interface then some interface else none) :=
  Table.get?_putNew m.shortNames (lastSegment interface) s interface

theorem has_eq (m : Messages) (name : String) : m.has name = (m.interfaceFor name).isSome := rfl

/-- A message that has an interface keeps it, and any other has what the request asks for. -/
theorem interfaceFor_after (m : Messages) (q : Request) (name : String) :
    (m.after q).interfaceFor name = (m.interfaceFor name).or (q.interfaceOf? name) := by
  cases q with
  | interface interface => simp [after, Request.interfaceOf?]
  | message name' given =>
    cases hhas : m.has name' with
    | true =>
      rw [after_message_of_has hhas, Request.interfaceOf?]
      split_ifs with hname
      · subst hname
        rw [has_eq] at hhas
        exact (Option.or_of_isSome hhas).symm
      · exact Option.or_none.symm
    | false =>
      rw [after_message_of_not_has hhas, interfaceFor_addInterface, Request.interfaceOf?,
        interfaceFor, Table.get?_put]
      by_cases hname : name = name'
      · subst hname
        have hnone : m.interfaceFor name = none := by simpa [has_eq] using hhas
        simp [hnone]
      · simp [hname, Ne.symm hname, interfaceFor]

theorem afterAll_cons (m : Messages) (q : Request) (rest : List Request) :
    m.afterAll (q :: rest) = (m.after q).afterAll rest := rfl

theorem afterAll_append (m : Messages) (requests later : List Request) :
    m.afterAll (requests ++ later) = (m.afterAll requests).afterAll later :=
  List.foldl_append

/-- The first declaration of a message decides its interface. -/
theorem interfaceFor_afterAll (m : Messages) (requests : List Request) (name : String) :
    (m.afterAll requests).interfaceFor name =
      (m.interfaceFor name).or (requests.findSome? (·.interfaceOf? name)) := by
  induction requests generalizing m with
  | nil => simp [afterAll]
  | cons q rest ih =>
    rw [afterAll_cons, ih, interfaceFor_after, Option.or_assoc, List.findSome?_cons]
    cases q.interfaceOf? name <;> rfl

theorem or_find?_lastSegment (interface s : String) (rest : List String) :
    (if s = lastSegment interface then some interface else none).or
        (rest.find? (lastSegment · == s)) =
      (interface :: rest).find? (lastSegment · == s) := by
  rw [List.find?_cons]
  by_cases h : s = lastSegment interface
  · simp [h]
  · have hne : (lastSegment interface == s) = false := by simpa using Ne.symm h
    simp [h, hne]

/-- The first interface that is registered with a last segment decides what the segment stands
for. -/
theorem get?_shortNames_afterAll {m : Messages} {declared : List String}
    (h : ∀ name, name ∈ declared ↔ m.has name = true) (requests : List Request) (s : String) :
    (m.afterAll requests).shortNames.get? s =
      (m.shortNames.get? s).or ((registered declared requests).find? (lastSegment · == s)) := by
  induction requests generalizing m declared with
  | nil => simp [afterAll, registered]
  | cons q rest ih =>
    rw [afterAll_cons]
    cases q with
    | interface interface =>
      have hrest := ih (m := m.addInterface interface) h
      rw [get?_shortNames_addInterface, Option.or_assoc, or_find?_lastSegment] at hrest
      exact hrest
    | message name given =>
      cases hhas : m.has name with
      | true =>
        rw [after_message_of_has hhas, ih h, registered, if_pos ((h name).mpr hhas)]
      | false =>
        have hnew : name ∉ declared := fun hmem => by simp [(h name).mp hmem] at hhas
        -- The names that are declared now are the earlier ones and this one.
        have hdeclared (name' : String) : name' ∈ name :: declared ↔
            (m.after (.message name given)).has name' = true := by
          rw [has_eq, interfaceFor_after, Option.isSome_or, Bool.or_eq_true, ← has_eq, ← h name',
            List.mem_cons, or_comm, Request.interfaceOf?]
          by_cases hname : name' = name
          · simp [hname]
          · simp [hname, Ne.symm hname]
        rw [ih hdeclared, registered, if_neg hnew, after_message_of_not_has hhas,
          get?_shortNames_addInterface, Option.or_assoc, or_find?_lastSegment]

/-- What is set in a registry is set in another one in the same way. -/
structure Keeps (m m' : Messages) : Prop where
  interface : ∀ name i, m.interfaceFor name = some i → m'.interfaceFor name = some i
  expansion : ∀ s i, m.shortNames.get? s = some i → m'.shortNames.get? s = some i
  canonical : ∀ s, (m.shortNames.get? s).isSome → m'.canonical s = m.canonical s

theorem keeps_afterAll (m : Messages) (later : List Request) : m.Keeps (m.afterAll later) := by
  have hexpansion (s i : String) (h : m.shortNames.get? s = some i) :
      (m.afterAll later).shortNames.get? s = some i := by
    rw [get?_shortNames_afterAll (Table.mem_keys_iff m.interfaces), h, Option.some_or]
  refine ⟨fun name i h => ?_, hexpansion, fun s h => ?_⟩
  · rw [interfaceFor_afterAll, h, Option.some_or]
  · obtain ⟨i, hi⟩ := Option.isSome_iff_exists.mp h
    simp [canonical, hi, hexpansion s i hi]

/-! ## Histories from the beginning -/

/-- The requests by which a registry of the given messages is built. -/
def setup (names : List String) : List Request :=
  names.map (.message · none) ++ [.interface serializationInterface]

theorem registerAll_eq_ok {m m' : Messages} {names : List String}
    (h : m.registerAll names = .ok m') : m' = m.afterAll (names.map (.message · none)) := by
  induction names generalizing m with
  | nil =>
    obtain rfl : m = m' := by simpa [registerAll] using h
    rfl
  | cons name rest ih =>
    unfold registerAll at h
    cases hregister : m.register name none with
    | error e => simp [hregister, bind, Except.bind] at h
    | ok result =>
      obtain ⟨full, m₁⟩ := result
      have hafter : m.after (.message name none) = m₁ := by simp [after, hregister]
      rw [List.map_cons, afterAll_cons, hafter]
      exact ih (by simpa [hregister, bind, Except.bind] using h)

theorem ofNames_eq_ok {names : List String} {m : Messages} (h : ofNames names = .ok m) :
    m = ({} : Messages).afterAll (setup names) := by
  unfold ofNames at h
  cases hall : ({} : Messages).registerAll names with
  | error e => simp [hall, bind, Except.bind] at h
  | ok m₁ =>
    obtain rfl : m₁.addInterface serializationInterface = m := by
      simpa [hall, bind, Except.bind] using h
    rw [setup, afterAll_append, ← registerAll_eq_ok hall]
    rfl

/-- The tables of a registry say what its history was: the first declaration of a message decides
its interface, and the first interface with a last segment what the segment stands for. -/
structure Reflects (m : Messages) (history : List Request) : Prop where
  interface : ∀ name, m.interfaceFor name = history.findSome? (·.interfaceOf? name)
  expansion : ∀ s i, m.shortNames.get? s = some i ↔ FirstEndingIn (registered [] history) s i

theorem reflects_afterAll (history : List Request) :
    (({} : Messages).afterAll history).Reflects history where
  interface name := by
    rw [interfaceFor_afterAll]
    exact Option.none_or
  expansion s i := by
    have hempty (name : String) : name ∈ [] ↔ ({} : Messages).has name = true := by
      simp [has, Table.contains]
    rw [get?_shortNames_afterAll hempty, ← find?_lastSegment_eq_some]
    simp

/-! ## Canonical names -/

theorem canonical_of_dot (m : Messages) {s : String} (h : '.' ∈ s.toList) : m.canonical s = s := by
  simp [canonical, h]

theorem canonical_of_not_dot (m : Messages) {s : String} (h : '.' ∉ s.toList) :
    m.canonical s = (m.shortNames.get? s).getD s := by
  simp [canonical, h]

/-- A registry of the given interfaces expands each short name to the first of them that ends in it,
and leaves every other name as it is. -/
structure Canonizes (m : Messages) (interfaces : List String) : Prop where
  known : ∀ s i, FirstEndingIn interfaces s i → m.canonical s = i
  unknown : ∀ s, (∀ i ∈ interfaces, ¬ EndsIn i s) → m.canonical s = s
  idempotent : ∀ s, m.canonical (m.canonical s) = m.canonical s

theorem Reflects.canonizes {m : Messages} {history : List Request} (h : m.Reflects history) :
    m.Canonizes (registered [] history) where
  known s i hfirst := by
    obtain ⟨_, _, -, hends, -⟩ := id hfirst
    rw [canonical_of_not_dot m hends.1, (h.expansion s i).mpr hfirst, Option.getD_some]
  unknown s hnone := by
    by_cases hdot : '.' ∈ s.toList
    · exact canonical_of_dot m hdot
    · rw [canonical_of_not_dot m hdot]
      cases hs : m.shortNames.get? s with
      | none => rfl
      | some i =>
        obtain ⟨earlier, later, hsplit, hends, -⟩ := (h.expansion s i).mp hs
        exact absurd hends (hnone i (by simp [hsplit]))
  idempotent s := by
    by_cases hdot : '.' ∈ s.toList
    · rw [canonical_of_dot m hdot, canonical_of_dot m hdot]
    · have hs := canonical_of_not_dot m hdot
      cases hget : m.shortNames.get? s with
      | none =>
        rw [hget, Option.getD_none] at hs
        rw [hs, hs]
      | some i =>
        rw [hget, Option.getD_some] at hs
        -- The expansion is the short name itself, or it has a dot before it.
        obtain ⟨_, _, -, ⟨-, rfl | ⟨front, rfl⟩⟩, -⟩ := (h.expansion s i).mp hget
        · rw [hs, hs]
        · rw [hs, canonical_of_dot m (by simp)]

end Messages

/-! ## Groups -/

/-- A declaration in which a group has the full name of its interface. -/
def Declaration.spelledOut (known : Messages) : Declaration → Declaration
  | .group interface methods => .group (known.canonical interface) methods
  | declaration => declaration

namespace Definition

section

variable (known : Messages)

theorem split_spelledOut (ambient : Option Place) (messages : List MethodForm)
    (groups : List (String × List MethodForm)) (declarations : List Declaration) :
    split ambient messages (groups.map (Prod.map known.canonical id))
        (declarations.map (Declaration.spelledOut known)) =
      (split ambient messages groups declarations).map
        (Prod.map id (List.map (Prod.map known.canonical id))) := by
  induction declarations generalizing messages groups with
  | nil => rfl
  | cons declaration rest ih =>
    cases declaration with
    | message form =>
      simp only [List.map_cons, Declaration.spelledOut, split, List.isEmpty_map, ih]
      split_ifs <;> rfl
    | group interface methods =>
      have hgroup := ih messages (groups ++ [(interface, methods)])
      rw [List.map_append] at hgroup
      exact hgroup
    | stray form => rfl

theorem forms_spelledOut (declaration : Declaration) :
    (declaration.spelledOut known).forms = declaration.forms := by
  cases declaration <;> rfl

theorem placeOf_spelledOut (declarations : List Declaration) :
    placeOf (declarations.map (Declaration.spelledOut known)) = placeOf declarations := by
  funext name
  simp only [placeOf, List.flatMap_map, forms_spelledOut]

variable {known} (h : ∀ s, known.canonical (known.canonical s) = known.canonical s)
include h

theorem groupMethods_spelledOut (groups : List (String × List MethodForm)) :
    groupMethods known (groups.map (Prod.map known.canonical id)) = groupMethods known groups := by
  simp [groupMethods, List.flatMap_map, h]

theorem declaredMethods_spelledOut (ambient : Option Place) (declarations : List Declaration) :
    declaredMethods known ambient (declarations.map (Declaration.spelledOut known)) =
      declaredMethods known ambient declarations := by
  have hsplit := split_spelledOut known ambient [] [] declarations
  rw [List.map_nil] at hsplit
  unfold declaredMethods
  rw [hsplit]
  cases split ambient [] [] declarations with
  | error e => rfl
  | ok parts =>
    show (do
      let methods ← messageMethods known ambient parts.1
      .ok (methods ++ groupMethods known (parts.2.map (Prod.map known.canonical id)))) = _
    rw [groupMethods_spelledOut h]
    rfl

/-- A definition is the same with the full names of the interfaces of its groups. -/
theorem compile_spelledOut (policy : DuplicatePolicy) (ambient : Option Place) (d : Input) :
    compile known policy ambient
        { d with declarations := d.declarations.map (Declaration.spelledOut known) } =
      compile known policy ambient d := by
  simp only [compile, settle, declaredMethods_spelledOut h, placeOf_spelledOut]

end

/-- The methods of a bucket are among those that were sorted, and have the bucket's interface. -/
theorem SortedByInterface.of_mem_bucket {ms : List Ir.Method} {buckets : List Ir.Implementation}
    (h : SortedByInterface ms buckets) {b : Ir.Implementation} (hb : b ∈ buckets) {m : Ir.Method}
    (hm : m ∈ b.methods) : m ∈ ms ∧ m.interface = some b.interface := by
  rw [h.bucket b hb, List.mem_filter] at hm
  simpa using hm

/-- Definitions in which a group may be written with the short or the full name of its interface. -/
structure SpelledEitherWay (known : Messages) : Prop where
  /-- The definition is the same, with its warnings and its refusals. -/
  same : ∀ policy ambient (d : Input) before interface methods rest,
    compile known policy ambient
        { d with declarations := before ++ .group (known.canonical interface) methods :: rest } =
      compile known policy ambient
        { d with declarations := before ++ .group interface methods :: rest }
  /-- A method of a group is in the bucket of the full name and in no other, unless what stays of
  its name was declared under another interface. -/
  bucket : ∀ policy ambient (d : Input) c t t',
    Yields (compile known policy ambient d) t c t' →
      ∀ interface forms, .group interface forms ∈ d.declarations → ∀ form ∈ forms,
        (∀ e ∈ entries known policy d.declarations, e.name = form.name →
          e.interface = some (known.canonical interface)) →
        ∃ b ∈ c.implementations, b.interface = known.canonical interface ∧
          form.name ∈ b.methods.map Ir.Method.name ∧
          ∀ b' ∈ c.implementations, form.name ∈ b'.methods.map Ir.Method.name → b' = b

theorem spelledEitherWay {known : Messages}
    (h : ∀ s, known.canonical (known.canonical s) = known.canonical s) :
    SpelledEitherWay known where
  same policy ambient d before interface methods rest := by
    -- Both definitions are the one in which all groups have full names.
    rw [← compile_spelledOut h, ← compile_spelledOut h policy ambient
      { d with declarations := before ++ .group interface methods :: rest }]
    simp only [List.map_append, List.map_cons, Declaration.spelledOut, h]
  bucket policy ambient d c t t' hc interface forms hgroup form hform hentries := by
    obtain ⟨-, -, hnames, hsorted⟩ := of_yields_compile hc
    -- A method of this name in some bucket is an entry, so it is the full name's bucket.
    have hbucket {b : Ir.Implementation} (hb : b ∈ c.implementations)
        (hname : form.name ∈ b.methods.map Ir.Method.name) :
        b.interface = known.canonical interface := by
      obtain ⟨m, hm, hmname⟩ := List.mem_map.mp hname
      obtain ⟨hmem, hinterface⟩ := hsorted.of_mem_bucket hb hm
      obtain ⟨e, he, rfl⟩ := List.mem_map.mp hmem
      have hdelivers := delivers_withLoading d.moduleName e
      rw [hdelivers.interface, hentries e he (hdelivers.name ▸ hmname)] at hinterface
      exact (Option.some.inj hinterface).symm
    have hform' : form ∈ d.declarations.flatMap Declaration.forms :=
      List.mem_flatMap.mpr ⟨_, hgroup, hform⟩
    obtain ⟨e, he, hname⟩ := List.mem_map.mp (hnames form.name (name_mem_declared hform'))
    obtain ⟨b, hb, hm⟩ :=
      List.mem_flatMap.mp (hsorted.perm.mem_iff.mpr (List.mem_map_of_mem he))
    have hb' : form.name ∈ b.methods.map Ir.Method.name :=
      List.mem_map.mpr ⟨_, hm, (delivers_withLoading d.moduleName e).name.trans hname⟩
    refine ⟨b, hb, hbucket hb hb', hb', fun b' hmem hname' => ?_⟩
    exact List.inj_on_of_nodup_map hsorted.distinct hmem hb
      ((hbucket hmem hname').trans (hbucket hb hb').symm)

end Definition

namespace Messages

/-- **Interface names are canonical under any history.** Requests may have been refused, and
whatever is asked for later, a message keeps its interface and a short name its expansion. -/
theorem interface_names_are_canonical {names : List String} {m : Messages}
    (h : ofNames names = .ok m) (requests : List Request) :
    (∀ later, (m.afterAll requests).Keeps ((m.afterAll requests).afterAll later)) ∧
      (m.afterAll requests).Reflects (setup names ++ requests) ∧
      (m.afterAll requests).Canonizes (registered [] (setup names ++ requests)) ∧
      Definition.SpelledEitherWay (m.afterAll requests) := by
  have hreflects : (m.afterAll requests).Reflects (setup names ++ requests) := by
    rw [ofNames_eq_ok h, ← afterAll_append]
    exact reflects_afterAll (setup names ++ requests)
  exact ⟨keeps_afterAll _, hreflects, hreflects.canonizes,
    Definition.spelledEitherWay hreflects.canonizes.idempotent⟩

-- The registry that the host starts with is one of these.
example : ofNames defaultNames = .ok standard := rfl

/-- A registry of two messages. -/
def waking : Messages := ({} : Messages).afterAll (setup ["Start", "Awake"])

/-- A history with a refused message, an interface whose last segment is taken, and an interface
that ends in a dot. -/
def ticks : List Request :=
  [ .message "Tick" (some "game.loop.ITick"), .message "Tick" (some "ITock"),
    .interface "other.ITick", .interface "odd." ]

/-- A definition with two groups for one interface, once by its full and once by its short name. -/
def ticker : Definition.Input :=
  { name := "Ticker"
    declarations :=
      [ .group "game.loop.ITick" [{ name := "Pause", params := [], body := [] }],
        .group "ITick" [{ name := "Tick", params := [], body := [] }] ] }

/-- The first interface that ends in `ITick` has this short name, the refused `ITock` has none, and
a group may be written with the short name. -/
theorem ticking_names_are_canonical :
    ofNames ["Start", "Awake"] = .ok waking ∧
      (waking.afterAll ticks).canonical "ITick" = "game.loop.ITick" ∧
      (waking.afterAll ticks).canonical "ITock" = "ITock" ∧
      (waking.afterAll ticks).canonical "" = "odd." ∧
      ∃ c t', Yields (Definition.compile (waking.afterAll ticks) .keepLast none ticker) {} c t' ∧
        ∃ b ∈ c.implementations, b.interface = "game.loop.ITick" ∧
          "Tick" ∈ b.methods.map Ir.Method.name := by
  have h : ofNames ["Start", "Awake"] = .ok waking := rfl
  obtain ⟨-, -, hcanonizes, hgroups⟩ := interface_names_are_canonical h ticks
  have htick : (waking.afterAll ticks).canonical "ITick" = "game.loop.ITick" :=
    hcanonizes.known "ITick" "game.loop.ITick" ⟨registered [] (setup ["Start", "Awake"]),
      ["other.ITick", "odd."], by decide, by decide, by decide⟩
  refine ⟨h, htick, hcanonizes.unknown "ITock" (by decide), hcanonizes.known "" "odd." ?_, ?_⟩
  · exact ⟨registered [] (setup ["Start", "Awake"]) ++ ["game.loop.ITick", "other.ITick"], [],
      by decide, by decide, by decide⟩
  · have hc : ∃ c t', Yields (Definition.compile (waking.afterAll ticks) .keepLast none ticker)
        {} c t' := ⟨_, _, rfl⟩
    obtain ⟨c, t', hc⟩ := hc
    obtain ⟨b, hb, hinterface, hname, -⟩ := hgroups.bucket .keepLast none _ c _ t' hc "ITick" _
      (List.mem_cons_of_mem _ List.mem_cons_self) _ List.mem_cons_self (by decide)
    exact ⟨c, t', hc, b, hb, hinterface.trans htick, hname⟩

end Messages

end Componentry
