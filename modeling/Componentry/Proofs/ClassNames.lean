import Componentry.Emit.Module
import Componentry.Proofs.Indentation

/-!
# Names of a class

The body of a component class binds a name on each line of its own depth: seven names that every
class has, the fields, and the methods. A name that starts with two underscores and does not end
with two is private to the class. It is bound with the name of the class in front.

**Theorem (`class_names_distinct_iff`).** The names that a class binds are distinct exactly if no
field has one of the seven names, no method has the name of the field that is added for the
serialized state, and no field or method is named like a private field with the name of the class in
front.

Names of methods that start with two underscores are refused, names of fields are not.
-/

namespace Componentry.Emit

open Ir

open Source.Number (isNamePart)

open Text (IsWord)

/-! ## Reading the names -/

/-- The name that a line in the body of a class binds. -/
def boundName? (line : String) : Option String :=
  let (depth, text) := measure line
  let shown := if "def ".toList.isPrefixOf text.toList then text.toList.drop 4 else text.toList
  let word := shown.takeWhile isNamePart
  if depth = 4 ∧ word ≠ [] then some (String.ofList word) else none

/-- The names that the lines of a class bind in its body. -/
def boundNames (lines : List String) : List String := lines.filterMap boundName?

theorem takeWhile_word {name : String} (h : IsWord name) {rest : List Char}
    (hrest : ∀ c ∈ rest.head?, isNamePart c = false) :
    (name.toList ++ rest).takeWhile isNamePart = name.toList ∧ name.toList ≠ [] := by
  obtain ⟨hne, hletters⟩ := letters_of_isWord h
  rw [List.takeWhile_append_of_pos hletters]
  refine ⟨?_, hne⟩
  cases rest with
  | nil => simp
  | cons d rest => rw [List.takeWhile_cons_of_neg (by simp [hrest d rfl]), List.append_nil]

theorem boundName?_assign {name : String} (h : IsWord name) (hdef : name ≠ "def") {rest : String}
    (hrest : rest.toList.head? = some ' ') : boundName? (pad 1 ++ (name ++ rest)) = some name := by
  have hblank : ∀ c ∈ rest.toList.head?, isNamePart c = false := by
    rw [hrest]
    rintro c ⟨⟩
    decide
  obtain ⟨htake, hne⟩ := takeWhile_word h hblank
  -- a name that is followed by a blank starts like a definition only if it is `def`
  have hstart : "def ".toList.isPrefixOf (name.toList ++ rest.toList) = false := by
    refine Bool.eq_false_iff.mpr fun hp => hdef ?_
    obtain ⟨others, hothers⟩ := List.isPrefixOf_iff_prefix.mp hp
    have hword : ("def ".toList ++ others).takeWhile isNamePart = "def".toList := rfl
    rw [hothers, htake] at hword
    exact String.toList_inj.mp hword
  unfold boundName?
  rw [measure_pad 1 (isDark_append (isDark_word h) _)]
  simp only [String.toList_append, hstart, Bool.false_eq_true, if_false, htake]
  rw [if_pos ⟨trivial, hne⟩, String.ofList_toList]

theorem boundName?_def {name : String} (h : IsWord name) (params : List Param) :
    boundName? (pad 1 ++ functionHead name params) = some name := by
  have htext : (functionHead name params).toList = "def ".toList ++
      (name.toList ++ '(' :: (commas (params.map Param.name) ++ "):").toList) := by
    simp [functionHead]
  have hbracket : ∀ c ∈ ('(' :: (commas (params.map Param.name) ++ "):").toList).head?,
      isNamePart c = false := by
    rintro c ⟨⟩
    decide
  obtain ⟨htake, hne⟩ := takeWhile_word h hbracket
  have hdark : isDark (functionHead name params) = true := by simp [isDark, htext]
  have hstart : "def ".toList.isPrefixOf (functionHead name params).toList = true := by
    rw [List.isPrefixOf_iff_prefix, htext]
    exact List.prefix_append _ _
  have hdrop : (functionHead name params).toList.drop 4 =
      name.toList ++ '(' :: (commas (params.map Param.name) ++ "):").toList := by
    rw [htext]
    rfl
  unfold boundName?
  rw [measure_pad 1 hdark]
  simp only [hstart, if_true, hdrop, htake]
  rw [if_pos ⟨trivial, hne⟩, String.ofList_toList]

theorem boundName?_comment (text : String) : boundName? (pad 1 ++ ("# " ++ text)) = none := by
  have htext : ("# " ++ text).toList = '#' :: ' ' :: text.toList := by simp
  unfold boundName?
  rw [measure_pad 1 (isDark_append (by decide) _)]
  simp [htext, List.isPrefixOf, List.takeWhile_cons_of_neg (by decide : ¬ isNamePart '#' = true)]

theorem boundName?_margin {text : String} (h : isDark text = true) : boundName? text = none := by
  have hmeasure := measure_pad 0 h
  rw [show pad 0 ++ text = text from String.empty_append] at hmeasure
  simp [boundName?, hmeasure]

theorem boundName?_deep {line : String} (h : (pad 2).toList <+: line.toList) :
    boundName? line = none := by
  obtain ⟨rest, hrest⟩ := h
  have hblanks : ∀ c ∈ List.replicate 8 ' ', (c == ' ') = true := by decide
  have hdepth : (measure line).1 ≠ 4 := by
    rw [toList_pad] at hrest
    simp only [measure, ← hrest, List.takeWhile_append_of_pos hblanks, List.length_append,
      List.length_replicate]
    omega
  simp [boundName?, hdepth]

/-! ## The names of a class -/

/-- The names that describe a class to the runtime library. -/
def metadataNames : List String :=
  ["__interfaces__", "__fields__", "__mutable_fields__", "__native_fields__", "__hidden_fields__",
    "__field_types__"]

/-- The names that every class has. -/
def ownNames : List String := metadataNames ++ ["__init__"]

theorem boundNames_metadata (c : Component) :
    boundNames ((metadata c).map (pad 1 ++ ·)) = metadataNames := by
  have hwords : ∀ x ∈ metadataNames, IsWord x := by decide +kernel
  have hline (x head sep value : String) (hx : x ∈ metadataNames) (hhead : head = x ++ sep)
      (hsep : sep.toList.head? = some ' ') : boundName? (pad 1 ++ (head ++ value)) = some x := by
    have hdef : x ≠ "def" := fun hdef => absurd (hdef ▸ hx) (by decide)
    rw [hhead, String.append_assoc]
    refine boundName?_assign (hwords x hx) hdef ?_
    rw [String.toList_append, List.head?_append, hsep]
    rfl
  simp only [metadata, List.map_cons, List.map_nil, String.append_assoc, boundNames]
  rw [List.filterMap_cons_some
    (hline "__interfaces__" "__interfaces__ = " " = " _ (by decide) rfl rfl),
    List.filterMap_cons_some (hline "__fields__" "__fields__ = " " = " _ (by decide) rfl rfl),
    List.filterMap_cons_some
      (hline "__mutable_fields__" "__mutable_fields__ = " " = " _ (by decide) rfl rfl),
    List.filterMap_cons_some
      (hline "__native_fields__" "__native_fields__ = " " = " _ (by decide) rfl rfl),
    List.filterMap_cons_some
      (hline "__hidden_fields__" "__hidden_fields__ = " " = " _ (by decide) rfl rfl),
    List.filterMap_cons_some
      (hline "__field_types__" "__field_types__ = \x7b" " = \x7b" _ (by decide) rfl rfl)]
  rfl

theorem boundNames_fields {c : Component} (h : c.Spelled) :
    boundNames (c.fields.map fun f => pad 1 ++ f.name ++ " = None") = c.fields.map Field.name := by
  have hline : ∀ f ∈ c.fields, boundName? (pad 1 ++ f.name ++ " = None") = some f.name := by
    intro f hf
    have hdef : f.name ≠ "def" := fun hname =>
      absurd (h.free f.name (List.mem_map_of_mem hf)) (by rw [hname]; decide)
    rw [String.append_assoc]
    exact boundName?_assign (h.words f hf).1 hdef rfl
  unfold boundNames
  rw [List.filterMap_map]
  exact (List.filterMap_congr hline).trans (List.filterMap_eq_map ▸ rfl)

theorem boundNames_deep {lines : List String} (h : ∀ line ∈ lines, (pad 2).toList <+: line.toList) :
    boundNames lines = [] :=
  List.filterMap_eq_nil_iff.mpr fun line hline => boundName?_deep (h line hline)

theorem boundNames_constructor (c : Component) :
    boundNames (constructorLines c) = ["__init__"] := by
  have hhead : boundName? (pad 1 ++ "def __init__(self, *args, **kwargs):") = some "__init__" := by
    decide +kernel
  unfold constructorLines boundNames
  rw [List.filterMap_cons_some hhead]
  refine congrArg (_ :: ·) (boundNames_deep (List.forall_mem_cons.mpr ⟨?_, fun line hline => ?_⟩))
  · rw [String.toList_append]
    exact List.prefix_append _ _
  · obtain ⟨f, -, hf⟩ := List.mem_filterMap.mp hline
    obtain ⟨e, -, rfl⟩ := Option.map_eq_some_iff.mp hf
    simp only [String.append_assoc]
    rw [String.toList_append]
    exact List.prefix_append _ _

theorem boundNames_method {m : Method} (h : BodySpelled m.name m.params m.body) :
    boundNames (method 1 m) = [m.name] := by
  unfold method boundNames
  rw [List.filterMap_cons_some (boundName?_def h.name m.params)]
  exact congrArg (_ :: ·)
    (boundNames_deep fun line hline => (isLine_block h.body 2 line hline).deep)

theorem boundNames_methods {ms : List Method}
    (h : ∀ m ∈ ms, BodySpelled m.name m.params m.body) :
    boundNames (methods 1 ms) = ms.map Method.name := by
  induction ms with
  | nil => rfl
  | cons m rest ih =>
    obtain ⟨hm, hrest⟩ := List.forall_mem_cons.mp h
    cases rest with
    | nil => exact boundNames_method hm
    | cons m' rest =>
      unfold methods boundNames
      rw [List.filterMap_append, List.filterMap_cons_none (by decide)]
      exact congrArg₂ (· ++ ·) (boundNames_method hm) (ih hrest)

theorem boundNames_implementations {is : List Implementation}
    (h : ∀ m ∈ is.flatMap Implementation.methods, BodySpelled m.name m.params m.body) :
    boundNames (is.flatMap implementation) =
      (is.flatMap Implementation.methods).map Method.name := by
  induction is with
  | nil => rfl
  | cons i rest ih =>
    obtain ⟨hi, hrest⟩ := List.forall_mem_append.mp h
    have hlines : boundNames (implementation i) = i.methods.map Method.name := by
      unfold implementation boundNames
      rw [List.filterMap_cons_none (by decide), String.append_assoc,
        List.filterMap_cons_none (boundName?_comment i.interface)]
      exact boundNames_methods hi
    rw [List.flatMap_cons, List.flatMap_cons, List.map_append, ← hlines, ← ih hrest]
    exact List.filterMap_append

/-- The names of a class are its own, the fields and the methods. -/
theorem boundNames_classLines {c : Component} (h : c.Spelled) :
    boundNames (classLines c) = metadataNames ++ c.fields.map Field.name ++
      "__init__" :: c.methods.map Method.name := by
  have hclass : boundName? ("class " ++ c.name ++ "(" ++ c.baseCodeName ++ "):") = none := by
    simp only [String.append_assoc]
    exact boundName?_margin (isDark_append (by decide) _)
  have hmethods := boundNames_implementations fun m hm => (h.bodies m hm).2
  have hsplit (as bs : List String) : boundNames (as ++ bs) = boundNames as ++ boundNames bs :=
    List.filterMap_append
  unfold classLines
  rw [hsplit, hsplit, hsplit, hmethods, boundNames_fields h]
  have hhead : ∀ lines,
      boundNames (("class " ++ c.name ++ "(" ++ c.baseCodeName ++ "):") :: lines) =
      boundNames lines := fun lines => List.filterMap_cons_none hclass
  have hempty : ∀ lines, boundNames ("" :: lines) = boundNames lines :=
    fun lines => List.filterMap_cons_none (by decide)
  rw [hhead, hempty, boundNames_metadata, boundNames_constructor, List.append_assoc _ ["__init__"]]
  rfl

/-! ## Private names -/

/-- Whether a name is private to a class. -/
def isPrivate (name : String) : Bool :=
  ['_', '_'].isPrefixOf name.toList && !(['_', '_'].isSuffixOf name.toList)

/-- The name that a class binds for a name in its body. Private names carry the name of the class
without the underscores in front of it, unless nothing else is in it. -/
def privateName (owner name : String) : String :=
  match owner.toList.dropWhile (· == '_') with
  | [] => name
  | stem => if isPrivate name then String.ofList ('_' :: stem ++ name.toList) else name

theorem privateName_of_not {name : String} (h : isPrivate name = false) (owner : String) :
    privateName owner name = name := by
  unfold privateName
  split
  · rfl
  · rw [if_neg (by simp [h])]

theorem privateName_cases (owner name : String) :
    privateName owner name = name ∨
      ∃ c stem, c ≠ '_' ∧ owner.toList.dropWhile (· == '_') = c :: stem ∧
        (privateName owner name).toList = '_' :: c :: stem ++ name.toList := by
  unfold privateName
  split
  · exact .inl rfl
  · next stem hne =>
    split_ifs
    · cases hstem : owner.toList.dropWhile (· == '_') with
      | nil => exact absurd hstem hne
      | cons c cs =>
        have hc := List.head_dropWhile_not (· == '_') (l := owner.toList) (by simp [hstem])
        refine .inr ⟨c, cs, ?_, rfl, by simp⟩
        simpa [hstem] using hc
    · exact .inl rfl

theorem isPlain_privateName {owner name : String} (h : privateName owner name ≠ name) :
    IsPlain (privateName owner name) := by
  obtain ⟨c, stem, hc, -, htext⟩ := (privateName_cases owner name).resolve_left h
  simp [IsPlain, htext, List.isPrefixOf, Ne.symm hc]

theorem privateName_of_isPlain {name : String} (h : IsPlain name) (owner : String) :
    privateName owner name = name :=
  privateName_of_not (by simp [isPrivate, show _ = false from h]) owner

/-- Names stay apart unless one is written like the private form of another. -/
theorem nodup_map_privateName {owner : String} {names : List String} :
    (names.map (privateName owner)).Nodup ↔
      names.Nodup ∧ ∀ x ∈ names, privateName owner x ∈ names → privateName owner x = x := by
  constructor
  · intro h
    have hinj := (List.nodup_map_iff_inj_on h.of_map).mp h
    refine ⟨h.of_map, fun x hx hmem => ?_⟩
    by_contra hne
    have hfix := privateName_of_isPlain (isPlain_privateName hne) owner
    exact hne (hinj _ hmem _ hx hfix)
  · rintro ⟨hnodup, hapart⟩
    refine (List.nodup_map_iff_inj_on hnodup).mpr fun x hx y hy heq => ?_
    rcases privateName_cases owner x with hfix | ⟨c, stem, -, hstem, hx'⟩
    · exact hfix.symm.trans (heq.trans (hapart y hy (heq ▸ hfix.symm ▸ hx)))
    rcases privateName_cases owner y with hfix | ⟨c', stem', -, hstem', hy'⟩
    · exact (hapart x hx (heq ▸ hfix.symm ▸ hy)).symm.trans (heq.trans hfix)
    · -- both carry the name of the class
      obtain ⟨rfl, rfl⟩ := List.cons.inj (hstem.symm.trans hstem')
      rw [heq, hy'] at hx'
      exact String.toList_inj.mp (List.append_cancel_left hx').symm

/-! ## Distinct names -/

theorem nodup_members_iff {c : Component} (h : c.Spelled) :
    (c.fields.map Field.name ++ c.methods.map Method.name).Nodup ↔
      (c.constant = true → serializedField ∉ c.methods.map Method.name) := by
  rw [List.nodup_append]
  constructor
  · rintro ⟨-, -, hdisjoint⟩ hconstant hmem
    exact hdisjoint _ (h.state hconstant) _ hmem rfl
  · intro hstate
    refine ⟨h.fields, h.methods, ?_⟩
    rintro x hx _ hmethod rfl
    obtain ⟨hconstant, rfl⟩ := h.apart x hx hmethod
    exact hstate hconstant hmethod

theorem not_mem_ownNames {x : String} (h : IsPlain x) : x ∉ ownNames := by
  have hown : ∀ y ∈ ownNames, ['_', '_'].isPrefixOf y.toList = true := by decide
  intro hx
  exact Bool.false_ne_true ((show _ = false from h).symm.trans (hown x hx))

theorem nodup_classNames_iff {c : Component} (h : c.Spelled) :
    (ownNames ++ (c.fields.map Field.name ++ c.methods.map Method.name)).Nodup ↔
      (∀ f ∈ c.fields, f.name ∉ ownNames) ∧
        (c.constant = true → serializedField ∉ c.methods.map Method.name) := by
  rw [← nodup_members_iff h, List.nodup_append]
  constructor
  · rintro ⟨-, hmembers, hdisjoint⟩
    refine ⟨fun f hf hown => ?_, hmembers⟩
    exact hdisjoint _ hown _ (List.mem_append_left _ (List.mem_map_of_mem hf)) rfl
  · rintro ⟨hfields, hmembers⟩
    refine ⟨by decide, hmembers, ?_⟩
    rintro x hown _ hx rfl
    rcases List.mem_append.mp hx with hx | hx
    · obtain ⟨f, hf, rfl⟩ := List.mem_map.mp hx
      exact hfields f hf hown
    · obtain ⟨m, hm, rfl⟩ := List.mem_map.mp hx
      exact not_mem_ownNames (h.bodies m hm).1 hown

/-- **The names that a class binds are distinct**, but for fields with one of the seven names that
every class has, a method with the name of the added field, and members that are named like a
private field. -/
theorem class_names_distinct_iff {known : Messages} {policy : DuplicatePolicy}
    {sourcePath moduleName : Option String} {text : String} {m : Module}
    (h : (compile known policy sourcePath moduleName text).result = .ok m) {c : Component}
    (hc : c ∈ m.components) :
    ((boundNames (classLines c)).map (privateName c.name)).Nodup ↔
      (∀ f ∈ c.fields, f.name ∉ ownNames) ∧
        (c.constant = true → serializedField ∉ c.methods.map Method.name) ∧
        ∀ f ∈ c.fields, privateName c.name f.name ∈
          c.fields.map Field.name ++ c.methods.map Method.name →
            privateName c.name f.name = f.name := by
  have hspelled := (spelled_of_compile h).components c hc
  have hperm : (boundNames (classLines c)).Perm
      (ownNames ++ (c.fields.map Field.name ++ c.methods.map Method.name)) := by
    rw [boundNames_classLines hspelled, ownNames, List.append_assoc, List.append_assoc]
    exact (List.perm_middle.trans (by simp)).append_left _
  have hown : ∀ x ∈ ownNames, isPrivate x = false := by decide
  rw [(hperm.map _).nodup_iff, nodup_map_privateName, nodup_classNames_iff hspelled, and_assoc]
  refine and_congr_right fun _ => and_congr_right fun _ => ⟨fun hall f hf hmem => ?_,
    fun hall x hx hmem => ?_⟩
  · exact hall f.name (List.mem_append_right _ (List.mem_append_left _ (List.mem_map_of_mem hf)))
      (List.mem_append_right _ hmem)
  · by_contra hne
    have hplain := isPlain_privateName hne
    rcases List.mem_append.mp hx with hx | hx
    · exact hne (privateName_of_not (hown x hx) _)
    rcases List.mem_append.mp hx with hx | hx
    · obtain ⟨f, hf, rfl⟩ := List.mem_map.mp hx
      exact hne (hall f hf ((List.mem_append.mp hmem).resolve_left (not_mem_ownNames hplain)))
    · obtain ⟨method, hm, rfl⟩ := List.mem_map.mp hx
      exact hne (privateName_of_isPlain (hspelled.bodies method hm).1 _)

/-- A component with a private field and with a method. -/
def guardian : String :=
  "class Guardian:\n" ++
  "    __mood: int\n" ++
  "    def Update(self):\n" ++
  "        pass\n"

theorem guardian_names_distinct :
    ∃ m, (compile .standard .keepLast none none guardian).result = .ok m ∧
      ∃ c ∈ m.components, (∃ f ∈ c.fields, privateName c.name f.name = "_Guardian__mood") ∧
        ((boundNames (classLines c)).map (privateName c.name)).Nodup := by
  obtain ⟨m, h, c, hc, hmood, hdistinct⟩ :
      ∃ m, (compile .standard .keepLast none none guardian).result = .ok m ∧ ∃ c ∈ m.components,
        (∃ f ∈ c.fields, privateName c.name f.name = "_Guardian__mood") ∧
        (∀ f ∈ c.fields, f.name ∉ ownNames) ∧
        (c.constant = true → serializedField ∉ c.methods.map Method.name) ∧
        ∀ f ∈ c.fields, privateName c.name f.name ∈
          c.fields.map Field.name ++ c.methods.map Method.name →
            privateName c.name f.name = f.name :=
    exists_ok (by decide +kernel)
  exact ⟨m, h, c, hc, hmood, (class_names_distinct_iff h hc).mpr hdistinct⟩

/-- A component with a field that has the name of the list of fields. -/
def maskedFields : String := "class A:\n    __fields__: int = 1\n"

theorem maskedFields_names_repeat :
    ∃ m, (compile .standard .keepLast none none maskedFields).result = .ok m ∧
      ∃ c ∈ m.components, (boundNames (classLines c)).count "__fields__" = 2 := by
  obtain ⟨m, h, c, hc, hcount⟩ :
      ∃ m, (compile .standard .keepLast none none maskedFields).result = .ok m ∧
        ∃ c ∈ m.components, (metadataNames ++ c.fields.map Field.name ++
          "__init__" :: c.methods.map Method.name).count "__fields__" = 2 :=
    exists_ok (by decide +kernel)
  refine ⟨m, h, c, hc, ?_⟩
  rwa [boundNames_classLines ((spelled_of_compile h).components c hc)]

end Componentry.Emit
