import Componentry.Persist.Codec
import Componentry.Proofs.ReadBack
import Mathlib.Data.List.Forall2

/-!
# The codec loses nothing

**Theorem (`codec_lossless`).** A value has no JSON form exactly if an unstorable value occurs in
it: an object of the host, or a dictionary with a key that is no text or that is the tuple mark.
Every other value comes back from its JSON form, also if members were reordered on the way; then its
dictionaries have their entries in another order.

Reordering is the reason why this is no simple inverse. In general decoding does not respect the
order of members: an object under the tuple mark would become the tuple of its keys. So the proof
does not go through trees but follows the value, whose JSON form has an array under every tuple mark
and the mark nowhere else (`decode_of_encode`).
-/

namespace Componentry

namespace Value

/-! ## Occurrences -/

/-- A value occurs in another: it is reached through items and through values of entries. -/
inductive Occurs (u : Value) : Value → Prop
  | here : Occurs u u
  | list {items : List Value} {v : Value} : v ∈ items → Occurs u v → Occurs u (.list items)
  | tuple {items : List Value} {v : Value} : v ∈ items → Occurs u v → Occurs u (.tuple items)
  | dict {entries : List (Value × Value)} {k v : Value} :
      (k, v) ∈ entries → Occurs u v → Occurs u (.dict entries)

/-- A value that has no JSON form, whatever it holds. -/
inductive Unstorable : Value → Prop
  | object (name : String) : Unstorable (.object name)
  | key {entries : List (Value × Value)} {k v : Value} :
      (k, v) ∈ entries → (∀ s, k ≠ .str s) → Unstorable (.dict entries)
  | tag {entries : List (Value × Value)} {v : Value} :
      (.str Codec.tupleTag, v) ∈ entries → Unstorable (.dict entries)

/-- Something unstorable occurs in the value. -/
def HasUnstorable (v : Value) : Prop := ∃ u, Occurs u v ∧ Unstorable u

theorem hasUnstorable_list {items : List Value} :
    HasUnstorable (.list items) ↔ ∃ v ∈ items, HasUnstorable v := by
  constructor
  · rintro ⟨u, hocc, hu⟩
    cases hocc with
    | here => cases hu
    | list hv hocc => exact ⟨_, hv, u, hocc, hu⟩
  · rintro ⟨v, hv, u, hocc, hu⟩
    exact ⟨u, .list hv hocc, hu⟩

theorem hasUnstorable_tuple {items : List Value} :
    HasUnstorable (.tuple items) ↔ ∃ v ∈ items, HasUnstorable v := by
  constructor
  · rintro ⟨u, hocc, hu⟩
    cases hocc with
    | here => cases hu
    | tuple hv hocc => exact ⟨_, hv, u, hocc, hu⟩
  · rintro ⟨v, hv, u, hocc, hu⟩
    exact ⟨u, .tuple hv hocc, hu⟩

/-- An entry that keeps its dictionary from being stored. -/
def BadEntry (e : Value × Value) : Prop :=
  (∀ s, e.1 ≠ .str s) ∨ e.1 = .str Codec.tupleTag ∨ HasUnstorable e.2

theorem hasUnstorable_dict {entries : List (Value × Value)} :
    HasUnstorable (.dict entries) ↔ ∃ e ∈ entries, BadEntry e := by
  constructor
  · rintro ⟨u, hocc, hu⟩
    cases hocc with
    | here =>
      cases hu with
      | key he hk => exact ⟨_, he, .inl hk⟩
      | tag he => exact ⟨_, he, .inr (.inl rfl)⟩
    | dict he hocc => exact ⟨_, he, .inr (.inr ⟨u, hocc, hu⟩)⟩
  · rintro ⟨⟨k, v⟩, he, hk | hk | ⟨u, hocc, hu⟩⟩
    · exact ⟨_, .here, .key he hk⟩
    · obtain rfl : k = _ := hk
      exact ⟨_, .here, .tag he⟩
    · exact ⟨u, .dict he hocc, hu⟩

/-- An atom holds only itself, so it has something unstorable only if it is an object. -/
theorem not_hasUnstorable {v : Value} (hocc : ∀ u, Occurs u v → u = v) (hv : ¬ Unstorable v) :
    ¬ HasUnstorable v := by
  rintro ⟨u, hu, hbad⟩
  rw [hocc u hu] at hbad
  exact hv hbad

/-! ## Values up to the order of entries -/

mutual

/-- The values differ in the order of entries only. -/
def Same : Value → Value → Prop
  | .none, w => w = .none
  | .bool b, w => w = .bool b
  | .int n, w => w = .int n
  | .float x, w => w = .float x
  | .str s, w => w = .str s
  | .object name, w => w = .object name
  | .list items, w => ∃ items', w = .list items' ∧ SameItems items items'
  | .tuple items, w => ∃ items', w = .tuple items' ∧ SameItems items items'
  | .dict entries, w =>
    ∃ entries' reordered, w = .dict entries' ∧ reordered.Perm entries' ∧
      SameEntries entries reordered

/-- The items are the same one by one. -/
def SameItems : List Value → List Value → Prop
  | [], ws => ws = []
  | v :: vs, ws => ∃ w rest, ws = w :: rest ∧ Same v w ∧ SameItems vs rest

/-- The entries have the same keys and values one by one. -/
def SameEntries : List (Value × Value) → List (Value × Value) → Prop
  | [], ws => ws = []
  | (k, v) :: vs, ws => ∃ w rest, ws = (k, w) :: rest ∧ Same v w ∧ SameEntries vs rest

end

end Value

namespace Codec

/-! ## Values without a JSON form -/

mutual

theorem encode_eq_none_iff (v : Value) : encode v = none ↔ v.HasUnstorable := by
  match v with
  | .none | .bool _ | .int _ | .float _ | .str _ =>
    rw [encode]
    refine iff_of_false (by simp) (Value.not_hasUnstorable ?_ ?_)
    · intro u hu
      cases hu
      rfl
    · intro hu
      cases hu
  | .object name => exact iff_of_true (by rw [encode]) ⟨_, .here, .object name⟩
  | .list items =>
    rw [encode, Option.map_eq_none_iff, Value.hasUnstorable_list]
    exact encodeItems_eq_none_iff items
  | .tuple items =>
    rw [encode, Option.map_eq_none_iff, Value.hasUnstorable_tuple]
    exact encodeItems_eq_none_iff items
  | .dict entries =>
    rw [encode, Option.map_eq_none_iff, Value.hasUnstorable_dict]
    exact encodeEntries_eq_none_iff entries

theorem encodeItems_eq_none_iff (vs : List Value) :
    encodeItems vs = none ↔ ∃ v ∈ vs, v.HasUnstorable := by
  match vs with
  | [] => simp [encodeItems]
  | v :: rest =>
    simp only [List.mem_cons, exists_eq_or_imp]
    rw [← encode_eq_none_iff v, ← encodeItems_eq_none_iff rest, encodeItems]
    cases encode v <;> cases encodeItems rest <;> simp

theorem encodeEntries_eq_none_iff (es : List (Value × Value)) :
    encodeEntries es = none ↔ ∃ e ∈ es, Value.BadEntry e := by
  match es with
  | [] => simp [encodeEntries]
  | (.str key, v) :: rest =>
    simp only [List.mem_cons, exists_eq_or_imp]
    rw [← encodeEntries_eq_none_iff rest, Value.BadEntry, ← encode_eq_none_iff v, encodeEntries]
    by_cases hkey : key = tupleTag
    · simp [hkey]
    · cases encode v <;> cases encodeEntries rest <;> simp [hkey]
  | (.none, _) :: _ | (.bool _, _) :: _ | (.int _, _) :: _ | (.float _, _) :: _
  | (.list _, _) :: _ | (.tuple _, _) :: _ | (.dict _, _) :: _ | (.object _, _) :: _ =>
    exact iff_of_true rfl ⟨_, List.mem_cons_self, .inl fun s hs => by cases hs⟩

end

/-! ## Decoding what was encoded -/

/-- Members as the entries of a dictionary. -/
def toEntries (members : List (String × Value)) : List (Value × Value) :=
  members.map fun m => (.str m.1, m.2)

/-- An object becomes the dictionary of its members, unless its only member is the tuple mark. -/
theorem closeObject_of_names_ne {members : List (String × Value)}
    (h : members.map Prod.fst ≠ [tupleTag]) :
    closeObject members = .ok (.dict (toEntries members)) := by
  unfold closeObject
  split
  · next name v =>
    rw [if_neg fun hname => h (by rw [← hname]; rfl)]
    rfl
  · rfl

theorem closeObject_of_forall_ne {members : List (String × Value)}
    (h : ∀ m ∈ members, m.1 ≠ tupleTag) :
    closeObject members = .ok (.dict (toEntries members)) := by
  apply closeObject_of_names_ne
  intro hnames
  have hmem : tupleTag ∈ members.map Prod.fst := by simp [hnames]
  obtain ⟨m, hm, hname⟩ := List.mem_map.mp hmem
  exact h m hm hname

theorem closeObject_tuple (items : List Value) :
    closeObject [(tupleTag, .list items)] = .ok (.tuple items) := rfl

theorem encodeItems_cons_eq_some {v : Value} {rest : List Value} {js : List Json}
    (h : encodeItems (v :: rest) = some js) :
    ∃ j, encode v = some j ∧ ∃ js₁, encodeItems rest = some js₁ ∧ j :: js₁ = js := by
  simpa [encodeItems, Option.bind_eq_some_iff] using h

/-- A dictionary with a JSON form has texts for keys, and none of them is the tuple mark. -/
theorem encodeEntries_cons_eq_some {k v : Value} {rest : List (Value × Value)}
    {ms : List (String × Json)} (h : encodeEntries ((k, v) :: rest) = some ms) :
    ∃ key, k = .str key ∧ key ≠ tupleTag ∧ ∃ j, encode v = some j ∧
      ∃ ms₁, encodeEntries rest = some ms₁ ∧ (key, j) :: ms₁ = ms := by
  cases k with
  | str key =>
    obtain ⟨hkey, hrest⟩ : key ≠ tupleTag ∧ ∃ j, encode v = some j ∧
        ∃ ms₁, encodeEntries rest = some ms₁ ∧ (key, j) :: ms₁ = ms := by
      simpa [encodeEntries, Option.bind_eq_some_iff] using h
    exact ⟨key, rfl, hkey, hrest⟩
  | _ => cases h

theorem decode_arr {items : List Json} {vs : List Value} (h : decodeItems items = .ok vs) :
    decode (.arr items) = .ok (.list vs) := by
  rw [decode, h]
  rfl

theorem decode_obj {members : List (String × Json)} {vs : List (String × Value)}
    (h : decodeMembers members = .ok vs) : decode (.obj members) = closeObject vs := by
  rw [decode, h]
  rfl

theorem decodeItems_cons {j : Json} {js : List Json} {v : Value} {vs : List Value}
    (hj : decode j = .ok v) (hjs : decodeItems js = .ok vs) :
    decodeItems (j :: js) = .ok (v :: vs) := by
  rw [decodeItems, hj, hjs]
  rfl

theorem decodeMembers_cons {name : String} {j : Json} {js : List (String × Json)} {v : Value}
    {vs : List (String × Value)} (hj : decode j = .ok v) (hjs : decodeMembers js = .ok vs) :
    decodeMembers ((name, j) :: js) = .ok ((name, v) :: vs) := by
  rw [decodeMembers, hj, hjs]
  rfl

mutual

theorem decode_encode (v : Value) {j : Json} (h : encode v = some j) : decode j = .ok v := by
  match v with
  | .none | .bool _ | .int _ | .float _ | .str _ =>
    obtain rfl : _ = j := by simpa [encode] using h
    rfl
  | .object name => cases h
  | .list items =>
    rw [encode] at h
    obtain ⟨js, hjs, rfl⟩ := Option.map_eq_some_iff.mp h
    exact decode_arr (decodeItems_encodeItems items hjs)
  | .tuple items =>
    rw [encode] at h
    obtain ⟨js, hjs, rfl⟩ := Option.map_eq_some_iff.mp h
    rw [decode_obj (decodeMembers_cons (decode_arr (decodeItems_encodeItems items hjs)) rfl)]
    exact closeObject_tuple items
  | .dict entries =>
    rw [encode] at h
    obtain ⟨members, hmembers, rfl⟩ := Option.map_eq_some_iff.mp h
    obtain ⟨vs, hvs, hne, rfl⟩ := decodeMembers_encodeEntries entries hmembers
    rw [decode_obj hvs]
    exact closeObject_of_forall_ne hne

theorem decodeItems_encodeItems (vs : List Value) {js : List Json} (h : encodeItems vs = some js) :
    decodeItems js = .ok vs := by
  match vs with
  | [] =>
    obtain rfl : [] = js := by simpa [encodeItems] using h
    rfl
  | v :: rest =>
    obtain ⟨j, hj, js₁, hjs, rfl⟩ := encodeItems_cons_eq_some h
    exact decodeItems_cons (decode_encode v hj) (decodeItems_encodeItems rest hjs)

theorem decodeMembers_encodeEntries (es : List (Value × Value)) {ms : List (String × Json)}
    (h : encodeEntries es = some ms) :
    ∃ vs, decodeMembers ms = .ok vs ∧ (∀ m ∈ vs, m.1 ≠ tupleTag) ∧ es = toEntries vs := by
  match es with
  | [] =>
    obtain rfl : [] = ms := by simpa [encodeEntries] using h
    exact ⟨[], rfl, by simp, rfl⟩
  | (k, v) :: rest =>
    obtain ⟨key, rfl, hkey, j, hj, ms₁, hms, rfl⟩ := encodeEntries_cons_eq_some h
    obtain ⟨vs, hvs, hne, hrest⟩ := decodeMembers_encodeEntries rest hms
    exact ⟨(key, v) :: vs, decodeMembers_cons (decode_encode v hj) hvs,
      List.forall_mem_cons.mpr ⟨hkey, hne⟩, by rw [hrest]; rfl⟩

end

/-! ## Decoding with members reordered -/

theorem decodeMembers_eq_ok_iff {members : List (String × Json)} {vs : List (String × Value)} :
    decodeMembers members = .ok vs ↔
      List.Forall₂ (fun m v => m.1 = v.1 ∧ decode m.2 = .ok v.2) members vs := by
  induction members generalizing vs with
  | nil => cases vs <;> simp [decodeMembers]
  | cons m rest ih =>
    obtain ⟨name, j⟩ := m
    constructor
    · intro h
      rw [decodeMembers] at h
      cases hj : decode j with
      | error e => simp [hj, bind, Except.bind] at h
      | ok v =>
        cases hr : decodeMembers rest with
        | error e => simp [hj, hr, bind, Except.bind] at h
        | ok others =>
          obtain rfl : (name, v) :: others = vs := by simpa [hj, hr, bind, Except.bind] using h
          exact .cons ⟨rfl, hj⟩ (ih.mp hr)
    · intro h
      cases h with
      | @cons _ v _ _ hv hrest =>
        obtain ⟨name', w⟩ := v
        obtain ⟨rfl, hw⟩ : name = name' ∧ decode j = .ok w := hv
        exact decodeMembers_cons hw (ih.mpr hrest)

theorem decodeMembers_perm {members members' : List (String × Json)} {vs : List (String × Value)}
    (h : decodeMembers members = .ok vs) (hperm : members.Perm members') :
    ∃ vs', decodeMembers members' = .ok vs' ∧ vs'.Perm vs := by
  obtain ⟨vs', hvs', hperm'⟩ :=
    List.perm_comp_forall₂ hperm.symm (decodeMembers_eq_ok_iff.mp h)
  exact ⟨vs', decodeMembers_eq_ok_iff.mpr hvs', hperm'⟩

mutual

/-- A value comes back from its JSON form with members reordered. -/
theorem decode_of_encode (v : Value) {j j' : Json} (h : encode v = some j) (hs : j.Same j') :
    ∃ w, decode j' = .ok w ∧ v.Same w := by
  match v with
  | .none | .bool _ | .int _ | .float _ | .str _ =>
    obtain rfl : _ = j := by simpa [encode] using h
    obtain rfl : j' = _ := hs
    exact ⟨_, rfl, rfl⟩
  | .object name => cases h
  | .list items =>
    rw [encode] at h
    obtain ⟨js, hjs, rfl⟩ := Option.map_eq_some_iff.mp h
    obtain ⟨js', rfl, hs⟩ := hs
    obtain ⟨ws, hws, hsame⟩ := decodeItems_of_encodeItems items hjs hs
    exact ⟨.list ws, decode_arr hws, ws, rfl, hsame⟩
  | .tuple items =>
    rw [encode] at h
    obtain ⟨js, hjs, rfl⟩ := Option.map_eq_some_iff.mp h
    -- A single member has one order only.
    obtain ⟨members, reordered, rfl, hperm, _, _, rfl, ⟨js', rfl, hs⟩, rfl⟩ := hs
    obtain rfl := List.singleton_perm.mp hperm
    obtain ⟨ws, hws, hsame⟩ := decodeItems_of_encodeItems items hjs hs
    refine ⟨.tuple ws, ?_, ws, rfl, hsame⟩
    rw [decode_obj (decodeMembers_cons (decode_arr hws) rfl)]
    exact closeObject_tuple ws
  | .dict entries =>
    rw [encode] at h
    obtain ⟨members, hmembers, rfl⟩ := Option.map_eq_some_iff.mp h
    obtain ⟨members', reordered, rfl, hperm, hs⟩ := hs
    obtain ⟨vs, hvs, hne, hsame⟩ := decodeMembers_of_encodeEntries entries hmembers hs
    obtain ⟨vs', hvs', hperm'⟩ := decodeMembers_perm hvs hperm
    refine ⟨.dict (toEntries vs'), ?_, toEntries vs', toEntries vs, rfl, ?_, hsame⟩
    · rw [decode_obj hvs']
      exact closeObject_of_forall_ne fun m hm => hne m (hperm'.mem_iff.mp hm)
    · exact (hperm'.map _).symm

theorem decodeItems_of_encodeItems (vs : List Value) {js js' : List Json}
    (h : encodeItems vs = some js) (hs : Json.SameItems js js') :
    ∃ ws, decodeItems js' = .ok ws ∧ Value.SameItems vs ws := by
  match vs with
  | [] =>
    obtain rfl : [] = js := by simpa [encodeItems] using h
    obtain rfl : js' = [] := hs
    exact ⟨[], rfl, rfl⟩
  | v :: rest =>
    obtain ⟨j, hj, js₁, hjs, rfl⟩ := encodeItems_cons_eq_some h
    obtain ⟨k, ks, rfl, hk, hks⟩ := hs
    obtain ⟨w, hw, hsame⟩ := decode_of_encode v hj hk
    obtain ⟨ws, hws, hsames⟩ := decodeItems_of_encodeItems rest hjs hks
    exact ⟨w :: ws, decodeItems_cons hw hws, w, ws, rfl, hsame, hsames⟩

theorem decodeMembers_of_encodeEntries (es : List (Value × Value)) {ms ms' : List (String × Json)}
    (h : encodeEntries es = some ms) (hs : Json.SameMembers ms ms') :
    ∃ vs, decodeMembers ms' = .ok vs ∧ (∀ m ∈ vs, m.1 ≠ tupleTag) ∧
      Value.SameEntries es (toEntries vs) := by
  match es with
  | [] =>
    obtain rfl : [] = ms := by simpa [encodeEntries] using h
    obtain rfl : ms' = [] := hs
    exact ⟨[], rfl, by simp, rfl⟩
  | (k, v) :: rest =>
    obtain ⟨key, rfl, hkey, j, hj, ms₁, hms, rfl⟩ := encodeEntries_cons_eq_some h
    obtain ⟨k, ks, rfl, hk, hks⟩ := hs
    obtain ⟨w, hw, hsame⟩ := decode_of_encode v hj hk
    obtain ⟨vs, hvs, hne, hsames⟩ := decodeMembers_of_encodeEntries rest hms hks
    exact ⟨(key, w) :: vs, decodeMembers_cons hw hvs, List.forall_mem_cons.mpr ⟨hkey, hne⟩,
      w, toEntries vs, rfl, hsame, hsames⟩

end

/-! ## Decoding while a text is read -/

mutual

theorem build_builder (j : Json) : j.build builder = decode j := by
  match j with
  | .null | .bool _ | .int _ | .float _ | .str _ => rfl
  | .arr items => rw [Json.build, decode, buildItems_builder items]; rfl
  | .obj members => rw [Json.build, decode, buildMembers_builder members]; rfl

theorem buildItems_builder (js : List Json) : Json.buildItems builder js = decodeItems js := by
  match js with
  | [] => rfl
  | j :: rest => rw [Json.buildItems, decodeItems, build_builder j, buildItems_builder rest]

theorem buildMembers_builder (ms : List (String × Json)) :
    Json.buildMembers builder ms = decodeMembers ms := by
  match ms with
  | [] => rfl
  | (name, j) :: rest =>
    rw [Json.buildMembers, decodeMembers, build_builder j, buildMembers_builder rest]

end

/-- A value comes back from a text that spells its JSON form. -/
theorem read_of_spells {v : Value} {j : Json} {text : String} (h : encode v = some j)
    (htext : Json.Spells text j) : ∃ w, read text = .ok w ∧ v.Same w := by
  obtain ⟨j', hs, hread⟩ := htext
  obtain ⟨w, hw, hsame⟩ := decode_of_encode v h hs
  refine ⟨w, ?_, hsame⟩
  rw [read, hread builder, build_builder, hw]
  rfl

/-- The codec refuses exactly the values with something unstorable in them. It gives back every
other value from its JSON form, from every reordering of that form, and from every text that spells
it. -/
theorem codec_lossless (v : Value) :
    (encode v = none ↔ v.HasUnstorable) ∧
      ∀ j, encode v = some j →
        decode j = .ok v ∧
        (∀ j', j.Same j' → ∃ w, decode j' = .ok w ∧ v.Same w) ∧
        ∀ text, Json.Spells text j → ∃ w, read text = .ok w ∧ v.Same w := by
  refine ⟨encode_eq_none_iff v, fun j h => ⟨decode_encode v h, ?_, ?_⟩⟩
  · intro j' hs
    exact decode_of_encode v h hs
  · intro text htext
    exact read_of_spells h htext

/-- A list and a dictionary in a tuple, and a tuple in the dictionary. -/
def nested : Value := .tuple [.list [.int 1], .dict [(.str "b", .none), (.str "a", .tuple [])]]

def nestedForm : Json :=
  .obj [(tupleTag, .arr [.arr [.int 1], .obj [("b", .null), ("a", .obj [(tupleTag, .arr [])])]])]

/-- The dictionary in `nested` comes back from the written form, where `a` stands before `b`. -/
theorem nested_lossless :
    encode nested = some nestedForm ∧ Json.Spells nestedForm.line nestedForm ∧
      decode nestedForm = .ok nested ∧ ∃ w, read nestedForm.line = .ok w ∧ nested.Same w := by
  have hform : encode nested = some nestedForm := rfl
  have hwritable : nestedForm.Writable := by
    simp [nestedForm, Json.Writable, Json.WritableItems, Json.WritableMembers]
    decide +kernel
  have hspells := Json.spells_line hwritable
  obtain ⟨hdecode, -, hread⟩ := (codec_lossless nested).2 nestedForm hform
  exact ⟨hform, hspells, hdecode, hread _ hspells⟩

end Codec

end Componentry
