import Componentry.Persist.Instance
import Componentry.Proofs.Codec
import Componentry.Proofs.Methods
import Componentry.Proofs.RelatedLists

/-!
# What saving and restoring keeps

Before the host saves a component, the fields that it does not store by itself are gathered into one
text, and afterwards they are set from that text.

**Theorem (`restored_iff_not_lone_tuple_mark`).** Saving changes only the field that holds the text.
Restoring sets exactly the gathered fields, each to the value it had, and it succeeds unless the
tuple mark is the only gathered name.

The gathered fields make up an object like any other, and reading closes it like any other. So a
component whose only gathered field is named like the tuple mark is saved as a tuple, and a tuple
cannot be restored. With a second gathered field nothing is lost.
-/

namespace Componentry

namespace Persist

/-- A class lists the fields of a component. -/
structure ClassInfo.Describes (k : ClassInfo) (c : Ir.Component) : Prop where
  fields : k.fields = c.fields.map Ir.Field.name
  nativeFields : k.nativeFields = (c.fields.filter Ir.Field.native).map Ir.Field.name
  hiddenFields : k.hiddenFields = (c.fields.filter Ir.Field.hidden).map Ir.Field.name

/-- Whether a field is gathered: the host does not store it, and its value has a JSON form. -/
def isGathered (k : ClassInfo) (i : Instance) (f : Ir.Field) : Bool :=
  !f.native && !f.hidden && (Codec.encode (valueOf k i f.name)).isSome

/-- The names of the fields that are gathered. -/
def gathered (c : Ir.Component) (k : ClassInfo) (i : Instance) : List String :=
  (c.fields.filter (isGathered k i)).map Ir.Field.name

/-! ## Saving -/

theorem get?_beforeSerialize (k : ClassInfo) (i : Instance) {x : String} (h : x ≠ serializedField) :
    (beforeSerialize k i).get? x = i.get? x := by
  unfold beforeSerialize
  split
  · rw [Table.get?_put, if_neg h]
  · rfl

theorem eraseDups_of_nodup {names : List String} (h : names.Nodup) : names.eraseDups = names := by
  induction names with
  | nil => rfl
  | cons x rest ih =>
    obtain ⟨hx, hrest⟩ := List.nodup_cons.mp h
    have hfilter : rest.filter (fun y => !y == x) = rest := by
      rw [List.filter_eq_self]
      rintro y hy
      simpa using fun hyx : y = x => hx (hyx ▸ hy)
    rw [List.eraseDups_cons, hfilter, ih hrest]

section

variable {c : Ir.Component} {k : ClassInfo} {i : Instance}

/-- Among fields of distinct names, a name is listed for the fields with a property exactly if its
own field has the property. -/
theorem mem_names_filter {fields : List Ir.Field} (hnodup : (fields.map Ir.Field.name).Nodup)
    {f : Ir.Field} (hf : f ∈ fields) (p : Ir.Field → Bool) :
    f.name ∈ (fields.filter p).map Ir.Field.name ↔ p f = true := by
  constructor
  · intro h
    obtain ⟨g, hg, hgf⟩ := List.mem_map.mp h
    obtain ⟨hg, hpg⟩ := List.mem_filter.mp hg
    obtain rfl := List.inj_on_of_nodup_map hnodup hg hf hgf
    exact hpg
  · intro h
    exact List.mem_map_of_mem (List.mem_filter.mpr ⟨hf, h⟩)

theorem mem_storedByHost (hnodup : (c.fields.map Ir.Field.name).Nodup) (hk : k.Describes c)
    {f : Ir.Field} (hf : f ∈ c.fields) :
    f.name ∈ storedByHost k ↔ f.native = true ∨ f.hidden = true := by
  rw [storedByHost, List.mem_eraseDups, List.mem_append, hk.nativeFields, hk.hiddenFields,
    mem_names_filter hnodup hf, mem_names_filter hnodup hf]

/-- The member that a field contributes to the payload. -/
def memberOf (k : ClassInfo) (i : Instance) (f : Ir.Field) : Option (String × Json) :=
  if f.native || f.hidden then none
  else (Codec.encode (valueOf k i f.name)).map fun j => (f.name, j)

theorem payload_eq (hnodup : (c.fields.map Ir.Field.name).Nodup) (hk : k.Describes c) :
    payload k i = c.fields.filterMap (memberOf k i) := by
  unfold payload fieldMap
  rw [hk.fields, eraseDups_of_nodup hnodup, List.map_map, List.filterMap_map]
  refine List.filterMap_congr fun f hf => ?_
  have hstored := mem_storedByHost hnodup hk hf
  unfold memberOf
  by_cases h : f.native || f.hidden
  · rw [if_pos h]
    exact if_pos (by simpa [hstored] using h)
  · rw [if_neg h]
    exact if_neg (by simpa [hstored] using h)

/-- The gathered fields with their values. -/
def gatheredValues (c : Ir.Component) (k : ClassInfo) (i : Instance) : List (String × Value) :=
  (c.fields.filter (isGathered k i)).map fun f => (f.name, valueOf k i f.name)

theorem map_fst_gatheredValues : (gatheredValues c k i).map Prod.fst = gathered c k i := by
  simp [gatheredValues, gathered, Function.comp_def]

/-- A member holds the JSON form of a value under its name. -/
def Encodes (p : String × Value) (m : String × Json) : Prop :=
  m.1 = p.1 ∧ Codec.encode p.2 = some m.2

theorem of_memberOf {f : Ir.Field} {m : String × Json} (h : memberOf k i f = some m) :
    ∃ j, m = (f.name, j) ∧ Codec.encode (valueOf k i f.name) = some j := by
  unfold memberOf at h
  split at h
  · cases h
  · obtain ⟨j, hj, rfl⟩ := Option.map_eq_some_iff.mp h
    exact ⟨j, rfl, hj⟩

theorem isGathered_iff {f : Ir.Field} : isGathered k i f = true ↔ ∃ m, memberOf k i f = some m := by
  unfold isGathered memberOf
  cases f.native <;> cases f.hidden <;> simp [Option.isSome_iff_exists]

theorem encodes_payload (hnodup : (c.fields.map Ir.Field.name).Nodup) (hk : k.Describes c) :
    List.Forall₂ Encodes (gatheredValues c k i) (payload k i) := by
  rw [payload_eq hnodup hk]
  unfold gatheredValues
  generalize c.fields = fields
  induction fields with
  | nil => exact .nil
  | cons f rest ih =>
    cases hmember : memberOf k i f with
    | none =>
      have hnot : ¬ isGathered k i f = true := by
        rw [isGathered_iff, hmember]
        rintro ⟨m, hm⟩
        cases hm
      rw [List.filter_cons_of_neg hnot, List.filterMap_cons_none hmember]
      exact ih
    | some m =>
      obtain ⟨j, rfl, hencode⟩ := of_memberOf hmember
      rw [List.filter_cons_of_pos (isGathered_iff.mpr ⟨_, hmember⟩), List.map_cons,
        List.filterMap_cons_some hmember]
      exact .cons ⟨rfl, hencode⟩ ih

end

/-! ## Reading the gathered fields -/

/-- A member was read for a value: it has its name and is the same value. -/
def Restores (p m : String × Value) : Prop := m.1 = p.1 ∧ p.2.Same m.2

theorem decodeMembers_of_encodes {ps : List (String × Value)} {ms ms' : List (String × Json)}
    (h : List.Forall₂ Encodes ps ms) (hs : Json.SameMembers ms ms') :
    ∃ vs, Codec.decodeMembers ms' = .ok vs ∧ List.Forall₂ Restores ps vs := by
  induction h generalizing ms' with
  | nil =>
    obtain rfl : ms' = [] := hs
    exact ⟨[], rfl, .nil⟩
  | @cons p m ps ms hp _ ih =>
    obtain ⟨name, j⟩ := m
    obtain ⟨rfl, hj⟩ : name = p.1 ∧ Codec.encode p.2 = some j := hp
    obtain ⟨j', rest, rfl, hj', hrest⟩ := hs
    obtain ⟨v, hv, hsame⟩ := Codec.decode_of_encode p.2 hj hj'
    obtain ⟨vs, hvs, hrestores⟩ := ih hrest
    exact ⟨(p.1, v) :: vs, Codec.decodeMembers_cons hv hvs, .cons ⟨rfl, hsame⟩ hrestores⟩

/-- Reading a text of gathered fields closes an object with one member per field, in some order. -/
theorem read_of_encodes {ps : List (String × Value)} {ms : List (String × Json)} {text : String}
    (h : List.Forall₂ Encodes ps ms) (htext : Json.Spells text (.obj ms)) :
    ∃ vs ws, Codec.read text = (Codec.closeObject vs).mapError Json.Fault.refused ∧
      vs.Perm ws ∧ List.Forall₂ Restores ps ws := by
  obtain ⟨j', hs, hread⟩ := htext
  obtain ⟨ms', reordered, rfl, hperm, hs⟩ := hs
  obtain ⟨ws, hws, hrestores⟩ := decodeMembers_of_encodes h hs
  obtain ⟨vs, hvs, hperm'⟩ := Codec.decodeMembers_perm hws hperm
  refine ⟨vs, ws, ?_, hperm', hrestores⟩
  rw [Codec.read, hread Codec.builder, Codec.build_builder, Codec.decode_obj hvs]

theorem map_fst_of_restores {ps ws : List (String × Value)} (h : List.Forall₂ Restores ps ws) :
    ws.map Prod.fst = ps.map Prod.fst :=
  map_eq_of_forall₂ (h.imp fun _ _ hp => hp.1)

/-- A lone member under the tuple mark never closes to a dictionary. -/
theorem closeObject_tupleTag (v : Value) (entries : List (Value × Value)) :
    Codec.closeObject [(Codec.tupleTag, v)] ≠ .ok (.dict entries) := by
  show (Codec.itemsOf v).map Value.tuple ≠ _
  cases Codec.itemsOf v <;> simp [Except.map]

/-! ## Setting attributes -/

/-- Puts values under their names, one after the other. -/
def putAll (i : Instance) (vs : List (String × Value)) : Instance :=
  vs.foldl (fun i m => i.put m.1 m.2) i

theorem get?_putAll_of_not_mem {vs : List (String × Value)} {x : String}
    (h : x ∉ vs.map Prod.fst) (i : Instance) : (putAll i vs).get? x = i.get? x := by
  induction vs generalizing i with
  | nil => rfl
  | cons m vs ih =>
    obtain ⟨hm, hvs⟩ : x ≠ m.1 ∧ x ∉ vs.map Prod.fst := by simpa using h
    show (putAll (i.put m.1 m.2) vs).get? x = _
    rw [ih hvs, Table.get?_put, if_neg hm]

theorem get?_putAll_of_mem {vs : List (String × Value)} (hnodup : (vs.map Prod.fst).Nodup)
    {x : String} {w : Value} (h : (x, w) ∈ vs) (i : Instance) :
    (putAll i vs).get? x = some w := by
  induction vs generalizing i with
  | nil => cases h
  | cons m vs ih =>
    obtain ⟨hm, hvs⟩ := List.nodup_cons.mp hnodup
    show (putAll (i.put m.1 m.2) vs).get? x = _
    rcases List.mem_cons.mp h with rfl | h
    · rw [get?_putAll_of_not_mem hm, Table.get?_put, if_pos rfl]
    · exact ih hvs h _

section

variable {k : ClassInfo}

theorem assign_of_stores {x : String} (h : k.stores x = true) (i : Instance) (v : Value) :
    assign k i x v = .ok (i.put x v) := if_pos h

/-- Attributes that are stored are put, and then come the others. -/
theorem setAll_append {vs : List (String × Value)} (h : ∀ x ∈ vs.map Prod.fst, k.stores x = true)
    (i : Instance) (rest : List (Value × Value)) :
    setAll k i (Codec.toEntries vs ++ rest) = setAll k (putAll i vs) rest := by
  induction vs generalizing i with
  | nil => rfl
  | cons m vs ih =>
    obtain ⟨hm, hvs⟩ : k.stores m.1 = true ∧ ∀ x ∈ vs.map Prod.fst, k.stores x = true := by
      simpa using h
    show setAll k i ((.str m.1, m.2) :: (Codec.toEntries vs ++ rest)) = _
    rw [setAll, assign_of_stores hm]
    exact ih hvs _

theorem setAll_of_stores {vs : List (String × Value)}
    (h : ∀ x ∈ vs.map Prod.fst, k.stores x = true) (i : Instance) :
    setAll k i (Codec.toEntries vs) = (none, putAll i vs) := by
  have hsplit := setAll_append h i []
  rwa [List.append_nil] at hsplit

end

/-! ## Saving and restoring -/

theorem line_obj_ne_empty (ms : List (String × Json)) : (Json.obj ms).line ≠ "" := by
  intro h
  have hchars := Json.chars_obj ms
  rw [Json.chars, h] at hchars
  cases hchars

section

variable {k : ClassInfo} {i : Instance} {text : String} (hstate : hasState k = true)
  (hdata : valueOf k i serializedField = .str text) (hne : text ≠ "")
include hstate hdata hne

theorem restore_of_ok {entries : List (Value × Value)} (h : readState k text = .ok entries) :
    restore k i = setAll k i entries := by
  simp [restore, hstate, hdata, Value.isVoid, hne, h]

theorem restore_of_error {e : Error} (h : readState k text = .error e) :
    restore k i = (some e, i) := by
  simp [restore, hstate, hdata, Value.isVoid, hne, h]

end

theorem valueOf_of_get? {k : ClassInfo} {i : Instance} {x : String} {v : Value}
    (h : i.get? x = some v) : valueOf k i x = v := by
  simp [valueOf, h]

theorem afterDeserialize_eq_ok_iff {k : ClassInfo} {i r : Instance} :
    afterDeserialize k i = .ok r ↔ restore k i = (none, r) := by
  unfold afterDeserialize
  split <;> simp_all

theorem readState_eq_ok_iff {k : ClassInfo} {text : String} {entries : List (Value × Value)} :
    readState k text = .ok entries ↔ Codec.read text = .ok (.dict entries) := by
  unfold readState
  split <;> simp_all

section

variable {k : ClassInfo} {text : String} {vs : List (String × Value)}

theorem readState_of_names_ne
    (h : Codec.read text = (Codec.closeObject vs).mapError Json.Fault.refused)
    (hvs : vs.map Prod.fst ≠ [Codec.tupleTag]) : readState k text = .ok (Codec.toEntries vs) := by
  rw [readState_eq_ok_iff, h, Codec.closeObject_of_names_ne hvs]
  rfl

theorem readState_ne_ok_of_lone
    (h : Codec.read text = (Codec.closeObject vs).mapError Json.Fault.refused)
    (hvs : vs.map Prod.fst = [Codec.tupleTag]) (entries : List (Value × Value)) :
    readState k text ≠ .ok entries := by
  obtain ⟨⟨name, v⟩, rfl, hname⟩ := List.map_eq_singleton_iff.mp hvs
  obtain rfl : name = Codec.tupleTag := hname
  rw [ne_eq, readState_eq_ok_iff, h]
  cases hclose : Codec.closeObject [(Codec.tupleTag, v)] with
  | error e => simp [Except.mapError]
  | ok w =>
    intro hw
    obtain rfl : w = .dict entries := by simpa [Except.mapError] using hw
    exact closeObject_tupleTag v entries hclose

end

/-- Every gathered field has a member that restores it. -/
theorem exists_restored {c : Ir.Component} {k : ClassInfo} {i : Instance} {x : String}
    {ws : List (String × Value)} (h : List.Forall₂ Restores (gatheredValues c k i) ws)
    (hx : x ∈ gathered c k i) : ∃ w, (x, w) ∈ ws ∧ (valueOf k i x).Same w := by
  obtain ⟨f, hf, rfl⟩ := List.mem_map.mp hx
  have hmem : (f.name, valueOf k i f.name) ∈ gatheredValues c k i :=
    List.mem_map_of_mem (f := fun f : Ir.Field => (f.name, valueOf k i f.name)) hf
  obtain ⟨⟨name, w⟩, hw, hname, hsame⟩ := exists_left_of_mem h.flip hmem
  obtain rfl : name = f.name := hname
  exact ⟨w, hw, hsame⟩

/-- A field hides what a base class computes under its name. -/
theorem stores_of_gathered {c : Ir.Component} {k : ClassInfo} (hk : k.Describes c) {i : Instance}
    {x : String} (hx : x ∈ gathered c k i) : k.stores x = true := by
  obtain ⟨f, hf, rfl⟩ := List.mem_map.mp hx
  have hmem : f.name ∈ k.fields := hk.fields ▸ List.mem_map_of_mem (List.mem_filter.mp hf).1
  simp [ClassInfo.stores, hmem]

/-- A component that is saved and restored keeps what is gathered, and a restored instance changes
in nothing else. Only a lone field under the tuple mark cannot be restored.

A field is the attribute of its plain name, and it can be set. Outside of this are the private
fields of a generated class, which its methods keep under another name, and fields whose names say
how attributes are read and set. -/
theorem restored_iff_not_lone_tuple_mark {known : Messages} {policy : DuplicatePolicy}
    {ambient : Option Place} {d : Definition.Input} {c : Ir.Component} {t t' : Trace}
    (hc : Yields (Definition.compile known policy ambient d) t c t') (hd : d.constant = true)
    {k : ClassInfo} (hk : k.Describes c) (i other : Instance)
    (hother : other.get? serializedField = (beforeSerialize k i).get? serializedField)
    (hjson : Json.Spells (Json.obj (payload k i)).line (.obj (payload k i))) :
    (∀ x ≠ serializedField, (beforeSerialize k i).get? x = i.get? x) ∧
      ((∃ r, afterDeserialize k other = .ok r) ↔ gathered c k i ≠ [Codec.tupleTag]) ∧
      ∀ r, afterDeserialize k other = .ok r →
        (∀ x ∈ gathered c k i, ∃ w, r.get? x = some w ∧ (valueOf k i x).Same w) ∧
          ∀ x ∉ gathered c k i, r.get? x = other.get? x := by
  obtain ⟨hnodup, hfield⟩ := Definition.fields_of_constant hc hd
  have hstate : hasState k = true := by
    rw [hasState, hk.fields, List.contains_iff_mem]
    exact List.mem_map_of_mem hfield
  have htext : other.get? serializedField = some (.str (Json.obj (payload k i)).line) := by
    rw [hother, beforeSerialize, if_pos hstate, Table.get?_put, if_pos rfl]
  have hdata := valueOf_of_get? (k := k) htext
  have hne := line_obj_ne_empty (payload k i)
  simp only [afterDeserialize_eq_ok_iff]
  obtain ⟨vs, ws, hread, hperm, hrestores⟩ := read_of_encodes (encodes_payload hnodup hk) hjson
  have hnames : (vs.map Prod.fst).Perm (gathered c k i) := by
    rw [← map_fst_gatheredValues, ← map_fst_of_restores hrestores]
    exact hperm.map Prod.fst
  have hnodup' : (vs.map Prod.fst).Nodup :=
    hnames.nodup_iff.mpr (hnodup.sublist (List.filter_sublist.map _))
  refine ⟨fun x hx => get?_beforeSerialize k i hx, ?_⟩
  by_cases hlone : gathered c k i = [Codec.tupleTag]
  · have hfail : ∀ r, restore k other ≠ (none, r) := by
      intro r hr
      have hvs : vs.map Prod.fst = [Codec.tupleTag] := List.perm_singleton.mp (hlone ▸ hnames)
      cases hentries : readState k (Json.obj (payload k i)).line with
      | error e => simp [restore_of_error hstate hdata hne hentries] at hr
      | ok entries => exact readState_ne_ok_of_lone hread hvs entries hentries
    refine ⟨iff_of_false ?_ (by simpa using hlone), fun r hr => absurd hr (hfail r)⟩
    rintro ⟨r, hr⟩
    exact hfail r hr
  · have hvs : vs.map Prod.fst ≠ [Codec.tupleTag] := by
      intro h
      exact hlone (List.perm_singleton.mp (h ▸ hnames.symm))
    have hstores : ∀ x ∈ vs.map Prod.fst, k.stores x = true :=
      fun x hx => stores_of_gathered hk (hnames.mem_iff.mp hx)
    rw [restore_of_ok hstate hdata hne (readState_of_names_ne hread hvs), setAll_of_stores hstores]
    refine ⟨iff_of_true ⟨_, rfl⟩ hlone, ?_⟩
    rintro r hr
    obtain rfl : putAll other vs = r := by simpa using hr
    constructor
    · intro x hx
      obtain ⟨w, hw, hsame⟩ := exists_restored hrestores hx
      exact ⟨w, get?_putAll_of_mem hnodup' (hperm.mem_iff.mpr hw) other, hsame⟩
    · intro x hx
      exact get?_putAll_of_not_mem (fun hmem => hx (hnames.mem_iff.mp hmem)) other

/-- The instance `other` with the state that saving `i` gives. -/
def handOver (k : ClassInfo) (i other : Instance) : Instance :=
  other.put serializedField (valueOf k (beforeSerialize k i) serializedField)

theorem get?_handOver {k : ClassInfo} (hstate : hasState k = true) (i other : Instance) :
    (handOver k i other).get? serializedField = some (.str (Json.obj (payload k i)).line) := by
  simp [handOver, valueOf, beforeSerialize, hstate]

/-- A component with a number, a position, an owner and a label that the host stores. -/
def monster : Definition.Input :=
  { name := "Monster"
    fields := [{ name := "hp" }, { name := "position" }, { name := "owner" },
      { name := "label", native := true }] }

def monsterClass : ClassInfo :=
  { name := "Monster"
    fields := ["hp", "position", "owner", "label", serializedField]
    nativeFields := ["label", serializedField]
    hiddenFields := [serializedField] }

/-- A monster that an object of the host owns. -/
def owned : Instance :=
  ⟨[("hp", .int 3), ("position", .tuple [.int 1, .int 2]), ("owner", .object "king")]⟩

/-- A monster with another owner gets the position of `owned` and keeps its owner. -/
theorem monster_restored :
    ∃ c t' r, Yields (Definition.compile .standard .keepLast none monster) {} c t' ∧
      gathered c monsterClass owned = ["hp", "position"] ∧
      afterDeserialize monsterClass (handOver monsterClass owned ⟨[("owner", .object "queen")]⟩) =
        .ok r ∧
      (∃ w, r.get? "position" = some w ∧ (Value.tuple [.int 1, .int 2]).Same w) ∧
      r.get? "owner" = some (.object "queen") := by
  have hc : ∃ c t', Yields (Definition.compile .standard .keepLast none monster) {} c t' ∧
      monsterClass.Describes c ∧ gathered c monsterClass owned = ["hp", "position"] :=
    ⟨_, _, rfl, ⟨rfl, rfl, rfl⟩, rfl⟩
  obtain ⟨c, t', hc, hk, hgathered⟩ := hc
  have hpayload : (Json.obj (payload monsterClass owned)).Writable := by
    show (["hp", "position"] : List String).Nodup ∧ isWritable 3 = true ∧
      (([Codec.tupleTag] : List String).Nodup ∧ (isWritable 1 = true ∧ isWritable 2 = true ∧ True) ∧
        True) ∧ True
    decide +kernel
  obtain ⟨-, hiff, hrestored⟩ := restored_iff_not_lone_tuple_mark hc rfl hk owned
    (handOver monsterClass owned ⟨[("owner", .object "queen")]⟩) rfl (Json.spells_line hpayload)
  obtain ⟨r, hr⟩ := hiff.mpr (by rw [hgathered]; decide)
  obtain ⟨hset, hkept⟩ := hrestored r hr
  refine ⟨c, t', r, hc, hgathered, hr, ?_, ?_⟩
  · exact hset "position" (by simp [hgathered])
  · rw [hkept "owner" (by simp [hgathered])]
    rfl

/-- A component whose only field is named like the tuple mark. -/
def bag : Definition.Input := { name := "Bag", fields := [{ name := Codec.tupleTag }] }

def bagClass : ClassInfo :=
  { name := "Bag"
    fields := [Codec.tupleTag, serializedField]
    nativeFields := [serializedField]
    hiddenFields := [serializedField] }

/-- The value of the field has a JSON form, and still no instance can be restored from it. -/
theorem bag_not_restored :
    ∃ c t', Yields (Definition.compile .standard .keepLast none bag) {} c t' ∧
      bagClass.Describes c ∧
      gathered c bagClass ⟨[(Codec.tupleTag, .list [.int 1, .int 2])]⟩ = [Codec.tupleTag] ∧
      afterDeserialize bagClass
          (handOver bagClass ⟨[(Codec.tupleTag, .list [.int 1, .int 2])]⟩ .empty) =
        .error (.notAnObject "Bag") := by
  refine ⟨_, _, rfl, ⟨rfl, rfl, rfl⟩, rfl, ?_⟩
  have hform : (Json.obj [(Codec.tupleTag, .arr [.int 1, .int 2])]).Writable := by
    show ([Codec.tupleTag] : List String).Nodup ∧
      (isWritable 1 = true ∧ isWritable 2 = true ∧ True) ∧ True
    decide +kernel
  have hread : Codec.read (Json.obj [(Codec.tupleTag, .arr [.int 1, .int 2])]).line =
      .ok (.tuple [.int 1, .int 2]) := Json.read_line hform Codec.builder
  have hpayload : payload bagClass ⟨[(Codec.tupleTag, .list [.int 1, .int 2])]⟩ =
      [(Codec.tupleTag, .arr [.int 1, .int 2])] := rfl
  have htext := get?_handOver (k := bagClass) rfl
    ⟨[(Codec.tupleTag, .list [.int 1, .int 2])]⟩ .empty
  rw [hpayload] at htext
  have hstate : readState bagClass (Json.obj [(Codec.tupleTag, .arr [.int 1, .int 2])]).line =
      .error (.notAnObject "Bag") := by
    rw [readState, hread]
    rfl
  rw [afterDeserialize,
    restore_of_error rfl (valueOf_of_get? htext) (line_obj_ne_empty _) hstate]

end Persist

end Componentry
