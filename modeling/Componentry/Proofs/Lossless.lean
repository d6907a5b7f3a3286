import Componentry.Export
import Componentry.Proofs.Trees

/-!
# Exported code can be read back

The exported code of a module is a document of tagged objects. The document does not tell pairs from
lists, it has `null` for a part that is absent and for a constant that is nothing, and the tag of an
object is a member among others. What a list or a `null` stands for can only be told from the object
around it, and what the object is from its tag.

`Tree.ofJson` reads a document into a tree: it looks for the tag, and then for the fields that
objects with this tag have. The readers of compiled code do the rest.

**Theorem (`reads_exported_code`).** Whatever the order of its members, the exported code of a
module is read as the values, functions and components of the module.

**Theorem (`exported_code_lossless`).** So the exported code of two modules is the same exactly if
they have the same values, functions and components.
-/

namespace Componentry

/-! ## Lists with keys -/

section Keys

variable {α β : Type}

theorem find?_key_of_mem {entries : List (String × α)} {key : String} {a : α}
    (hnodup : (entries.map Prod.fst).Nodup) (h : (key, a) ∈ entries) :
    entries.find? (·.1 == key) = some (key, a) := by
  induction entries with
  | nil => simp at h
  | cons e rest ih =>
    obtain ⟨k, b⟩ := e
    obtain ⟨hk, hrest⟩ := List.nodup_cons.mp hnodup
    rcases List.mem_cons.mp h with heq | h
    · obtain ⟨rfl, rfl⟩ := Prod.mk.inj heq
      simp
    · have hne : k ≠ key := by
        rintro rfl
        exact hk (List.mem_map.mpr ⟨_, h, rfl⟩)
      simp [hne, ih hrest h]

theorem bind_of_ok {ε : Type} {x : Except ε α} {f : α → Except ε β} {a : α} {y : Except ε β}
    (hx : x = .ok a) (hf : f a = y) : (x >>= f) = y := by
  rw [hx]
  exact hf

end Keys

namespace Json

mutual

theorem same_refl (j : Json) : j.Same j := by
  match j with
  | .null | .bool _ | .int _ | .float _ | .str _ => exact rfl
  | .arr items => exact ⟨items, rfl, sameItems_refl items⟩
  | .obj members => exact ⟨members, members, rfl, .refl _, sameMembers_refl members⟩

theorem sameItems_refl (js : List Json) : SameItems js js := by
  match js with
  | [] => exact rfl
  | j :: rest => exact ⟨j, rest, rfl, same_refl j, sameItems_refl rest⟩

theorem sameMembers_refl (ms : List (String × Json)) : SameMembers ms ms := by
  match ms with
  | [] => exact rfl
  | (name, j) :: rest => exact ⟨j, rest, rfl, same_refl j, sameMembers_refl rest⟩

end

end Json

namespace Ir

/-! ## Documents as trees -/

/-- What an object with the given fields is: a node if it has a tag and all fields of the kind, and
else a dictionary. -/
def Tree.ofFields (fields : List (String × Tree)) : Tree :=
  match fields.find? (·.1 == "node") with
  | some (_, .str tag) =>
    match (Kind.ofName? tag).bind fun kind =>
        (Kind.complete? kind.slots fields).map (.node kind) with
    | some t => t
    | Option.none => .dict (fields.map fun f => (.str f.1, f.2))
  | _ => .dict (fields.map fun f => (.str f.1, f.2))

mutual

/-- The tree that a document stands for. -/
def Tree.ofJson : Json → Tree
  | .null => .none
  | .bool b => .bool b
  | .int n => .int n
  | .float x => .float x
  | .str s => .str s
  | .arr items => .list (treesOfJsons items)
  | .obj members => Tree.ofFields (fieldsOfMembers members)

def treesOfJsons : List Json → List Tree
  | [] => []
  | j :: rest => Tree.ofJson j :: treesOfJsons rest

def fieldsOfMembers : List (String × Json) → List (String × Tree)
  | [] => []
  | (name, j) :: rest => (name, Tree.ofJson j) :: fieldsOfMembers rest

end

theorem fieldsOfMembers_eq (members : List (String × Json)) :
    fieldsOfMembers members = members.map fun m => (m.1, Tree.ofJson m.2) := by
  induction members with
  | nil => rfl
  | cons m rest ih => rw [fieldsOfMembers, ih, List.map_cons]

/-! ## Nodes -/

def Kind.fieldNames (kind : Kind) : List String := kind.slots.map Prod.fst

/-- The node of a kind with the given values of its fields. -/
def Kind.tree (kind : Kind) (values : List Tree) : Tree := .node kind (kind.fieldNames.zip values)

theorem Kind.ofName?_name (kind : Kind) : Kind.ofName? kind.name = some kind := by
  cases kind <;> decide

/-- No field is named like the tag, and no two fields have the same name. -/
theorem Kind.nodup_fieldNames (kind : Kind) : ("node" :: kind.fieldNames).Nodup := by
  cases kind <;> decide

/-- Fields that are all given are completed to themselves, in the order of the kind. -/
theorem Kind.complete?_of_mem {given : List (String × Tree)} (hnodup : (given.map Prod.fst).Nodup) :
    ∀ {slots : List Slot} {values : List Tree}, slots.length = values.length →
      (∀ f ∈ (slots.map Prod.fst).zip values, f ∈ given) →
      Kind.complete? slots given = some ((slots.map Prod.fst).zip values)
  | [], [], _, _ => rfl
  | (name, default) :: slots, t :: values, hlength, h => by
    simp only [List.map_cons, List.zip_cons_cons, List.forall_mem_cons] at h
    have hrest := Kind.complete?_of_mem hnodup (Nat.succ.inj hlength) h.2
    unfold Kind.complete? at hrest ⊢
    simp [List.mapM_cons, find?_key_of_mem hnodup h.1, hrest]

/-- Members that are the same as those of fields have the names of the fields, and values that are
the same as theirs. -/
theorem sameMembers_toMembers_zip {names : List String} :
    ∀ {values : List Tree} {members : List (String × Json)}, names.length = values.length →
      Json.SameMembers (Tree.toMembers (names.zip values)) members →
      ∃ js, members = names.zip js ∧ js.length = values.length ∧
        Json.SameItems (Tree.toJsons values) js := by
  induction names with
  | nil =>
    intro values members hlength h
    obtain rfl : values = [] := List.length_eq_zero_iff.mp hlength.symm
    obtain rfl : members = [] := h
    exact ⟨[], rfl, rfl, rfl⟩
  | cons name rest ih =>
    intro values members hlength h
    cases values with
    | nil => simp at hlength
    | cons t values =>
      obtain ⟨j, members, rfl, hj, hrest⟩ := h
      obtain ⟨js, rfl, hjs, hsame⟩ := ih (Nat.succ.inj hlength) hrest
      exact ⟨j :: js, rfl, by simp [hjs], j, js, rfl, hj, hsame⟩

theorem zip_treesOfJsons (names : List String) (js : List Json) :
    names.zip (treesOfJsons js) = (names.zip js).map fun m => (m.1, Tree.ofJson m.2) := by
  induction names generalizing js with
  | nil => rfl
  | cons name rest ih =>
    cases js with
    | nil => rfl
    | cons j js => simp [treesOfJsons, ih]

theorem length_treesOfJsons (js : List Json) : (treesOfJsons js).length = js.length := by
  induction js with
  | nil => rfl
  | cons j rest ih => simp [treesOfJsons, ih]

/-- **Nodes are read as nodes.** Whatever the order of its members, the object of a node is read as
a node of the same kind, whose fields are read from the values of the members. -/
theorem ofJson_node (kind : Kind) (values : List Tree) {j : Json}
    (hlength : kind.fieldNames.length = values.length) (h : (kind.tree values).toJson.Same j) :
    ∃ js, Json.SameItems (Tree.toJsons values) js ∧
      Tree.ofJson j = kind.tree (treesOfJsons js) := by
  obtain ⟨members, reordered, rfl, hperm, tag, tail, rfl, rfl, htail⟩ := h
  obtain ⟨js, rfl, hjs, hsame⟩ := sameMembers_toMembers_zip hlength htail
  refine ⟨js, hsame, ?_⟩
  -- The fields that are read, in the order of the kind and in that of the document.
  have hfields : (("node", Tree.str kind.name) :: kind.fieldNames.zip (treesOfJsons js)).Perm
      (fieldsOfMembers members) := by
    rw [fieldsOfMembers_eq, zip_treesOfJsons]
    simpa [Tree.ofJson] using hperm.map fun m => (m.1, Tree.ofJson m.2)
  have hkeys : (("node", Tree.str kind.name) ::
      kind.fieldNames.zip (treesOfJsons js)).map Prod.fst = "node" :: kind.fieldNames := by
    have hlen : kind.fieldNames.length = (treesOfJsons js).length := by
      rw [length_treesOfJsons, hjs, hlength]
    rw [List.map_cons, List.map_fst_zip (Nat.le_of_eq hlen)]
  have hnodup : ((fieldsOfMembers members).map Prod.fst).Nodup := by
    rw [← (hfields.map Prod.fst).nodup_iff, hkeys]
    exact kind.nodup_fieldNames
  have htag := find?_key_of_mem hnodup (hfields.mem_iff.mp List.mem_cons_self)
  have hcomplete : Kind.complete? kind.slots (fieldsOfMembers members) =
      some (kind.fieldNames.zip (treesOfJsons js)) := by
    refine Kind.complete?_of_mem hnodup ?_ fun f hf => ?_
    · rw [length_treesOfJsons, hjs, ← hlength, Kind.fieldNames, List.length_map]
    · exact hfields.mem_iff.mp (List.mem_cons_of_mem _ hf)
  simp [Tree.ofJson, Tree.ofFields, htag, Kind.ofName?_name, hcomplete, Kind.tree]

/-! ## Expressions -/

/-- The tree is one that code is read from, and it is read as the expression. -/
def Tree.Holds (t : Tree) (e : Expr) : Prop := t.misfit? = Option.none ∧ Expr.outline t = e

theorem Tree.Holds.ofTree {t : Tree} {e : Expr} (h : t.Holds e) : Expr.ofTree t = .ok e := by
  unfold Expr.ofTree
  rw [h.1, h.2]

theorem ofJson_literal {value : Literal} {j : Json} (h : value.toTree.toJson.Same j) :
    Literal.ofTree? (Tree.ofJson j) = some value := by
  cases value <;>
  · obtain rfl : j = _ := h
    rfl

/-- The trees are read as the expressions one by one. -/
def AllHold (ts : List Tree) (es : List Expr) : Prop :=
  (∀ m ∈ Tree.misfits ts, m = none) ∧ outlines ts = es

theorem AllHold.findSome? {ts : List Tree} {es : List Expr} (h : AllHold ts es) :
    (Tree.misfits ts).findSome? id = none :=
  List.findSome?_eq_none_iff.mpr h.1

theorem orElse_eq_none {a b : Option Misfit} (ha : a = none) (hb : b = none) :
    (a <|> b) = none := by
  rw [ha, hb]
  rfl

/-- Keys and values that are read have no misfit in turn. -/
theorem inTurn_eq_none {keys values : List (Option Misfit)} (hkeys : ∀ m ∈ keys, m = none)
    (hvalues : ∀ m ∈ values, m = none) : inTurn keys values = none := by
  fun_induction inTurn keys values with
  | case1 key keys value values ih =>
    obtain ⟨hkey, hkeys⟩ := List.forall_mem_cons.mp hkeys
    obtain ⟨hvalue, hvalues⟩ := List.forall_mem_cons.mp hvalues
    exact orElse_eq_none hkey (orElse_eq_none hvalue (ih hkeys hvalues))
  | case2 => rfl

mutual

/-- **Expressions are read back.** -/
theorem holds_expr (e : Expr) {j : Json} (h : e.toTree.toJson.Same j) :
    (Tree.ofJson j).Holds e := by
  match e with
  | .const value =>
    obtain ⟨_, ⟨j, _, rfl, hvalue, rfl⟩, hj⟩ := ofJson_node .const [value.toTree] rfl h
    have hliteral := ofJson_literal hvalue
    rw [hj]
    exact ⟨by simp [Kind.tree, Kind.fieldNames, Kind.slots, treesOfJsons, Tree.misfit?, hliteral],
      by simp [Kind.tree, Kind.fieldNames, Kind.slots, treesOfJsons, Expr.outline, hliteral]⟩
  | .var name =>
    obtain ⟨_, ⟨_, _, rfl, rfl, rfl⟩, hj⟩ := ofJson_node .var [.str name] rfl h
    rw [hj]
    exact ⟨rfl, rfl⟩
  | .typeRef typeName codeName =>
    obtain ⟨_, ⟨_, _, rfl, rfl, _, _, rfl, rfl, rfl⟩, hj⟩ :=
      ofJson_node .typeRef [.str typeName, .str codeName] rfl h
    rw [hj]
    exact ⟨rfl, rfl⟩
  | .attr obj field =>
    obtain ⟨_, ⟨j, _, rfl, hobj, _, _, rfl, rfl, rfl⟩, hj⟩ :=
      ofJson_node .attr [obj.toTree, .str field] rfl h
    obtain ⟨hfits, hread⟩ := holds_expr obj hobj
    rw [hj]
    exact ⟨hfits, congrArg (Expr.attr · field) hread⟩
  | .call func args =>
    obtain ⟨_, ⟨j, _, rfl, hfunc, _, _, rfl, ⟨js, rfl, hargs⟩, rfl⟩, hj⟩ :=
      ofJson_node .call [func.toTree, .list (treesOfExprs args)] rfl h
    obtain ⟨hfits, hread⟩ := holds_expr func hfunc
    have hargs := holds_exprs args hargs
    rw [hj]
    exact ⟨orElse_eq_none hargs.findSome? hfits, congrArg₂ Expr.call hread hargs.2⟩
  | .unary op value =>
    obtain ⟨_, ⟨_, _, rfl, rfl, j, _, rfl, hvalue, rfl⟩, hj⟩ :=
      ofJson_node .unary [.str op, value.toTree] rfl h
    obtain ⟨hfits, hread⟩ := holds_expr value hvalue
    rw [hj]
    exact ⟨hfits, congrArg (Expr.unary op) hread⟩
  | .binary op left right =>
    obtain ⟨_, ⟨_, _, rfl, rfl, j, _, rfl, hleft, j', _, rfl, hright, rfl⟩, hj⟩ :=
      ofJson_node .binary [.str op, left.toTree, right.toTree] rfl h
    obtain ⟨hfits, hread⟩ := holds_expr left hleft
    obtain ⟨hfits', hread'⟩ := holds_expr right hright
    rw [hj]
    exact ⟨orElse_eq_none hfits hfits', congrArg₂ (Expr.binary op) hread hread'⟩
  | .ifExpr condition yes no =>
    obtain ⟨_, ⟨j, _, rfl, hcondition, j', _, rfl, hyes, j'', _, rfl, hno, rfl⟩, hj⟩ :=
      ofJson_node .ifExpr [condition.toTree, yes.toTree, no.toTree] rfl h
    obtain ⟨hfits, rfl⟩ := holds_expr condition hcondition
    obtain ⟨hfits', rfl⟩ := holds_expr yes hyes
    obtain ⟨hfits'', rfl⟩ := holds_expr no hno
    rw [hj]
    exact ⟨orElse_eq_none hfits' (orElse_eq_none hfits hfits''), rfl⟩
  | .isInstance value typeName codeName =>
    obtain ⟨_, ⟨j, _, rfl, hvalue, _, _, rfl, rfl, _, _, rfl, rfl, rfl⟩, hj⟩ :=
      ofJson_node .isInstance [value.toTree, .str typeName, .str codeName] rfl h
    obtain ⟨hfits, hread⟩ := holds_expr value hvalue
    rw [hj]
    exact ⟨hfits, congrArg (Expr.isInstance · typeName codeName) hread⟩
  | .annotated value typeName =>
    obtain ⟨_, ⟨j, _, rfl, hvalue, _, _, rfl, rfl, rfl⟩, hj⟩ :=
      ofJson_node .annotated [value.toTree, .str typeName] rfl h
    obtain ⟨hfits, hread⟩ := holds_expr value hvalue
    rw [hj]
    exact ⟨hfits, congrArg (Expr.annotated · typeName) hread⟩
  | .letIn bindings body =>
    obtain ⟨_, ⟨_, _, rfl, ⟨js, rfl, hbindings⟩, j, _, rfl, hbody, rfl⟩, hj⟩ :=
      ofJson_node .letIn [.list (treesOfBindings bindings), body.toTree] rfl h
    obtain ⟨hfits, hread⟩ := holds_bindings bindings hbindings
    obtain ⟨hfits', hread'⟩ := holds_expr body hbody
    rw [hj]
    exact ⟨orElse_eq_none hfits hfits', congrArg₂ Expr.letIn hread hread'⟩
  | .list items =>
    obtain ⟨_, ⟨_, _, rfl, ⟨js, rfl, hitems⟩, rfl⟩, hj⟩ :=
      ofJson_node .list [.list (treesOfExprs items)] rfl h
    have hitems := holds_exprs items hitems
    rw [hj]
    exact ⟨hitems.findSome?, congrArg Expr.list hitems.2⟩
  | .tuple items =>
    obtain ⟨_, ⟨_, _, rfl, ⟨js, rfl, hitems⟩, rfl⟩, hj⟩ :=
      ofJson_node .tuple [.list (treesOfExprs items)] rfl h
    have hitems := holds_exprs items hitems
    rw [hj]
    exact ⟨hitems.findSome?, congrArg Expr.tuple hitems.2⟩
  | .dict keys values =>
    obtain ⟨_, ⟨_, _, rfl, ⟨js, rfl, hkeys⟩, _, _, rfl, ⟨js', rfl, hvalues⟩, rfl⟩, hj⟩ :=
      ofJson_node .dict [.list (treesOfExprs keys), .list (treesOfExprs values)] rfl h
    have hkeys := holds_exprs keys hkeys
    have hvalues := holds_exprs values hvalues
    rw [hj]
    exact ⟨inTurn_eq_none hkeys.1 hvalues.1, congrArg₂ Expr.dict hkeys.2 hvalues.2⟩
  | .subscript value index =>
    obtain ⟨_, ⟨j, _, rfl, hvalue, j', _, rfl, hindex, rfl⟩, hj⟩ :=
      ofJson_node .subscript [value.toTree, index.toTree] rfl h
    obtain ⟨hfits, hread⟩ := holds_expr value hvalue
    obtain ⟨hfits', hread'⟩ := holds_expr index hindex
    rw [hj]
    exact ⟨orElse_eq_none hfits hfits', congrArg₂ Expr.subscript hread hread'⟩

theorem holds_exprs (es : List Expr) {js : List Json}
    (h : Json.SameItems (Tree.toJsons (treesOfExprs es)) js) : AllHold (treesOfJsons js) es := by
  match es with
  | [] =>
    obtain rfl : js = [] := h
    exact ⟨by simp [treesOfJsons, Tree.misfits], rfl⟩
  | e :: rest =>
    obtain ⟨j, js, rfl, hj, hjs⟩ := h
    obtain ⟨hfits, hread⟩ := holds_expr e hj
    obtain ⟨hfits', hread'⟩ := holds_exprs rest hjs
    exact ⟨List.forall_mem_cons.mpr ⟨hfits, hfits'⟩, congrArg₂ List.cons hread hread'⟩

/-- Bindings are read back, although the document has lists for the pairs. -/
theorem holds_bindings (bs : List (String × Expr)) {js : List Json}
    (h : Json.SameItems (Tree.toJsons (treesOfBindings bs)) js) :
    Tree.bindingMisfit? (treesOfJsons js) = none ∧ outlinesOfBindings (treesOfJsons js) = bs := by
  match bs with
  | [] =>
    obtain rfl : js = [] := h
    exact ⟨rfl, rfl⟩
  | (name, e) :: rest =>
    obtain ⟨_, js, rfl, ⟨_, rfl, _, _, rfl, rfl, j, _, rfl, hj, rfl⟩, hjs⟩ := h
    obtain ⟨hfits, rfl⟩ := holds_expr e hj
    obtain ⟨hfits', rfl⟩ := holds_bindings rest hjs
    exact ⟨orElse_eq_none hfits hfits', rfl⟩

end

/-- A part that may be absent is read back: only the absent part is `null`. -/
theorem optionOfTree_ofJson {e : Option Expr} {j : Json} (h : (treeOfOption e).toJson.Same j) :
    optionOfTree (Tree.ofJson j) = .ok e := by
  cases e with
  | none =>
    obtain rfl : j = .null := h
    rfl
  | some e =>
    have he := holds_expr e h
    have hread := he.ofTree
    cases ht : Tree.ofJson j with
    | none =>
      rw [ht] at he
      exact absurd he.1 (by simp [Tree.misfit?])
    | _ =>
      rw [ht] at hread
      simp [optionOfTree, hread, bind, Except.bind]

/-! ## Statements -/

mutual

/-- **Statements are read back.** -/
theorem ofTree_stmt (s : Stmt) {j : Json} (h : s.toTree.toJson.Same j) :
    Stmt.ofTree (Tree.ofJson j) = .ok s := by
  match s with
  | .assign target value =>
    obtain ⟨_, ⟨j, _, rfl, htarget, j', _, rfl, hvalue, rfl⟩, hj⟩ :=
      ofJson_node .assign [target.toTree, value.toTree] rfl h
    rw [hj]
    exact bind_of_ok (holds_expr target htarget).ofTree
      (bind_of_ok (holds_expr value hvalue).ofTree rfl)
  | .augAssign target op value =>
    obtain ⟨_, ⟨j, _, rfl, htarget, _, _, rfl, rfl, j', _, rfl, hvalue, rfl⟩, hj⟩ :=
      ofJson_node .augAssign [target.toTree, .str op, value.toTree] rfl h
    rw [hj]
    exact bind_of_ok (holds_expr target htarget).ofTree
      (bind_of_ok (holds_expr value hvalue).ofTree rfl)
  | .exprStmt value =>
    obtain ⟨_, ⟨j, _, rfl, hvalue, rfl⟩, hj⟩ := ofJson_node .exprStmt [value.toTree] rfl h
    rw [hj]
    exact bind_of_ok (holds_expr value hvalue).ofTree rfl
  | .ifElse condition body orelse =>
    obtain ⟨_, ⟨j, _, rfl, hcondition, _, _, rfl, ⟨js, rfl, hbody⟩, _, _, rfl, ⟨js', rfl, horelse⟩,
      rfl⟩, hj⟩ :=
      ofJson_node .ifElse
        [condition.toTree, .list (treesOfBlock body), .list (treesOfBlock orelse)] rfl h
    rw [hj]
    exact bind_of_ok (holds_expr condition hcondition).ofTree
      (bind_of_ok (blockOfTrees_block body hbody)
        (bind_of_ok (blockOfTrees_block orelse horelse) rfl))
  | .whileDo condition body =>
    obtain ⟨_, ⟨j, _, rfl, hcondition, _, _, rfl, ⟨js, rfl, hbody⟩, rfl⟩, hj⟩ :=
      ofJson_node .whileDo [condition.toTree, .list (treesOfBlock body)] rfl h
    rw [hj]
    exact bind_of_ok (holds_expr condition hcondition).ofTree
      (bind_of_ok (blockOfTrees_block body hbody) rfl)
  | .forIn var iterable body =>
    obtain ⟨_, ⟨_, _, rfl, rfl, j, _, rfl, hiterable, _, _, rfl, ⟨js, rfl, hbody⟩, rfl⟩, hj⟩ :=
      ofJson_node .forIn [.str var, iterable.toTree, .list (treesOfBlock body)] rfl h
    rw [hj]
    exact bind_of_ok (holds_expr iterable hiterable).ofTree
      (bind_of_ok (blockOfTrees_block body hbody) rfl)
  | .ret value =>
    obtain ⟨_, ⟨j, _, rfl, hvalue, rfl⟩, hj⟩ := ofJson_node .ret [treeOfOption value] rfl h
    rw [hj]
    exact bind_of_ok (optionOfTree_ofJson hvalue) rfl
  | .brk =>
    obtain ⟨_, rfl, hj⟩ := ofJson_node .brk [] rfl h
    rw [hj]
    rfl
  | .cont =>
    obtain ⟨_, rfl, hj⟩ := ofJson_node .cont [] rfl h
    rw [hj]
    rfl

theorem blockOfTrees_block (ss : List Stmt) {js : List Json}
    (h : Json.SameItems (Tree.toJsons (treesOfBlock ss)) js) :
    blockOfTrees (treesOfJsons js) = .ok ss := by
  match ss with
  | [] =>
    obtain rfl : js = [] := h
    rfl
  | s :: rest =>
    obtain ⟨j, js, rfl, hj, hjs⟩ := h
    exact bind_of_ok (ofTree_stmt s hj) (bind_of_ok (blockOfTrees_block rest hjs) rfl)

end

/-! ## Declarations -/

/-- The tree of an item is read back from any document that is the same. -/
def ReadsBack {α : Type} (toTree : α → Tree) (read : Tree → Except Misfit α) : Prop :=
  ∀ (a : α) {j : Json}, (toTree a).toJson.Same j → read (Tree.ofJson j) = .ok a

theorem ReadsBack.list {α : Type} {toTree : α → Tree} {read : Tree → Except Misfit α}
    (h : ReadsBack toTree read) (items : List α) {js : List Json}
    (hs : Json.SameItems (Tree.toJsons (items.map toTree)) js) :
    (treesOfJsons js).mapM read = .ok items := by
  induction items generalizing js with
  | nil =>
    obtain rfl : js = [] := hs
    rfl
  | cons a rest ih =>
    obtain ⟨j, js, rfl, hj, hjs⟩ := hs
    rw [treesOfJsons, List.mapM_cons]
    exact bind_of_ok (h a hj) (bind_of_ok (ih hjs) rfl)

theorem textOfTree_ofJson {s : Option String} {j : Json} (h : (Tree.ofText? s).toJson.Same j) :
    textOfTree (Tree.ofJson j) = s := by
  cases s <;>
  · obtain rfl : j = _ := h
    rfl

theorem readsBack_param : ReadsBack Param.toTree Param.ofTree := by
  rintro ⟨name, typeName⟩ j h
  obtain ⟨_, ⟨_, _, rfl, rfl, j, _, rfl, htype, rfl⟩, hj⟩ :=
    ofJson_node .param [.str name, .ofText? typeName] rfl h
  obtain rfl := textOfTree_ofJson htype
  rw [hj]
  rfl

theorem readsBack_field : ReadsBack Field.toTree Field.ofTree := by
  rintro ⟨name, typeName, default, isMutable, isHidden, isNative⟩ j h
  obtain ⟨_, ⟨_, _, rfl, rfl, j, _, rfl, htype, j', _, rfl, hdefault, _, _, rfl, rfl, _,
    _, rfl, rfl, _, _, rfl, rfl, rfl⟩, hj⟩ :=
    ofJson_node .field [.str name, .ofText? typeName, treeOfOption default, .bool isMutable,
      .bool isHidden, .bool isNative] rfl h
  obtain rfl := textOfTree_ofJson htype
  rw [hj]
  exact bind_of_ok (optionOfTree_ofJson hdefault) rfl

theorem readsBack_method : ReadsBack Method.toTree Method.ofTree := by
  rintro ⟨name, params, body, interface⟩ j h
  obtain ⟨_, ⟨_, _, rfl, rfl, _, _, rfl, ⟨js, rfl, hparams⟩, _, _, rfl,
    ⟨js', rfl, hbody⟩, j, _, rfl, hinterface, rfl⟩, hj⟩ :=
    ofJson_node .method [.str name, .list (params.map Param.toTree), .list (treesOfBlock body),
      .ofText? interface] rfl h
  obtain rfl := textOfTree_ofJson hinterface
  rw [hj]
  exact bind_of_ok (readsBack_param.list params hparams)
    (bind_of_ok (blockOfTrees_block body hbody) rfl)

theorem readsBack_implementation : ReadsBack Implementation.toTree Implementation.ofTree := by
  rintro ⟨interface, methods⟩ j h
  obtain ⟨_, ⟨_, _, rfl, rfl, _, _, rfl, ⟨js, rfl, hmethods⟩, rfl⟩, hj⟩ :=
    ofJson_node .implementation [.str interface, .list (methods.map Method.toTree)] rfl h
  rw [hj]
  exact bind_of_ok (readsBack_method.list methods hmethods) rfl

theorem readsBack_component : ReadsBack Component.toTree Component.ofTree := by
  rintro ⟨name, base, baseCodeName, fields, implementations, constant⟩ j h
  obtain ⟨_, ⟨_, _, rfl, rfl, _, _, rfl, rfl, _, _, rfl, rfl, _, _, rfl,
    ⟨js, rfl, hfields⟩, _, _, rfl, ⟨js', rfl, himplementations⟩, _, _, rfl, rfl, rfl⟩, hj⟩ :=
    ofJson_node .component [.str name, .str base, .str baseCodeName,
      .list (fields.map Field.toTree), .list (implementations.map Implementation.toTree),
      .bool constant] rfl h
  rw [hj]
  exact bind_of_ok (readsBack_field.list fields hfields)
    (bind_of_ok (readsBack_implementation.list implementations himplementations) rfl)

theorem readsBack_function : ReadsBack Function.toTree Function.ofTree := by
  rintro ⟨name, params, body⟩ j h
  obtain ⟨_, ⟨_, _, rfl, rfl, _, _, rfl, ⟨js, rfl, hparams⟩, _, _, rfl, ⟨js', rfl, hbody⟩, rfl⟩,
    hj⟩ :=
    ofJson_node .function [.str name, .list (params.map Param.toTree), .list (treesOfBlock body)]
      rfl h
  rw [hj]
  exact bind_of_ok (readsBack_param.list params hparams)
    (bind_of_ok (blockOfTrees_block body hbody) rfl)

theorem readsBack_global : ReadsBack Global.toTree Global.ofTree := by
  rintro ⟨name, typeName, value⟩ j h
  obtain ⟨_, ⟨_, _, rfl, rfl, j, _, rfl, htype, j', _, rfl, hvalue, rfl⟩, hj⟩ :=
    ofJson_node .global [.str name, .ofText? typeName, treeOfOption value] rfl h
  obtain rfl := textOfTree_ofJson htype
  rw [hj]
  exact bind_of_ok (optionOfTree_ofJson hvalue) rfl

end Ir

/-! ## Modules -/

namespace Export

open Ir

/-- The items of a member, each read. A member that is not there has no items. -/
def readItems {α : Type} (read : Tree → Except Misfit α) (j : Json) (name : String) :
    Except Misfit (List α) :=
  match j.member? name with
  | some (.arr items) => (treesOfJsons items).mapM read
  | _ => .ok []

/-- The values, functions and components in the exported code of a module. -/
def readCode (j : Json) : Except Misfit (List Global × List Function × List Component) := do
  let globals ← readItems Global.ofTree j "globals"
  let functions ← readItems Function.ofTree j "functions"
  let components ← readItems Component.ofTree j "components"
  .ok (globals, functions, components)

theorem toJsons_eq_map (ts : List Tree) : Tree.toJsons ts = ts.map Tree.toJson := by
  induction ts with
  | nil => rfl
  | cons t rest ih => rw [Tree.toJsons, ih, List.map_cons]

/-- **Exported code can be read back**, whatever the order of its members. -/
theorem reads_exported_code (m : Module) {j : Json} (h : (code m).Same j) :
    readCode j = .ok (m.globals, m.functions, m.components) := by
  obtain ⟨members, reordered, rfl, hperm, _, _, rfl, ⟨gs, rfl, hglobals⟩, _, _, rfl,
    ⟨fs, rfl, hfunctions⟩, _, _, rfl, ⟨cs, rfl, hcomponents⟩, rfl⟩ := h
  have hnodup : (members.map Prod.fst).Nodup := by
    rw [← (hperm.map Prod.fst).nodup_iff]
    show ["globals", "functions", "components"].Nodup
    decide
  have hmember {name : String} {items : List Json}
      (hmem : (name, Json.arr items) ∈
        [("globals", Json.arr gs), ("functions", .arr fs), ("components", .arr cs)]) :
      (Json.obj members).member? name = some (.arr items) := by
    simp [Json.member?, find?_key_of_mem hnodup (hperm.mem_iff.mp hmem)]
  have hitems {α : Type} {toTree : α → Tree} {read : Tree → Except Misfit α} {name : String}
      {items : List α} {js : List Json} (hback : ReadsBack toTree read)
      (hsame : Json.SameItems (items.map fun a => (toTree a).toJson) js)
      (hmem : (Json.obj members).member? name = some (.arr js)) :
      readItems read (.obj members) name = .ok items := by
    unfold readItems
    rw [hmem]
    refine hback.list items ?_
    rwa [toJsons_eq_map, List.map_map]
  exact bind_of_ok (hitems readsBack_global hglobals (hmember (by simp)))
    (bind_of_ok (hitems readsBack_function hfunctions (hmember (by simp)))
      (bind_of_ok (hitems readsBack_component hcomponents (hmember (by simp))) rfl))

/-- **Exporting code loses nothing.** Two modules have the same exported code, up to the order of
members, exactly if they have the same values, functions and components. -/
theorem exported_code_lossless (m m' : Module) :
    (code m).Same (code m') ↔
      m.globals = m'.globals ∧ m.functions = m'.functions ∧ m.components = m'.components := by
  constructor
  · intro h
    have heq := (reads_exported_code m h).symm.trans (reads_exported_code m' (Json.same_refl _))
    simpa using heq
  · rintro ⟨hglobals, hfunctions, hcomponents⟩
    unfold code
    rw [hglobals, hfunctions, hcomponents]
    exact Json.same_refl _

end Export

end Componentry
