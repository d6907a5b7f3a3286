import Componentry.Emit.Stmt
import Componentry.Proofs.EmittedTexts

/-!
# Reading blocks by their indentation

The lines of a block show the structure of its statements by their depth alone. `readBlock` goes
through the lines from the last to the first. A line takes the deeper lines right below it as its
block. The first words of a line with a block tell which statement it starts, and `elif` and `else:`
lines are kept until the conditional statement above them is reached. A block that only holds `pass`
is empty.

**Theorem (`lines_show_structure_iff`).** Every line of a block stands on one line, at the depth of
the block or deeper. Reading the lines gives the structure of the statements exactly if no block
consists of a single statement that is written `pass`. There are such statements: names are compared
with reserved words before they are brought into their normal form, so a source may call a parameter
`pass` in other letters.
-/

namespace Componentry.Emit

open Ir

open Text (isSourceBreak)

/-! ## Structure of statements -/

/-- The structure of a statement: a line, a conditional statement or a loop. -/
inductive Shape where
  | line (text : String)
  | choice (test : String) (body orelse : List Shape)
  | loop (header : String) (body : List Shape)

mutual

/-- The structure of a statement, given what becomes of its blocks. -/
def shape (settle : List Shape → List Shape) : Stmt → Shape
  | .assign target value => .line (expr target ++ " = " ++ expr value)
  | .augAssign target op value => .line (expr target ++ " " ++ op ++ "= " ++ expr value)
  | .exprStmt value => .line (expr value)
  | .ifElse condition body orelse =>
    .choice (expr condition) (settle (shapes settle body)) (settle (shapes settle orelse))
  | .whileDo condition body =>
    .loop ("while " ++ expr condition ++ ":") (settle (shapes settle body))
  | .forIn var iterable body =>
    .loop ("for " ++ var ++ " in " ++ expr iterable ++ ":") (settle (shapes settle body))
  | .ret none => .line "return"
  | .ret (some value) => .line ("return " ++ expr value)
  | .brk => .line "break"
  | .cont => .line "continue"

def shapes (settle : List Shape → List Shape) : List Stmt → List Shape
  | [] => []
  | s :: rest => shape settle s :: shapes settle rest

end

/-- The structure of a block as it is. -/
def structureOf (body : List Stmt) : List Shape := shapes id body

/-- The block is a single statement that is written `pass`. -/
def IsLonePass (body : List Stmt) : Prop := structureOf body = [.line "pass"]

instance (body : List Stmt) : Decidable (IsLonePass body) :=
  match h : structureOf body with
  | [.line text] => decidable_of_iff (text = "pass") (by simp [IsLonePass, h])
  | [] | [.choice _ _ _] | [.loop _ _] | _ :: _ :: _ => isFalse (by simp [IsLonePass, h])

mutual

/-- The blocks in a statement. -/
def blocksOf : Stmt → List (List Stmt)
  | .ifElse _ body orelse => body :: blocksIn body ++ orelse :: blocksIn orelse
  | .whileDo _ body => body :: blocksIn body
  | .forIn _ _ body => body :: blocksIn body
  | .assign _ _ | .augAssign _ _ _ | .exprStmt _ | .ret _ | .brk | .cont => []

def blocksIn : List Stmt → List (List Stmt)
  | [] => []
  | s :: rest => blocksOf s ++ blocksIn rest

end

/-- The bodies of a module, with the blocks in them. -/
def blocksOfModule (m : Module) : List (List Stmt) :=
  (m.functions.map Function.body ++
    (m.components.flatMap Component.methods).map Method.body).flatMap fun body =>
      body :: blocksIn body

/-! ## Reading -/

/-- The empty block is written `pass`. -/
def emptied : List Shape → List Shape
  | [.line "pass"] => []
  | body => body

/-- What lines have been read as: a statement, or the other branch of one that stands above. -/
inductive Piece where
  | statement (s : Shape)
  | otherwise (orelse : List Shape)

def Piece.statement? : Piece → Option Shape
  | statement s => some s
  | otherwise _ => none

/-- The number of blanks in front of a line, and the rest of it. -/
def measure (line : String) : Nat × String :=
  ((line.toList.takeWhile (· == ' ')).length, String.ofList (line.toList.dropWhile (· == ' ')))

/-- What stands between a word and the colon of a header. -/
def headAfter? (word text : String) : Option String :=
  if word.toList.isPrefixOf text.toList then
    some (String.ofList (text.toList.drop word.toList.length).dropLast)
  else none

/-- The block of pieces. -/
def blockOf (pieces : List (Nat × Piece)) : List Shape :=
  emptied (pieces.filterMap fun p => p.2.statement?)

/-- The other branch that waits at a depth, and the pieces behind it. -/
def takeOther (depth : Nat) : List (Nat × Piece) → List Shape × List (Nat × Piece)
  | (d, .otherwise orelse) :: rest =>
    if d = depth then (orelse, rest) else ([], (d, .otherwise orelse) :: rest)
  | rest => ([], rest)

/-- What a header with its block is read as. -/
def readHeader (depth : Nat) (text : String) (body : List Shape) (rest : List (Nat × Piece)) :
    List (Nat × Piece) :=
  let (orelse, others) := takeOther depth rest
  if text = "else:" then (depth, .otherwise body) :: rest
  else
    match headAfter? "elif " text, headAfter? "if " text with
    | some test, _ => (depth, .otherwise [.choice test body orelse]) :: others
    | none, some test => (depth, .statement (.choice test body orelse)) :: others
    | none, none => (depth, .statement (.loop text body)) :: rest

/-- Adds a line on top of the pieces that the lines below it are read as. -/
def readLine (line : String) (below : List (Nat × Piece)) : List (Nat × Piece) :=
  let (depth, text) := measure line
  let inner := below.takeWhile (depth < ·.1)
  let rest := below.dropWhile (depth < ·.1)
  if inner.isEmpty then (depth, .statement (.line text)) :: rest
  else readHeader depth text (blockOf inner) rest

/-- The structure that the lines of a block show. -/
def readBlock (lines : List String) : List Shape := blockOf (lines.foldr readLine [])

/-! ## Measuring lines -/

theorem toList_pad (k : Nat) : (pad k).toList = List.replicate (4 * k) ' ' := by
  induction k with
  | zero => rfl
  | succ k ih =>
    have hunit : indentUnit.toList = List.replicate 4 ' ' := by decide
    rw [pad, String.toList_append, ih, hunit, List.replicate_append_replicate]
    congr 1
    omega

theorem measure_pad (k : Nat) {text : String} (h : isDark text = true) :
    measure (pad k ++ text) = (4 * k, text) := by
  have hblanks : ∀ c ∈ List.replicate (4 * k) ' ', (c == ' ') = true := by
    intro c hc
    rw [List.eq_of_mem_replicate hc]
    rfl
  unfold measure
  rw [String.toList_append, toList_pad, List.takeWhile_append_of_pos hblanks,
    List.dropWhile_append_of_pos hblanks]
  cases htext : text.toList with
  | nil => simp [isDark, htext] at h
  | cons c cs =>
    have hc : (c == ' ') = false := by simpa [isDark, htext] using h
    rw [List.takeWhile_cons_of_neg (by simp [hc]), List.dropWhile_cons_of_neg (by simp [hc]),
      List.append_nil, List.length_replicate, ← htext, String.ofList_toList]

/-- The line stands at a depth or deeper, and on one line. -/
structure IsLine (k : Nat) (line : String) : Prop where
  oneLine : OneLine line
  deep : (pad k).toList <+: line.toList

theorem isLine_pad {j k : Nat} (hk : k ≤ j) {text : String} (h : OneLine text) :
    IsLine k (pad j ++ text) := by
  refine ⟨OneLine.append (fun c hc => ?_) h, ?_⟩
  · rw [toList_pad] at hc
    rw [List.eq_of_mem_replicate hc]
    rfl
  · rw [String.toList_append, toList_pad, toList_pad]
    refine List.IsPrefix.trans ⟨List.replicate (4 * j - 4 * k) ' ', ?_⟩ (List.prefix_append _ _)
    rw [List.replicate_append_replicate]
    congr 1
    omega

/-! ## Reading lines -/

/-- Statements at a depth. -/
def placed (k : Nat) (ss : List Shape) : List (Nat × Piece) :=
  ss.map fun s => (4 * k, .statement s)

/-- Nothing among the pieces continues a statement at a depth. -/
def Ends (k : Nat) (below : List (Nat × Piece)) : Prop :=
  ∀ p ∈ below.head?, p.1 < 4 * k ∨ p.1 = 4 * k ∧ p.2.statement?.isSome = true

theorem blockOf_placed (k : Nat) (ss : List Shape) : blockOf (placed k ss) = emptied ss := by
  unfold blockOf placed
  rw [List.filterMap_map]
  congr 1
  exact List.filterMap_some

theorem takeWhile_of_head {d : Nat} {below : List (Nat × Piece)}
    (h : ∀ p ∈ below.head?, p.1 ≤ d) :
    below.takeWhile (d < ·.1) = [] ∧ below.dropWhile (d < ·.1) = below := by
  cases below with
  | nil => exact ⟨rfl, rfl⟩
  | cons p rest =>
    have hp : ¬ d < p.1 := Nat.not_lt.mpr (h p rfl)
    simp [hp]

theorem readLine_simple {k : Nat} {text : String} {below : List (Nat × Piece)}
    (hdark : isDark text = true) (hbelow : ∀ p ∈ below.head?, p.1 ≤ 4 * k) :
    readLine (pad k ++ text) below = (4 * k, .statement (.line text)) :: below := by
  obtain ⟨htake, hdrop⟩ := takeWhile_of_head hbelow
  simp only [readLine, measure_pad k hdark, htake, hdrop, List.isEmpty_nil, if_true]

/-- A line takes the deeper lines below it as its block. -/
theorem readLine_header {k : Nat} {text : String} {ss : List Shape} {below : List (Nat × Piece)}
    (hdark : isDark text = true) (hss : ss ≠ []) (hbelow : ∀ p ∈ below.head?, p.1 ≤ 4 * k) :
    readLine (pad k ++ text) (placed (k + 1) ss ++ below) =
      readHeader (4 * k) text (emptied ss) below := by
  obtain ⟨htake, hdrop⟩ := takeWhile_of_head hbelow
  have hdeeper : ∀ p ∈ placed (k + 1) ss, decide (4 * k < p.1) = true := by
    intro p hp
    obtain ⟨s, -, rfl⟩ := List.mem_map.mp hp
    exact decide_eq_true (by simp only; omega)
  have hne : placed (k + 1) ss ≠ [] := by simpa [placed] using hss
  simp only [readLine, measure_pad k hdark, List.takeWhile_append_of_pos hdeeper,
    List.dropWhile_append_of_pos hdeeper, htake, hdrop, List.append_nil, List.isEmpty_iff, hne,
    if_false, blockOf_placed]

/-! ### Headers -/

theorem headAfter?_self (word test : String) :
    headAfter? word (word ++ test ++ ":") = some test := by
  have hlist : (word ++ test ++ ":").toList = word.toList ++ (test.toList ++ [':']) := by
    simp [List.append_assoc]
  unfold headAfter?
  rw [hlist, List.drop_left, List.dropLast_concat, String.ofList_toList, if_pos]
  exact List.isPrefixOf_iff_prefix.mpr (List.prefix_append _ _)

theorem headAfter?_other {word word' : String} (rest : String)
    (h : ∀ cs : List Char, word.toList.isPrefixOf (word'.toList ++ cs) = false) :
    headAfter? word (word' ++ rest) = none := by
  unfold headAfter?
  rw [String.toList_append, h, if_neg Bool.false_ne_true]

theorem header_ne_else {word : String} (rest : String)
    (h : ∀ cs : List Char, word.toList ++ cs ≠ "else:".toList) : word ++ rest ≠ "else:" := by
  intro heq
  exact h rest.toList (by rw [← heq, String.toList_append])

section Headers

variable (depth : Nat) (test : String) (body : List Shape) (rest : List (Nat × Piece))

theorem readHeader_if : readHeader depth ("if " ++ test ++ ":") body rest =
    (depth, .statement (.choice test body (takeOther depth rest).1)) ::
      (takeOther depth rest).2 := by
  have helse : "if " ++ test ++ ":" ≠ "else:" := by
    rw [String.append_assoc]
    exact header_ne_else _ (by simp)
  have helif : headAfter? "elif " ("if " ++ test ++ ":") = none := by
    rw [String.append_assoc]
    exact headAfter?_other _ (by simp [List.isPrefixOf])
  simp only [readHeader, helse, if_false, helif, headAfter?_self]

theorem readHeader_elif : readHeader depth ("elif " ++ test ++ ":") body rest =
    (depth, .otherwise [.choice test body (takeOther depth rest).1]) ::
      (takeOther depth rest).2 := by
  have helse : "elif " ++ test ++ ":" ≠ "else:" := by
    rw [String.append_assoc]
    exact header_ne_else _ (by simp)
  simp only [readHeader, helse, if_false, headAfter?_self]

theorem readHeader_else :
    readHeader depth "else:" body rest = (depth, .otherwise body) :: rest := by
  simp [readHeader]

theorem readHeader_loop {word : String} (text : String)
    (helse : ∀ cs : List Char, word.toList ++ cs ≠ "else:".toList)
    (helif : ∀ cs : List Char, "elif ".toList.isPrefixOf (word.toList ++ cs) = false)
    (hif : ∀ cs : List Char, "if ".toList.isPrefixOf (word.toList ++ cs) = false) :
    readHeader depth (word ++ text) body rest =
      (depth, .statement (.loop (word ++ text) body)) :: rest := by
  simp only [readHeader, header_ne_else text helse, if_false, headAfter?_other text helif,
    headAfter?_other text hif]

end Headers

/-! ### Statements -/

/-- The other branch of a statement at a depth, while it waits. -/
def waiting (k : Nat) : List Stmt → List (Nat × Piece)
  | [] => []
  | orelse => [(4 * k, .otherwise (emptied (shapes emptied orelse)))]

theorem head_waiting {k : Nat} {below : List (Nat × Piece)} (h : Ends k below)
    (orelse : List Stmt) : ∀ p ∈ (waiting k orelse ++ below).head?, p.1 ≤ 4 * k := by
  cases orelse with
  | nil =>
    intro p hp
    rcases h p hp with hlt | ⟨heq, -⟩
    · exact hlt.le
    · exact heq.le
  | cons s rest =>
    rintro p ⟨⟩
    exact le_refl _

theorem takeOther_waiting {k : Nat} {below : List (Nat × Piece)} (h : Ends k below)
    (orelse : List Stmt) :
    takeOther (4 * k) (waiting k orelse ++ below) = (emptied (shapes emptied orelse), below) := by
  cases orelse with
  | nil =>
    -- a piece at the same depth is a statement, so it is not taken
    show takeOther (4 * k) below = ([], below)
    unfold takeOther
    split
    · next d o rest =>
      rw [if_neg]
      rintro rfl
      rcases h _ rfl with hlt | ⟨-, hsome⟩
      · exact Nat.lt_irrefl _ hlt
      · cases hsome
    · rfl
  | cons s rest => simp [waiting, takeOther]

/-- Lines of statements are read as statements. -/
def ReadsAs (k : Nat) (lines : List String) (ss : List Shape) : Prop :=
  ∀ below, Ends k below → lines.foldr readLine below = placed k ss ++ below

theorem readsAs_simple {k : Nat} {text : String} (hdark : isDark text = true) :
    ReadsAs k [pad k ++ text] [.line text] := by
  intro below h
  refine readLine_simple hdark fun p hp => ?_
  rcases h p hp with hlt | ⟨heq, -⟩
  · exact hlt.le
  · exact heq.le

theorem ends_deeper {k : Nat} {below : List (Nat × Piece)} (h : ∀ p ∈ below.head?, p.1 ≤ 4 * k) :
    Ends (k + 1) below := fun p hp => .inl (by have := h p hp; omega)

theorem stmt_ne_nil (k : Nat) (s : Stmt) : stmt k s ≠ [] := by
  cases s with
  | ret value => cases value <;> simp [stmt]
  | _ => simp [stmt]

/-- A header reads the lines of its block and leaves what is below. -/
theorem foldr_header {k : Nat} {text : String} {body : List Stmt} {below : List (Nat × Piece)}
    (hdark : isDark text = true) (hbelow : ∀ p ∈ below.head?, p.1 ≤ 4 * k)
    (hbody : ReadsAs (k + 1) (stmts (k + 1) body) (shapes emptied body)) :
    ((pad k ++ text) :: orPass (k + 1) (stmts (k + 1) body)).foldr readLine below =
      readHeader (4 * k) text (emptied (shapes emptied body)) below := by
  have hends := ends_deeper hbelow
  rw [List.foldr_cons]
  unfold orPass
  cases body with
  | nil =>
    have hpass := readsAs_simple (k := k + 1) (by decide : isDark "pass" = true) below hends
    rw [stmts, List.isEmpty_nil, if_pos rfl, hpass]
    exact readLine_header hdark (List.cons_ne_nil _ _) hbelow
  | cons s rest =>
    have hlines : (stmts (k + 1) (s :: rest)).isEmpty = false := by
      simp [stmts, stmt_ne_nil]
    rw [hlines, if_neg Bool.false_ne_true, hbody below hends]
    exact readLine_header hdark (by simp [shapes]) hbelow

/-- The lines of the other branch are read as a piece that waits. -/
def ReadsOther (k : Nat) (orelse : List Stmt) : Prop :=
  ∀ below, Ends k below → (otherwise k orelse).foldr readLine below = waiting k orelse ++ below

theorem pad_header (k : Nat) (word text colon : String) :
    pad k ++ word ++ text ++ colon = pad k ++ (word ++ text ++ colon) := by
  simp only [String.append_assoc]

theorem readsAs_ifElse {k : Nat} {condition : Expr} {body orelse : List Stmt}
    (hbody : ReadsAs (k + 1) (stmts (k + 1) body) (shapes emptied body))
    (horelse : ReadsOther k orelse) :
    ReadsAs k (stmt k (.ifElse condition body orelse))
      [shape emptied (.ifElse condition body orelse)] := by
  intro below h
  have hdark : isDark ("if " ++ expr condition ++ ":") = true :=
    isDark_append (isDark_append (by decide) _) _
  have hheader := foldr_header hdark (head_waiting h orelse) hbody
  rw [stmt, pad_header, List.foldr_append, horelse below h, hheader, readHeader_if,
    takeOther_waiting h]
  rfl

theorem readsOther_elif {k : Nat} {condition : Expr} {body orelse : List Stmt}
    (hbody : ReadsAs (k + 1) (stmts (k + 1) body) (shapes emptied body))
    (horelse : ReadsOther k orelse) : ReadsOther k [.ifElse condition body orelse] := by
  intro below h
  have hdark : isDark ("elif " ++ expr condition ++ ":") = true :=
    isDark_append (isDark_append (by decide) _) _
  have hheader := foldr_header hdark (head_waiting h orelse) hbody
  rw [otherwise, pad_header, List.foldr_append, horelse below h, hheader, readHeader_elif,
    takeOther_waiting h]
  rfl

/-- Statements that do not continue a conditional statement stand behind `else:`. -/
theorem readsOther_else {k : Nat} {s : Stmt} {rest : List Stmt}
    (hlines : otherwise k (s :: rest) =
      (pad k ++ "else:") :: (stmt (k + 1) s ++ stmts (k + 1) rest))
    (hbody : ReadsAs (k + 1) (stmts (k + 1) (s :: rest)) (shapes emptied (s :: rest))) :
    ReadsOther k (s :: rest) := by
  intro below h
  have hbelow : ∀ p ∈ below.head?, p.1 ≤ 4 * k := head_waiting h []
  rw [hlines, List.foldr_cons]
  have hfold := hbody below (ends_deeper hbelow)
  rw [stmts] at hfold
  rw [hfold, readLine_header (by decide) (by simp [shapes]) hbelow, readHeader_else]
  rfl

theorem readsAs_loop {k : Nat} {word : String} (text : String) {body : List Stmt}
    (hword : isDark word = true) (helse : ∀ cs : List Char, word.toList ++ cs ≠ "else:".toList)
    (helif : ∀ cs : List Char, "elif ".toList.isPrefixOf (word.toList ++ cs) = false)
    (hif : ∀ cs : List Char, "if ".toList.isPrefixOf (word.toList ++ cs) = false)
    (hbody : ReadsAs (k + 1) (stmts (k + 1) body) (shapes emptied body)) :
    ReadsAs k ((pad k ++ (word ++ text)) :: orPass (k + 1) (stmts (k + 1) body))
      [.loop (word ++ text) (emptied (shapes emptied body))] := by
  intro below h
  have hbelow : ∀ p ∈ below.head?, p.1 ≤ 4 * k := head_waiting h []
  rw [foldr_header (isDark_append hword text) hbelow hbody, readHeader_loop _ _ _ _ helse helif hif]
  rfl

theorem readsAs_append {k : Nat} {lines lines' : List String} {s : Shape} {ss : List Shape}
    (h : ReadsAs k lines [s]) (h' : ReadsAs k lines' ss) :
    ReadsAs k (lines ++ lines') (s :: ss) := by
  intro below hbelow
  have hends : Ends k (placed k ss ++ below) := by
    cases ss with
    | nil => exact hbelow
    | cons s ss =>
      rintro p ⟨⟩
      exact .inr ⟨rfl, rfl⟩
  rw [List.foldr_append, h' below hbelow, h _ hends]
  rfl

mutual

/-- **The lines of a statement are read as the statement.** -/
theorem readsAs_stmt : ∀ (s : Stmt) (k : Nat), s.Spelled → ReadsAs k (stmt k s) [shape emptied s]
  | .assign target value, k, h => by
    have hdark := isDark_append (isDark_append (isDark_expr _ h.1) " = ") (expr value)
    have hline := readsAs_simple (k := k) hdark
    rwa [← String.append_assoc, ← String.append_assoc] at hline
  | .augAssign target op value, k, h => by
    have hdark := isDark_append
      (isDark_append (isDark_append (isDark_append (isDark_expr _ h.2.1) " ") op) "= ") (expr value)
    have hline := readsAs_simple (k := k) hdark
    rwa [← String.append_assoc, ← String.append_assoc, ← String.append_assoc,
      ← String.append_assoc] at hline
  | .exprStmt value, k, h => readsAs_simple (isDark_expr _ h)
  | .ifElse condition body orelse, k, h =>
    readsAs_ifElse (readsAs_stmts body (k + 1) h.2.1) (readsOther_orelse orelse k h.2.2)
  | .whileDo condition body, k, h => by
    have hloop := readsAs_loop (k := k) (expr condition ++ ":")
      (by decide : isDark "while " = true) (by simp) (by simp [List.isPrefixOf])
      (by simp [List.isPrefixOf]) (readsAs_stmts body (k + 1) h.2)
    rwa [← String.append_assoc, ← String.append_assoc] at hloop
  | .forIn var iterable body, k, h => by
    have hloop := readsAs_loop (k := k) (var ++ " in " ++ expr iterable ++ ":")
      (by decide : isDark "for " = true) (by simp) (by simp [List.isPrefixOf])
      (by simp [List.isPrefixOf]) (readsAs_stmts body (k + 1) h.2.2)
    simpa only [stmt, shape, String.append_assoc] using hloop
  | .ret none, k, _ => readsAs_simple (by decide)
  | .ret (some value), k, _ => by
    have hline := readsAs_simple (k := k) (isDark_append (by decide : isDark "return " = true)
      (expr value))
    rwa [← String.append_assoc] at hline
  | .brk, k, _ => readsAs_simple (by decide)
  | .cont, k, _ => readsAs_simple (by decide)

theorem readsAs_stmts : ∀ (ss : List Stmt) (k : Nat), BlockSpelled ss →
    ReadsAs k (stmts k ss) (shapes emptied ss)
  | [], _, _ => fun _ _ => rfl
  | s :: rest, k, h => readsAs_append (readsAs_stmt s k h.1) (readsAs_stmts rest k h.2)

theorem readsOther_orelse : ∀ (orelse : List Stmt) (k : Nat), BlockSpelled orelse →
    ReadsOther k orelse
  | [], _, _ => fun _ _ => rfl
  | [s], k, h => by
    have hbody := readsAs_stmts [s] (k + 1) h
    cases s with
    | ifElse c body orelse =>
      exact readsOther_elif (readsAs_stmts body (k + 1) h.1.2.1)
        (readsOther_orelse orelse k h.1.2.2)
    | _ => exact readsOther_else rfl hbody
  | s :: t :: rest, k, h =>
    readsOther_else (by cases s <;> rfl)
      (readsAs_append (readsAs_stmt s (k + 1) h.1) (readsAs_stmts (t :: rest) (k + 1) h.2))

end

/-- The lines of a block are read as the structure of its statements, where blocks that only hold
`pass` are empty. -/
theorem readBlock_block {body : List Stmt} (h : BlockSpelled body) (k : Nat) :
    readBlock (block k body) = emptied (shapes emptied body) := by
  have hends : Ends k [] := by simp [Ends]
  unfold readBlock block orPass
  cases body with
  | nil =>
    have hpass := readsAs_simple (k := k) (by decide : isDark "pass" = true) [] hends
    rw [stmts, List.isEmpty_nil, if_pos rfl, hpass, List.append_nil, blockOf_placed]
    rfl
  | cons s rest =>
    have hlines : (stmts k (s :: rest)).isEmpty = false := by simp [stmts, stmt_ne_nil]
    rw [hlines, if_neg Bool.false_ne_true, readsAs_stmts _ k h [] hends, List.append_nil,
      blockOf_placed]

/-! ### Depth of lines -/

theorem isLine_orPass {j k : Nat} (hk : k ≤ j) {lines : List String}
    (h : ∀ line ∈ lines, IsLine k line) : ∀ line ∈ orPass j lines, IsLine k line := by
  unfold orPass
  split
  · exact List.forall_mem_singleton.mpr (isLine_pad hk (by decide))
  · exact h

theorem isLine_header {j k : Nat} (hk : k ≤ j) {word text : String} (hword : OneLine word)
    (htext : OneLine text) {body : List Stmt} (h : ∀ line ∈ stmts (j + 1) body, IsLine k line) :
    ∀ line ∈ (pad j ++ word ++ text ++ ":") :: orPass (j + 1) (stmts (j + 1) body),
      IsLine k line := by
  rw [pad_header]
  exact List.forall_mem_cons.mpr
    ⟨isLine_pad hk ((hword.append htext).append (by decide)), isLine_orPass (by omega) h⟩

mutual

/-- Every line of a statement stands on one line, at the depth of the statement or deeper. -/
theorem isLine_stmt {k : Nat} : ∀ (s : Stmt) (j : Nat), k ≤ j → s.Spelled →
    ∀ line ∈ stmt j s, IsLine k line
  | .assign target value, j, hk, h => by
    have htext := ((oneLine_expr target h.1).append (by decide : OneLine " = ")).append
      (oneLine_expr value h.2)
    simpa only [stmt, String.append_assoc, List.forall_mem_singleton] using isLine_pad hk htext
  | .augAssign target op value, j, hk, h => by
    obtain ⟨⟨o, ho⟩, htarget, hvalue⟩ := h
    have hop : OneLine op := oneLine_operator (o := .arithmetic o) ho
    have htext := ((((oneLine_expr target htarget).append (by decide : OneLine " ")).append
      hop).append (by decide : OneLine "= ")).append (oneLine_expr value hvalue)
    simpa only [stmt, String.append_assoc, List.forall_mem_singleton] using isLine_pad hk htext
  | .exprStmt value, j, hk, h =>
    List.forall_mem_singleton.mpr (isLine_pad hk (oneLine_expr value h))
  | .ifElse condition body orelse, j, hk, h =>
    List.forall_mem_append.mpr
      ⟨isLine_header hk (by decide) (oneLine_expr condition h.1)
        (isLine_stmts body (j + 1) (by omega) h.2.1), isLine_otherwise orelse j hk h.2.2⟩
  | .whileDo condition body, j, hk, h =>
    isLine_header hk (by decide) (oneLine_expr condition h.1)
      (isLine_stmts body (j + 1) (by omega) h.2)
  | .forIn var iterable body, j, hk, h => by
    have htext := ((oneLine_word h.1).append (by decide : OneLine " in ")).append
      (oneLine_expr iterable h.2.1)
    simpa only [stmt, String.append_assoc] using isLine_header hk (by decide : OneLine "for ") htext
      (isLine_stmts body (j + 1) (by omega) h.2.2)
  | .ret none, j, hk, _ => List.forall_mem_singleton.mpr (isLine_pad hk (by decide))
  | .ret (some value), j, hk, h => by
    have htext := (by decide : OneLine "return ").append (oneLine_expr value (h value rfl))
    simpa only [stmt, String.append_assoc, List.forall_mem_singleton] using isLine_pad hk htext
  | .brk, j, hk, _ => List.forall_mem_singleton.mpr (isLine_pad hk (by decide))
  | .cont, j, hk, _ => List.forall_mem_singleton.mpr (isLine_pad hk (by decide))

theorem isLine_stmts {k : Nat} : ∀ (ss : List Stmt) (j : Nat), k ≤ j → BlockSpelled ss →
    ∀ line ∈ stmts j ss, IsLine k line
  | [], _, _, _ => List.forall_mem_nil _
  | s :: rest, j, hk, h =>
    List.forall_mem_append.mpr ⟨isLine_stmt s j hk h.1, isLine_stmts rest j hk h.2⟩

theorem isLine_otherwise {k : Nat} : ∀ (orelse : List Stmt) (j : Nat), k ≤ j → BlockSpelled orelse →
    ∀ line ∈ otherwise j orelse, IsLine k line
  | [], _, _, _ => List.forall_mem_nil _
  | s :: rest, j, hk, h => by
    have helse : ∀ line ∈ (pad j ++ "else:") :: (stmt (j + 1) s ++ stmts (j + 1) rest),
        IsLine k line :=
      List.forall_mem_cons.mpr ⟨isLine_pad hk (by decide), List.forall_mem_append.mpr
        ⟨isLine_stmt s (j + 1) (by omega) h.1, isLine_stmts rest (j + 1) (by omega) h.2⟩⟩
    cases rest with
    | cons t rest =>
      cases s <;> exact helse
    | nil =>
      cases s with
      | ifElse condition body orelse =>
        exact List.forall_mem_append.mpr
          ⟨isLine_header hk (by decide) (oneLine_expr condition h.1.1)
            (isLine_stmts body (j + 1) (by omega) h.1.2.1), isLine_otherwise orelse j hk h.1.2.2⟩
      | _ => exact helse

end

theorem isLine_block {body : List Stmt} (h : BlockSpelled body) (k : Nat) :
    ∀ line ∈ block k body, IsLine k line :=
  isLine_orPass (le_refl k) (isLine_stmts body k (le_refl k) h)

/-! ## Blocks that look empty -/

/-- A block is `pass` alone however its inner blocks are settled. -/
theorem shapes_eq_pass (settle : List Shape → List Shape) (body : List Stmt) :
    shapes settle body = [.line "pass"] ↔ IsLonePass body := by
  unfold IsLonePass structureOf
  cases body with
  | nil => simp [shapes]
  | cons s rest =>
    cases rest with
    | nil =>
      cases s with
      | ret value => cases value <;> simp [shapes, shape]
      | _ => simp [shapes, shape]
    | cons t rest => simp [shapes]

theorem emptied_eq_self {body : List Shape} : emptied body = body ↔ body ≠ [.line "pass"] := by
  unfold emptied
  split
  · simp
  · next h => simpa using h

theorem emptied_eq_iff (body : List Stmt)
    (h : shapes emptied body = structureOf body ↔ ∀ b ∈ blocksIn body, ¬ IsLonePass b) :
    emptied (shapes emptied body) = structureOf body ↔
      ∀ b ∈ body :: blocksIn body, ¬ IsLonePass b := by
  rw [List.forall_mem_cons]
  by_cases hpass : IsLonePass body
  · have hshapes := (shapes_eq_pass emptied body).mpr hpass
    have hid : structureOf body = [.line "pass"] := hpass
    simp [hshapes, hid, emptied, hpass]
  · have hne : shapes emptied body ≠ [.line "pass"] := by rwa [Ne, shapes_eq_pass]
    rw [emptied_eq_self.mpr hne, h]
    simp [hpass]

mutual

theorem shape_eq_iff : ∀ s : Stmt,
    shape emptied s = shape id s ↔ ∀ b ∈ blocksOf s, ¬ IsLonePass b
  | .ifElse condition body orelse => by
    have hbody := emptied_eq_iff body (shapes_eq_iff body)
    have horelse := emptied_eq_iff orelse (shapes_eq_iff orelse)
    unfold structureOf at hbody horelse
    rw [blocksOf, List.forall_mem_append, ← hbody, ← horelse]
    simp [shape]
  | .whileDo condition body => by
    have hbody := emptied_eq_iff body (shapes_eq_iff body)
    unfold structureOf at hbody
    rw [blocksOf, ← hbody]
    simp [shape]
  | .forIn var iterable body => by
    have hbody := emptied_eq_iff body (shapes_eq_iff body)
    unfold structureOf at hbody
    rw [blocksOf, ← hbody]
    simp [shape]
  | .assign _ _ | .augAssign _ _ _ | .exprStmt _ | .ret none | .ret (some _) | .brk | .cont => by
    simp [shape, blocksOf]

theorem shapes_eq_iff : ∀ body : List Stmt,
    shapes emptied body = structureOf body ↔ ∀ b ∈ blocksIn body, ¬ IsLonePass b
  | [] => by simp [shapes, structureOf, blocksIn]
  | s :: rest => by
    have hrest := shapes_eq_iff rest
    unfold structureOf at hrest ⊢
    rw [shapes, shapes, List.cons.injEq, shape_eq_iff s, hrest, blocksIn, List.forall_mem_append]

end

/-! ## Blocks of a module -/

mutual

theorem blockSpelled_of_mem_blocksOf : ∀ s : Stmt, s.Spelled → ∀ b ∈ blocksOf s, BlockSpelled b
  | .ifElse _ body orelse, h =>
    List.forall_mem_append.mpr
      ⟨List.forall_mem_cons.mpr ⟨h.2.1, blockSpelled_of_mem_blocksIn body h.2.1⟩,
        List.forall_mem_cons.mpr ⟨h.2.2, blockSpelled_of_mem_blocksIn orelse h.2.2⟩⟩
  | .whileDo _ body, h => List.forall_mem_cons.mpr ⟨h.2, blockSpelled_of_mem_blocksIn body h.2⟩
  | .forIn _ _ body, h => List.forall_mem_cons.mpr ⟨h.2.2, blockSpelled_of_mem_blocksIn body h.2.2⟩
  | .assign _ _, _ | .augAssign _ _ _, _ | .exprStmt _, _ | .ret _, _ | .brk, _ | .cont, _ =>
    List.forall_mem_nil _

theorem blockSpelled_of_mem_blocksIn : ∀ body : List Stmt, BlockSpelled body →
    ∀ b ∈ blocksIn body, BlockSpelled b
  | [], _ => List.forall_mem_nil _
  | s :: rest, h => List.forall_mem_append.mpr
      ⟨blockSpelled_of_mem_blocksOf s h.1, blockSpelled_of_mem_blocksIn rest h.2⟩

end

theorem blockSpelled_of_mem_blocksOfModule {m : Module} (h : m.Spelled) {b : List Stmt}
    (hb : b ∈ blocksOfModule m) : BlockSpelled b := by
  obtain ⟨body, hbody, hmem⟩ := List.mem_flatMap.mp hb
  have hspelled : BlockSpelled body := by
    rcases List.mem_append.mp hbody with hfunction | hmethod
    · obtain ⟨f, hf, rfl⟩ := List.mem_map.mp hfunction
      exact (h.functions f hf).body
    · obtain ⟨method, hdefined, rfl⟩ := List.mem_map.mp hmethod
      obtain ⟨c, hc, hmem⟩ := List.mem_flatMap.mp hdefined
      exact ((h.components c hc).bodies method hmem).2.body
  rcases List.mem_cons.mp hmem with rfl | hinner
  · exact hspelled
  · exact blockSpelled_of_mem_blocksIn body hspelled b hinner

/-- **Lines show the structure of blocks.** Every line of a compiled block stands on one line at the
depth of the block or deeper. The lines are read as the block exactly if neither it nor a block in
it is a single statement that is written `pass`. -/
theorem lines_show_structure_iff {known : Messages} {policy : DuplicatePolicy}
    {sourcePath moduleName : Option String} {text : String} {m : Module}
    (h : (compile known policy sourcePath moduleName text).result = .ok m) {body : List Stmt}
    (hbody : body ∈ blocksOfModule m) (k : Nat) :
    (∀ line ∈ block k body, IsLine k line) ∧
      (readBlock (block k body) = structureOf body ↔
        ∀ b ∈ body :: blocksIn body, ¬ IsLonePass b) := by
  have hspelled := blockSpelled_of_mem_blocksOfModule (spelled_of_compile h) hbody
  refine ⟨isLine_block hspelled k, ?_⟩
  rw [readBlock_block hspelled k]
  exact emptied_eq_iff body (shapes_eq_iff body)

/-- A function whose conditional statements and loops are nested, with a block that is empty. -/
def ladder : String :=
  "def rank(n: int):\n" ++
  "    for i in range(n):\n" ++
  "        if n < 3:\n" ++
  "            pass\n" ++
  "        elif n < 9:\n" ++
  "            n = n + 1\n" ++
  "        else:\n" ++
  "            if n:\n" ++
  "                print(n)\n" ++
  "            return 2\n" ++
  "    return 1\n"

theorem ladder_shows_structure :
    ∃ m, (compile .standard .keepLast none none ladder).result = .ok m ∧
    ∃ f ∈ m.functions, (blocksIn f.body).length = 7 ∧
      readBlock (block 1 f.body) = structureOf f.body := by
  obtain ⟨m, h, f, hf, hlength, hpass⟩ :
      ∃ m, (compile .standard .keepLast none none ladder).result = .ok m ∧
        ∃ f ∈ m.functions, (blocksIn f.body).length = 7 ∧
          ∀ b ∈ f.body :: blocksIn f.body, ¬ IsLonePass b :=
    exists_ok (by decide +kernel)
  have hbody : f.body ∈ blocksOfModule m := List.mem_flatMap.mpr
    ⟨f.body, List.mem_append_left _ (List.mem_map_of_mem hf), List.mem_cons_self⟩
  exact ⟨m, h, f, hf, hlength, (lines_show_structure_iff h hbody 1).2.mpr hpass⟩

/-- A function whose only statement is written `pass`. -/
def disguisedPass : String := "def f(𝐩𝐚𝐬𝐬: int):\n    cast(int, 𝐩𝐚𝐬𝐬)\n"

theorem disguisedPass_looks_empty :
    ∃ m, (compile .standard .keepLast none none disguisedPass).result = .ok m ∧
      ∃ f ∈ m.functions, structureOf f.body = [.line "pass"] ∧ readBlock (block 1 f.body) = [] := by
  obtain ⟨m, h, f, hf, hpass, hempty⟩ :
      ∃ m, (compile .standard .keepLast none none disguisedPass).result = .ok m ∧
        ∃ f ∈ m.functions, IsLonePass f.body ∧ (readBlock (block 1 f.body)).isEmpty = true :=
    exists_ok (by decide +kernel)
  exact ⟨m, h, f, hf, hpass, List.isEmpty_iff.mp hempty⟩

end Componentry.Emit
