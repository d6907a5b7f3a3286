import Componentry.Json.Reader
import Mathlib.Data.List.Perm.Basic

/-!
# Trees of a text

Two JSON trees are the `Same` if they differ only in the order of the members of objects, at any
depth. Writing orders members by name, so a tree that was written and read again is the same tree in
this sense and no other.

A text `Spells` a tree if reading it, with any builder, comes to the same as building from a tree
that is the same. Here `build` is reading without a text: it hands the values of a tree to a
builder, inside out and from left to right.
-/

namespace Componentry.Json

/-! ## Trees up to the order of members -/

mutual

/-- The trees differ in the order of members only. -/
def Same : Json → Json → Prop
  | .null, k => k = .null
  | .bool b, k => k = .bool b
  | .int n, k => k = .int n
  | .float x, k => k = .float x
  | .str s, k => k = .str s
  | .arr items, k => ∃ items', k = .arr items' ∧ SameItems items items'
  | .obj members, k =>
    ∃ members' reordered, k = .obj members' ∧ reordered.Perm members' ∧
      SameMembers members reordered

def SameItems : List Json → List Json → Prop
  | [], ks => ks = []
  | j :: js, ks => ∃ k rest, ks = k :: rest ∧ Same j k ∧ SameItems js rest

def SameMembers : List (String × Json) → List (String × Json) → Prop
  | [], ks => ks = []
  | (name, j) :: js, ks => ∃ k rest, ks = (name, k) :: rest ∧ Same j k ∧ SameMembers js rest

end

/-! ## Building from a tree -/

section

variable {ε α : Type}

mutual

/-- What a builder makes of a tree. -/
def build (b : Builder ε α) : Json → Except ε α
  | .null => .ok b.null
  | .bool v => .ok (b.bool v)
  | .int n => .ok (b.int n)
  | .float x => .ok (b.float x)
  | .str s => .ok (b.str s)
  | .arr items => do
    let items ← buildItems b items
    .ok (b.arr items)
  | .obj members => do
    let members ← buildMembers b members
    b.obj members

def buildItems (b : Builder ε α) : List Json → Except ε (List α)
  | [] => .ok []
  | j :: rest => do
    let v ← build b j
    let vs ← buildItems b rest
    .ok (v :: vs)

def buildMembers (b : Builder ε α) : List (String × Json) → Except ε (List (String × α))
  | [] => .ok []
  | (name, j) :: rest => do
    let v ← build b j
    let vs ← buildMembers b rest
    .ok ((name, v) :: vs)

end

end

/-- Reading the text comes to building from the tree, or from one that differs in the order of
members only. -/
def Spells (text : String) (j : Json) : Prop :=
  ∃ j', j.Same j' ∧ ∀ {ε α : Type} (b : Builder ε α),
    read b text = (build b j').mapError Fault.refused

end Componentry.Json
