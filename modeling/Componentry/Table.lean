/-!
# Insertion-ordered tables

A `Table` maps names to values and remembers the order in which its names first came in. Answers
show that order (registered types, messages, interface buckets), so it is part of the value. The
lemmas at the end say what each operation does to `get?`; nothing else should unfold the entries.
-/

namespace Componentry

/-- A finite map from names, kept in the order in which the names were first put. -/
structure Table (α : Type) where
  entries : List (String × α) := []
deriving DecidableEq, Repr

namespace Table

variable {α : Type}

def empty : Table α := ⟨[]⟩

/-- The value of `key` in a list of entries. -/
def findEntry (key : String) : List (String × α) → Option α
  | [] => none
  | (k, v) :: rest => if k = key then some v else findEntry key rest

def get? (t : Table α) (key : String) : Option α := findEntry key t.entries

def contains (t : Table α) (key : String) : Bool := (t.get? key).isSome

def keys (t : Table α) : List String := t.entries.map Prod.fst

/-- Replaces the value of `key` where it stands, or adds it at the end. -/
def putEntry (key : String) (value : α) : List (String × α) → List (String × α)
  | [] => [(key, value)]
  | (k, v) :: rest =>
    if k = key then (k, value) :: rest else (k, v) :: putEntry key value rest

/-- Gives `key` the value; a name that is already there keeps its place. -/
def put (t : Table α) (key : String) (value : α) : Table α := ⟨putEntry key value t.entries⟩

/-- Gives `key` the value unless it already has one. -/
def putNew (t : Table α) (key : String) (value : α) : Table α :=
  if t.contains key then t else ⟨t.entries ++ [(key, value)]⟩

def ofList (pairs : List (String × α)) : Table α := pairs.foldl (fun t p => t.put p.1 p.2) empty

/-! ## What each operation does to the view -/

@[simp] theorem get?_empty (key : String) : (empty : Table α).get? key = none := rfl

theorem findEntry_putEntry (key k : String) (value : α) (es : List (String × α)) :
    findEntry k (putEntry key value es) = if k = key then some value else findEntry k es := by
  induction es with
  | nil => grind [putEntry, findEntry]
  | cons e rest ih =>
    obtain ⟨k', v'⟩ := e
    by_cases h : k' = key <;> grind [putEntry, findEntry]

@[simp] theorem get?_put (t : Table α) (key k : String) (value : α) :
    (t.put key value).get? k = if k = key then some value else t.get? k :=
  findEntry_putEntry key k value t.entries

theorem findEntry_append_singleton (es : List (String × α)) (key k : String) (value : α) :
    findEntry k (es ++ [(key, value)]) =
      (findEntry k es).or (if k = key then some value else none) := by
  induction es with
  | nil => grind [findEntry]
  | cons e rest ih =>
    obtain ⟨k', v'⟩ := e
    by_cases h : k' = k <;> simp [findEntry, h, ih]

@[simp] theorem get?_putNew (t : Table α) (key k : String) (value : α) :
    (t.putNew key value).get? k = (t.get? k).or (if k = key then some value else none) := by
  unfold putNew contains
  split
  · next h =>
    by_cases hk : k = key
    · subst hk
      obtain ⟨v, hv⟩ := Option.isSome_iff_exists.mp h
      simp [hv]
    · simp [hk]
  · exact findEntry_append_singleton t.entries key k value

end Table

end Componentry
