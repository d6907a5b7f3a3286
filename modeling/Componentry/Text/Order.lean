/-!
# Sorting by name

Names are ordered by code points. Sorting is by insertion and keeps the order of equal names.
-/

namespace Componentry.Text

variable {α : Type}

/-- Inserts `a` before the first element with a greater or equal key. -/
def insertBy (key : α → String) (a : α) : List α → List α
  | [] => [a]
  | b :: rest => if key b < key a then b :: insertBy key a rest else a :: b :: rest

def sortBy (key : α → String) : List α → List α
  | [] => []
  | a :: rest => insertBy key a (sortBy key rest)

def sortNames (names : List String) : List String := sortBy id names

theorem mem_insertBy {key : α → String} {a x : α} {xs : List α} :
    x ∈ insertBy key a xs ↔ x = a ∨ x ∈ xs := by
  induction xs with
  | nil => simp [insertBy]
  | cons b rest ih =>
    by_cases h : key b < key a
    · simp only [insertBy, h, if_true, List.mem_cons, ih]
      exact or_left_comm
    · simp [insertBy, h]

@[simp] theorem mem_sortBy {key : α → String} {x : α} {xs : List α} :
    x ∈ sortBy key xs ↔ x ∈ xs := by
  induction xs with
  | nil => simp [sortBy]
  | cons a rest ih => simp [sortBy, mem_insertBy, ih]

end Componentry.Text
