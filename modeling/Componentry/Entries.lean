/-!
# Entries with equal keys

A dictionary is a list of entries in the order in which their keys first came in. Keys may be equal
without being written alike: an entry whose key is equal to an earlier one replaces the value there
and leaves the key as it was.
-/

namespace Componentry.Entries

variable {κ α : Type}

/-- Replaces the value of the first equal key, or adds the entry at the end. -/
def put (equal : κ → κ → Bool) (key : κ) (value : α) : List (κ × α) → List (κ × α)
  | [] => [(key, value)]
  | (k, v) :: rest =>
    if equal k key then (k, value) :: rest else (k, v) :: put equal key value rest

def ofPairs (equal : κ → κ → Bool) (pairs : List (κ × α)) : List (κ × α) :=
  pairs.foldl (fun entries p => put equal p.1 p.2 entries) []

end Componentry.Entries
