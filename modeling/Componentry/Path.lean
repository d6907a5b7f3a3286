import Componentry.Text.Lines

/-!
# File paths

The parts of a path that is written with slashes. Empty parts and single dots mean nothing.
-/

namespace Componentry.Path

def splitSlashes (current : List Char) : List Char → List (List Char)
  | [] => [current.reverse]
  | c :: rest =>
    if c = '/' then current.reverse :: splitSlashes [] rest else splitSlashes (c :: current) rest

/-- The parts of a path that mean something. -/
def parts (path : String) : List String :=
  ((splitSlashes [] path.toList).map String.ofList).filter fun p => p ≠ "" && p ≠ "."

/-- The last part of a path, empty if there is none. -/
def name (path : String) : String := ((parts path).getLast?).getD ""

/-- A file name without its last suffix. A dot at either end starts no suffix. -/
def withoutSuffix (name : String) : String :=
  let suffix := name.toList.reverse.takeWhile (· != '.')
  let stem := (name.toList.reverse.drop (suffix.length + 1)).reverse
  if suffix.isEmpty || stem.isEmpty then name else String.ofList stem

def stem (path : String) : String := withoutSuffix (name path)

def isAbsolute (path : String) : Bool := path.toList.head? == some '/'

/-- The path from the root through the given parts. -/
def ofParts (parts : List String) : String := "/" ++ Text.joinWith "/" parts

end Componentry.Path
