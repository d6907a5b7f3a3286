import Componentry.Path

/-!
# File trees

Files by their path from the root. A directory is there if something lies in it or if it was made.
There are no links, so a file has one path.
-/

namespace Componentry.Command

/-- Files with their texts, and directories that are there besides those that hold a file. -/
structure FileTree where
  files : List (List String × String) := []
  directories : List (List String) := []
deriving DecidableEq, Repr

namespace FileTree

def text? (t : FileTree) (path : List String) : Option String :=
  (t.files.find? (·.1 == path)).map Prod.snd

def isDirectory (t : FileTree) (path : List String) : Bool :=
  t.files.any (fun f => path.isPrefixOf f.1 && path.length < f.1.length) ||
    t.directories.any path.isPrefixOf

def write (t : FileTree) (path : List String) (text : String) : FileTree :=
  { t with files := (path, text) :: t.files.filter (·.1 != path) }

end FileTree

/-- The path that a path means from a directory, without dots. -/
def resolvePath (directory : List String) (path : String) : List String :=
  let start := if Path.isAbsolute path then [] else directory
  (Path.parts path).foldl (fun ps p => if p = ".." then ps.dropLast else ps ++ [p]) start

end Componentry.Command
