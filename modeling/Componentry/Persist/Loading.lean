import Componentry.Text.Quoted

/-!
# Loading modules

A component may ask for the module that defines it. Loading a module loads the packages it lies in
first; what has been loaded stays loaded even if a later step fails.
-/

namespace Componentry.Loading

/-- The modules of a host process. -/
structure World where
  /-- Loaded modules that hold no other modules. -/
  plain : List String := []
  /-- Loaded modules that may hold others. -/
  packages : List String := []
  /-- Modules that can be loaded. -/
  importable : List String := []

/-- Why a module could not be loaded. -/
inductive Error where
  | emptyName
  | relativeName (name : String)
  | notFound (name : String)
  | notAPackage (name parent : String)
deriving DecidableEq, Repr

def Error.message : Error → String
  | emptyName => "Empty module name"
  | relativeName name =>
    "the 'package' argument is required to perform a relative import for " ++ Text.quote name
  | notFound name => "No module named " ++ Text.quote name
  | notAPackage name parent =>
    "No module named " ++ Text.quote name ++ "; " ++ Text.quote parent ++ " is not a package"

def World.isLoaded (w : World) (name : String) : Bool :=
  w.plain.contains name || w.packages.contains name

/-- A name and the packages it lies in, innermost first, where `name` is given backwards. -/
def enclosing : Nat → List Char → List String
  | 0, _ => []
  | n + 1, name =>
    if name.isEmpty then []
    else
      let parent := (name.dropWhile (· != '.')).drop 1
      String.ofList name.reverse :: enclosing n parent

/-- Loads the first of the given modules after the others, each of which holds the one in front of
it. Returns the names loaded, in order. -/
def loadChain (w : World) : List String → Option Error × List String × World
  | [] => (none, [], w)
  | name :: parents =>
    if w.isLoaded name then (none, [], w)
    else
      let (fault, loaded, w) := loadChain w parents
      match fault, parents.head? with
      | some e, _ => (some e, loaded, w)
      | none, some parent =>
        if !w.packages.contains parent then (some (.notAPackage name parent), loaded, w)
        else if w.importable.contains name then
          (none, loaded ++ [name], { w with packages := name :: w.packages })
        else (some (.notFound name), loaded, w)
      | none, none =>
        if w.importable.contains name then
          (none, loaded ++ [name], { w with packages := name :: w.packages })
        else (some (.notFound name), loaded, w)

/-- Loads a module unless it is loaded already. -/
def require (w : World) (name : String) : Option Error × List String × World :=
  if w.isLoaded name then (none, [], w)
  else if name = "" then (some .emptyName, [], w)
  else if name.toList.head? = some '.' then (some (.relativeName name), [], w)
  else loadChain w (enclosing name.length name.toList.reverse)

end Componentry.Loading
