import ModuleGlue.Text.CharClass

/-!
Contract: how paths are written.

A path is a list of names. Empty names and the name of the directory itself leave no trace; the name
of the parent directory is kept, since only a walk can tell where it leads.

Owns: reading and writing paths, and their parts.

Does not own: what stands at a path.
-/

namespace ModuleGlue.Files

/-- A path: names, below a directory or below a root. -/
structure Path where
  /-- The slashes before the first name: none, one, or the two of a root of its own. -/
  slashes : Nat
  names : List String
deriving DecidableEq, Repr

namespace Path

def here : String := "."

def up : String := ".."

def ofText (text : String) : Path :=
  let slashes := (text.toList.takeWhile (· == '/')).length
  ⟨if slashes = 0 then 0 else if slashes = 2 then 2 else 1,
    (text.splitOn "/").filter fun name => !name.isEmpty && name != here⟩

def render (path : Path) : String :=
  let text := String.ofList (List.replicate path.slashes '/') ++ "/".intercalate path.names
  if text.isEmpty then here else text

def isRooted (path : Path) : Bool := path.slashes != 0

def name (path : Path) : String := path.names.getLast?.getD ""

def parent (path : Path) : Path := { path with names := path.names.dropLast }

def append (path : Path) (names : List String) : Path := { path with names := path.names ++ names }

end Path

end ModuleGlue.Files
