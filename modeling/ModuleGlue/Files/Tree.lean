import ModuleGlue.Files.Path

/-!
Contract: files and directories, as values.

A tree says what stands at each place below one directory, in which paths begin. Nothing stands
outside that directory. Every operation on a path walks along its names, and every name but the last
has to be that of a directory.

Owns: the tree, looking up, listing, reading, writing and making directories, and why each of them
fails.

Does not own: what files hold.
-/

namespace ModuleGlue.Files

abbrev Place := List String

/-- What stands at a place. -/
inductive Entry where
  | file (content : List UInt8)
  | directory
deriving DecidableEq, Repr

/-- What stands where. A later entry for a place is hidden by an earlier one. -/
structure Tree where
  entries : List (Place × Entry)
deriving DecidableEq, Repr

inductive Fault where
  /-- Nothing stands there. -/
  | missing
  /-- Something stands there already. -/
  | occupied
  /-- A name on the way is not that of a directory. -/
  | notDirectory
  /-- A directory stands there, and a file is needed. -/
  | isDirectory
deriving DecidableEq, Repr

def Fault.message : Fault → String
  | .missing => "[Errno 2] No such file or directory"
  | .occupied => "[Errno 17] File exists"
  | .notDirectory => "[Errno 20] Not a directory"
  | .isDirectory => "[Errno 21] Is a directory"

namespace Tree

def empty : Tree := ⟨[]⟩

/-- What stands at a place. The directory in which paths begin is always there. -/
def entry? (tree : Tree) (place : Place) : Option Entry :=
  if place.isEmpty then some .directory else tree.entries.lookup place

def put (tree : Tree) (place : Place) (entry : Entry) : Tree := ⟨(place, entry) :: tree.entries⟩

def step (tree : Tree) (place : Place) (name : String) : Except Fault Place :=
  match tree.entry? place with
  | none => .error .missing
  | some (.file _) => .error .notDirectory
  | some .directory =>
    if name = Path.up then
      if place.isEmpty then .error .missing else .ok place.dropLast
    else .ok (place ++ [name])

/-- The place that a path leads to. Something may stand there or not. -/
def locate (tree : Tree) (path : Path) : Except Fault Place :=
  if path.isRooted then .error .missing else path.names.foldlM tree.step []

def find (tree : Tree) (path : Path) : Except Fault Entry := do
  let place ← tree.locate path
  match tree.entry? place with
  | some entry => .ok entry
  | none => .error .missing

def contains (tree : Tree) (path : Path) : Bool := (tree.find path).toBool

def isFile (tree : Tree) (path : Path) : Bool :=
  match tree.find path with
  | .ok (.file _) => true
  | _ => false

def isDirectory (tree : Tree) (path : Path) : Bool :=
  match tree.find path with
  | .ok .directory => true
  | _ => false

def read (tree : Tree) (path : Path) : Except Fault (List UInt8) := do
  match ← tree.find path with
  | .file content => .ok content
  | .directory => .error .isDirectory

/-- Writes a file at the end of a path, over the file that may stand there. -/
def write (tree : Tree) (path : Path) (content : List UInt8) : Except Fault Tree := do
  let place ← tree.locate path
  match tree.entry? place with
  | some .directory => .error .isDirectory
  | _ => .ok (tree.put place (.file content))

def makeDirectory (tree : Tree) (path : Path) : Except Fault Tree := do
  let place ← tree.locate path
  match tree.entry? place with
  | some _ => .error .occupied
  | none => .ok (tree.put place .directory)

/-- Makes a directory and, from the outermost, those above it that are missing; `names` are those
of the path, last first. A directory that is there already will do. -/
def makeDirectoriesFrom (tree : Tree) (slashes : Nat) : List String → Except Fault Tree
  | [] => .ok tree
  | name :: above =>
    let path : Path := ⟨slashes, (name :: above).reverse⟩
    let orThere (tree : Tree) (made : Except Fault Tree) : Except Fault Tree :=
      match made with
      | .ok made => .ok made
      | .error fault => if tree.isDirectory path then .ok tree else .error fault
    match tree.makeDirectory path with
    | .error .missing => do
      let tree ← tree.makeDirectoriesFrom slashes above
      orThere tree (tree.makeDirectory path)
    | made => orThere tree made

/-- Makes the directory at the end of a path with all directories on the way to it. -/
def makeDirectories (tree : Tree) (path : Path) : Except Fault Tree :=
  tree.makeDirectoriesFrom path.slashes path.names.reverse

/-- Does a place come before another one, or is it the same? Names are compared one by one. -/
def precedes : Place → Place → Bool
  | [], _ => true
  | _ :: _, [] => false
  | name :: rest, other :: others =>
    if name = other then precedes rest others else decide (name < other)

/-- The places below a place, as names from there, in order and each of them once. -/
def below (tree : Tree) (place : Place) : List Place :=
  let inside := tree.entries.filterMap fun (other, _) =>
    if place.isPrefixOf other && place.length < other.length then some (other.drop place.length)
    else none
  inside.eraseDups.mergeSort precedes

/-- What stands in a tree and did not stand so in an earlier one, in the order of places. -/
def changesSince (tree earlier : Tree) : List (Place × Entry) :=
  (tree.below []).filterMap fun place =>
    match tree.entry? place with
    | some entry => if earlier.entry? place = some entry then none else some (place, entry)
    | none => none

end Tree

end ModuleGlue.Files
