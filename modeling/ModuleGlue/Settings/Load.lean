import ModuleGlue.Files.Tree
import ModuleGlue.Settings.Validation
import ModuleGlue.Text.Utf8
import ModuleGlue.Toml.Document

/-!
Contract: finding the settings for a directory.

The settings stand in the nearest settings file: the one in the directory itself or, failing that,
in the first directory above it that has one. No other file is looked at, whatever the nearest one
holds. Values given by the caller take precedence, each by itself.

Owns: which file is nearest, which of its tables holds the settings, and what can go wrong.

Does not own: the format of the file, and which values are valid.
-/

namespace ModuleGlue.Settings

open ModuleGlue.Files (Path Place Tree)
open ModuleGlue.Text (Utf8.decode)

def fileName : String := "pyproject.toml"

/-- The table of a settings file that is shared by tools, and the entry in it for this one. -/
def tablePath : String × String := ("tool", "pyglue")

/-- Why settings cannot be loaded. -/
inductive LoadError where
  /-- The settings file is no text. -/
  | unreadable
  /-- The settings file is beyond the limits of its reader. -/
  | tooMuch (excess : Toml.Excess)
  /-- Something other than a table stands where the settings should. -/
  | notTable
  | invalid (faults : List Fault)
deriving DecidableEq, Repr

/-- The place a path leads to if every name is taken as that of a directory, if it is within the
tree. -/
def directoryPlace? (path : Path) : Option Place :=
  if path.isRooted then none
  else
    path.names.foldlM
      (fun (place : Place) name =>
        if name = Path.up then if place.isEmpty then none else some place.dropLast
        else some (place ++ [name]))
      []

def ancestors (place : Place) : List Place :=
  (List.range (place.length + 1)).reverse.map place.take

/-- The nearest directory with a settings file, from a place on upwards, and the file's content. -/
def nearest? (tree : Tree) (place : Place) : Option (Place × List UInt8) :=
  (ancestors place).findSome? fun directory =>
    match tree.entry? (directory ++ [fileName]) with
    | some (.file content) => some (directory, content)
    | _ => none

/-- What a settings file says. -/
structure Given where
  /-- The value where the settings should stand. -/
  value : Value
  /-- The directory of the file, unless there is none or it is malformed. -/
  directory : Option Place

def Given.nothing : Given := ⟨.table [], none⟩

/-- An entry of a table, or an empty table if there is none. -/
def entryOrEmpty (entries : Table) (key : String) : Value := (entries.lookup key).getD (.table [])

/-- The value where the settings should stand in a document. -/
def settingsValue (document : Table) : Except LoadError Value :=
  match entryOrEmpty document tablePath.1 with
  | .table tools => .ok (entryOrEmpty tools tablePath.2)
  | _ => .error .notTable

/-- What the content of a settings file says, if it is read within limits. -/
def readContent (limits : Toml.Limits) (directory : Place) (content : List UInt8) :
    Except LoadError Given :=
  match Utf8.decode content with
  | .error _ => .error .unreadable
  | .ok text =>
    match Toml.parse limits (String.ofList text) with
    | .error .malformed => .ok .nothing
    | .error (.tooMuch excess) => .error (.tooMuch excess)
    | .ok document => (settingsValue document).map fun value => ⟨value, some directory⟩

/-- What the settings file for a directory says, if it is read within limits. -/
def findGivenWithin (limits : Toml.Limits) (tree : Tree) (path : Path) : Except LoadError Given :=
  match (directoryPlace? path).bind (nearest? tree) with
  | none => .ok .nothing
  | some (directory, content) => readContent limits directory content

/-- The settings for a directory whose file is read within limits, with values that take precedence
over those of the file. -/
def loadWithin (limits : Toml.Limits) (tree : Tree) (path : Path) (overrides : Table) :
    Except LoadError Settings := do
  match (← findGivenWithin limits tree path).value with
  | .table entries => ((Table.override overrides entries).validate).mapError .invalid
  | _ => .error .notTable

def findGiven (tree : Tree) (path : Path) : Except LoadError Given :=
  findGivenWithin .standard tree path

def load (tree : Tree) (path : Path) (overrides : Table) : Except LoadError Settings :=
  loadWithin .standard tree path overrides

end ModuleGlue.Settings
