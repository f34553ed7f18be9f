import ModuleGlue.Console.Log
import ModuleGlue.Expansion.Run
import ModuleGlue.Files.Tree
import ModuleGlue.Settings.Load
import ModuleGlue.Text.Literal
import ModuleGlue.Text.Quoted
import ModuleGlue.Text.Utf8

/-!
Contract: what a command works on and what it leaves behind.

A command reads and writes a tree of files and shows what it does. A failure that no command expects
ends it; what it has written and shown until then stays.

Owns: the state of a run, unexpected failures, reading source files, and reporting on them.

Does not own: the commands.
-/

namespace ModuleGlue.Command

open ModuleGlue.Console (Entry Level diagnosticMessage)
open ModuleGlue.Expansion (Outcome)
open ModuleGlue.Files (Path Place Tree)
open ModuleGlue.Text (Utf8.decode quoteString unifyLineEnds)

/-- A row of the report on many files. Its texts may hold tags. -/
structure ReportRow where
  file : String
  status : String
  issues : String
deriving DecidableEq, Repr

inductive Output where
  /-- An entry of the console. -/
  | entry (entry : Entry)
  /-- A text that is printed as it is. -/
  | printed (text : String)
  /-- The report on many files. -/
  | report (rows : List ReportRow)
deriving DecidableEq, Repr

/-- The files, and what has been shown, last first. -/
structure Session where
  tree : Tree
  shown : List Output
deriving Repr

/-- A failure that no command expects. -/
inductive Abort where
  /-- The tags of a message do not match. -/
  | markup (error : Console.MarkupError)
  /-- A file cannot be written. -/
  | files (fault : Files.Fault)
  /-- There are no valid settings. -/
  | settings (error : Settings.LoadError)
  /-- A literal of a source file is beyond repair. -/
  | source (error : Source.SourceError)
deriving DecidableEq, Repr

abbrev Run := ExceptT Abort (StateM Session)

def currentTree : Run Tree := return (← get).tree

def emit (output : Output) : Run Unit :=
  modify fun session => { session with shown := output :: session.shown }

def orAbort {ε α : Type} (abort : ε → Abort) (result : Except ε α) : Run α :=
  match result with
  | .ok value => pure value
  | .error error => throw (abort error)

def log (level : Level) (message : String) : Run Unit := do
  emit (.entry (← orAbort .markup (Entry.ofMessage level message)))

def showMarkup (text : String) : Run Unit := do
  emit (.entry (← orAbort .markup (Entry.ofMarkup text)))

def changeTree (change : Tree → Except Files.Fault Tree) : Run Unit := do
  let tree ← orAbort .files (change (← currentTree))
  modify fun session => { session with tree }

/-! ### Source files -/

inductive ReadFault where
  | files (path : Path) (fault : Files.Fault)
  | encoding (fault : Text.Utf8.Fault)
deriving DecidableEq, Repr

def ReadFault.render : ReadFault → String
  | .files path fault => s!"{fault.message}: {quoteString path.render}"
  | .encoding fault => fault.render

/-- The text of a source file. All line ends are line feeds in it. -/
def readSource (tree : Tree) (path : Path) : Except ReadFault String :=
  match tree.read path with
  | .error fault => .error (.files path fault)
  | .ok content =>
    match Utf8.decode content with
    | .error fault => .error (.encoding fault)
    | .ok text => .ok (String.ofList (unifyLineEnds text))

inductive Result where
  | unread (fault : ReadFault)
  | expanded (outcome : Outcome)
deriving DecidableEq, Repr

namespace Result

def succeeded : Result → Bool
  | .unread _ => false
  | .expanded outcome => outcome.succeeded

/-- The text shown for everything that is wrong with the file. -/
def errors : Result → List String
  | .unread fault => [fault.render]
  | .expanded outcome => outcome.errors

def warnings : Result → List String
  | .unread _ => []
  | .expanded outcome => outcome.warnings

end Result

/-- The places of the source files below a place, in order. Their names have to end so, whatever
stands there. -/
def sourcePlaces (tree : Tree) (place : Place) : List Place :=
  (tree.below place).filter fun below => ".py".toList.isSuffixOf (below.getLast?.getD "").toList

/-- The paths of the source files below a path, as names from there. -/
def collectSources (tree : Tree) (path : Path) : List Place :=
  match tree.locate path with
  | .ok place => sourcePlaces tree place
  | .error _ => []

/-- The settings for a path: those for the directory there, or for the one the file is in. -/
def loadSettings (path : Path) (overrides : Settings.Table) : Run Settings := do
  let tree ← currentTree
  let directory := if tree.isDirectory path then path else path.parent
  orAbort .settings (Settings.load tree directory overrides)

def logDiagnostic (label diagnostic : String) (isError : Bool) : Run Unit :=
  let (level, message) := diagnosticMessage label diagnostic isError
  log level message

/-- Shows the deprecations of a file, and then what is wrong with it. -/
def reportOutcome (label : String) (outcome : Outcome) : Run Unit := do
  outcome.warnings.forM fun warning => logDiagnostic label warning false
  outcome.errors.forM fun error => logDiagnostic label error true

def reportUnread (path : Path) (fault : ReadFault) : Run Unit :=
  log .error s!"Failed to read {path.render}: {fault.render}"

def reportMissing (path : Path) : Run Unit := log .error s!"Input not found: {path.render}"

end ModuleGlue.Command
