import ModuleGlue.Command.Program

/-!
Contract: what a reader of the console sees of a run.

Owns: the text of everything that is shown, the words for a run that ends early, and the exit code.

Does not own: what is shown, and where the text goes.
-/

namespace ModuleGlue.Command

open ModuleGlue.Console (Entry)

def endLines (lines : List String) : String := String.join (lines.map (· ++ "\n"))

/-- The lines of an entry on a console of a given width. -/
def shownLines (limit : Nat) (entry : Entry) : List String :=
  (entry.lines limit).map String.ofList

/-- The lines of a row of the report: the file and its status, and below them what is wrong. -/
def ReportRow.lines (limit : Nat) (row : ReportRow) : List String :=
  match Entry.ofMarkup s!"{row.file}: {row.status}\n  {row.issues}" with
  | .ok shown => shownLines limit shown
  | .error _ => [row.file, row.status, row.issues]

def reportTitle : String := "Expansion Report"

/-- The text shown for an output on a console of a given width. -/
def Output.text (limit : Nat) : Output → String
  | .entry shown => endLines (shownLines limit shown)
  | .printed text => text
  | .report rows => endLines (reportTitle :: rows.flatMap (ReportRow.lines limit))

def Session.text (limit : Nat) (session : Session) : String :=
  String.join (session.shown.reverse.map (Output.text limit))

def Abort.message : Abort → String
  | .markup _ => "A message cannot be shown: its tags do not match."
  | .files fault => s!"A file cannot be written: {fault.message}."
  | .settings _ => "The settings are not valid."
  | .source _ => "A literal of a source file cannot be read."

def usageText : String :=
  "usage: pyglue [--version] convert PATH [--out OUT] [--runtime-alias NAME]\n" ++
  "         [--runtime-module PATH] [--fail-fast] [--no-init]\n" ++
  "       pyglue check PATH [--fail-fast] [--strict]\n"

/-- The exit code of a run. One that ends early has failed. -/
def codeOf : Except Abort Exit → Nat
  | .ok (.finished code) => code
  | .ok (.stopped code) => code
  | .error _ => exitCode false

/-- What is said of the way in which a run ends, beside what it has shown. -/
def farewell (ended : Except Abort Exit) (session : Session) : String :=
  match ended with
  | .ok (.finished _) => ""
  | .ok (.stopped _) => if session.shown.isEmpty then usageText else ""
  | .error abort => abort.message ++ "\n"

end ModuleGlue.Command
