import ModuleGlue.Command.Session

/-!
Contract: the command that expands files.

A file is expanded into another one or printed. A directory is expanded file by file into another
directory, in which the files have the same paths; a file with errors is left out, and does not keep
the others from being expanded. All files are listed before the first of them is read.

Owns: the command, and its report on a directory.

Does not own: the expansion.
-/

namespace ModuleGlue.Command

open ModuleGlue.Console (escape)
open ModuleGlue.Expansion (run)
open ModuleGlue.Files (Path Place)
open ModuleGlue.Text (Utf8.encode)

/-- Writes expanded code to a file, in a directory that is made if need be. -/
def writeOutput (output : Path) (code : String) : Run Unit := do
  changeTree fun tree => tree.makeDirectories output.parent
  changeTree fun tree => tree.write output (Utf8.encode code.toList)

/-- Expands a file. The code goes to `output`, or is printed. -/
def convertFile (settings : Settings) (input : Path) (output : Option Path) : Run Result := do
  match readSource (← currentTree) input with
  | .error fault =>
    reportUnread input fault
    return .unread fault
  | .ok code =>
    let outcome ← orAbort .source (run settings code)
    reportOutcome input.name outcome
    if outcome.succeeded then
      match output with
      | none => emit (.printed outcome.code)
      | some output =>
        writeOutput output outcome.code
        if !outcome.modules.isEmpty then
          log .success s!"Expanded: [path]{input.render}[/path] -> [path]{output.render}[/path]"
    return .expanded outcome

/-- Expands the files at some places below a directory. -/
def convertFiles (settings : Settings) (input output : Path) :
    List Place → Run (List (Place × Result))
  | [] => return []
  | place :: rest => do
    let result ← convertFile settings (input.append place) (some (output.append place))
    return (place, result) :: (← convertFiles settings input output rest)

def Result.isClean (result : Result) : Bool := result.succeeded && result.warnings.isEmpty

/-- A file about which there is something to say, as a row of the report. -/
def reportRow (place : Place) (result : Result) : ReportRow :=
  let status := if result.succeeded then "⚠️ Deprecated" else "❌ Failed"
  let issues := "; ".intercalate (if result.errors.isEmpty then result.warnings else result.errors)
  ⟨String.ofList (escape (Path.render ⟨0, place⟩).toList), status,
    String.ofList (escape (if issues.isEmpty then "Unknown Error" else issues).toList)⟩

def reportBatch (results : List (Place × Result)) : Run Unit := do
  let others := results.filter fun (_, result) => !result.isClean
  let clean := results.length - others.length
  if others.isEmpty then
    log .success s!"Batch Complete: {clean}/{results.length} files expanded cleanly."
  else
    emit (.report (others.map fun (place, result) => reportRow place result))
    showMarkup s!"\n[bold]Summary:[/bold] {clean} Clean, {others.length} with Issues."

/-- Expands a directory into another one. Did everything in it succeed? -/
def convertDirectory (settings : Settings) (input : Path) (output : Option Path) : Run Bool := do
  match output with
  | none =>
    log .error "Directory conversion requires --out destination directory."
    return false
  | some output =>
    let sources := collectSources (← currentTree) input
    if sources.isEmpty then
      log .warning s!"No .py files found in {input.render}"
      return true
    else
      log .info s!"Processing {sources.length} files from {input.render}..."
      let results ← convertFiles settings input output sources
      reportBatch results
      return results.all fun (_, result) => result.succeeded

/-- Expands what stands at a path. Did everything there succeed? -/
def convert (input : Path) (output : Option Path) (overrides : Settings.Table) : Run Bool := do
  if !(← currentTree).contains input then
    reportMissing input
    return false
  else
    let settings ← loadSettings input overrides
    if (← currentTree).isFile input then
      return (← convertFile settings input output).succeeded
    else convertDirectory settings input output

end ModuleGlue.Command
