import ModuleGlue.Command.Session

/-!
Contract: the command that looks for errors.

Files are expanded, and nothing is written.

Owns: the command.

Does not own: the expansion.
-/

namespace ModuleGlue.Command

open ModuleGlue.Expansion (run)
open ModuleGlue.Files (Path)

def checkFile (settings : Settings) (path : Path) : Run Result := do
  match readSource (← currentTree) path with
  | .error fault =>
    reportUnread path fault
    return .unread fault
  | .ok code =>
    let outcome ← orAbort .source (run settings code)
    reportOutcome path.render outcome
    return .expanded outcome

def checkFiles (settings : Settings) : List Path → Run (List Result)
  | [] => return []
  | path :: rest => do
    let result ← checkFile settings path
    return result :: (← checkFiles settings rest)

/-- Does a file count as one with problems? Deprecations are problems if `strict` says so. -/
def Result.hasProblems (strict : Bool) (result : Result) : Bool :=
  !result.succeeded || (strict && !result.warnings.isEmpty)

def Result.moduleCount : Result → Nat
  | .unread _ => 0
  | .expanded outcome => outcome.modules.length

/-- Looks for errors at a path. Is there none? -/
def check (input : Path) (overrides : Settings.Table) (strict : Bool) : Run Bool := do
  if !(← currentTree).contains input then
    reportMissing input
    return false
  else
    let settings ← loadSettings input overrides
    let tree ← currentTree
    let files := if tree.isFile input then [input]
      else (collectSources tree input).map input.append
    let results ← checkFiles settings files
    let failed := (results.filter (·.hasProblems strict)).length
    if failed = 0 then
      let modules := results.foldl (fun count result => count + result.moduleCount) 0
      log .success s!"Checked {files.length} files, {modules} modules."
      return true
    else
      log .error s!"{failed} of {files.length} files have annotation problems."
      return false

end ModuleGlue.Command
