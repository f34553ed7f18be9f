import ModuleGlue.Command.Check
import ModuleGlue.Command.Convert
import ModuleGlue.Command.Request

/-!
Contract: the program, from its command line to its exit code.

Owns: which command runs, and how a run ends.

Does not own: where the files come from and where the output goes.
-/

namespace ModuleGlue.Command

open ModuleGlue.Files (Tree)

def versionText : String := "pyglue 0.1.0\n"

inductive Exit where
  /-- A command has run, and gives an exit code. -/
  | finished (code : Nat)
  /-- There was nothing to run. -/
  | stopped (code : Nat)
deriving DecidableEq, Repr

def exitCode (succeeded : Bool) : Nat := if succeeded then 0 else 1

def Request.run : Request → Run Exit
  | .convert input output overrides =>
    return .finished (exitCode (← Command.convert input output overrides))
  | .check input overrides strict =>
    return .finished (exitCode (← Command.check input overrides strict))

def program (arguments : List String) : Run Exit :=
  match Request.ofArguments arguments with
  | .ok request => request.run
  | .error .version => do
    emit (.printed versionText)
    return .stopped 0
  | .error .help => return .stopped 0
  | .error .misuse => return .stopped 2

/-- What a run of the program over some files ends with, and what it leaves behind. -/
def runProgram (arguments : List String) (tree : Tree) : Except Abort Exit × Session :=
  (program arguments).run ⟨tree, []⟩

end ModuleGlue.Command
