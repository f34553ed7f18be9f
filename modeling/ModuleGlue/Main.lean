import ModuleGlue.Command.Display

/-!
Contract: the program on a real console and a real directory.

A run works on the files below the current directory as they are when it begins. What it has changed
is written when it ends, and what it has shown is printed then.

Owns: reading the files, writing what has changed, and printing.

Does not own: everything that is decided in a run.
-/

namespace ModuleGlue

open ModuleGlue.Files (Path Place Tree)

/-- Adds what stands in a directory under some name, with everything below it. -/
partial def readEntry (above : Place) (tree : Tree) (entry : IO.FS.DirEntry) : IO Tree := do
  let place := above ++ [entry.fileName]
  if ← entry.path.isDir then
    (← entry.path.readDir).foldlM (readEntry place) (tree.put place .directory)
  else
    return tree.put place (.file (← IO.FS.readBinFile entry.path).toList)

def readTree : IO Tree := do
  (← (← IO.currentDir).readDir).foldlM (readEntry []) .empty

def writeEntry (place : Place) (entry : Files.Entry) : IO Unit :=
  let path := Path.render ⟨0, place⟩
  match entry with
  | .directory => IO.FS.createDirAll path
  | .file content => IO.FS.writeBinFile path ⟨content.toArray⟩

def consoleWidth : Nat := 80

end ModuleGlue

/-- Runs the program on the files below the current directory. -/
def main (arguments : List String) : IO UInt32 := do
  let before ← ModuleGlue.readTree
  let (ended, session) := ModuleGlue.Command.runProgram arguments before
  for (place, entry) in session.tree.changesSince before do
    ModuleGlue.writeEntry place entry
  IO.print (session.text ModuleGlue.consoleWidth)
  IO.eprint (ModuleGlue.Command.farewell ended session)
  return (ModuleGlue.Command.codeOf ended).toUInt32
