import ModuleGlue.Source.Render
import ModuleGlue.Expansion.RuntimeImport
import ModuleGlue.Expansion.Tree

/-!
Contract: expanding a file.

An expansion succeeds if nothing is wrong with the file. Then its result is the expanded code;
otherwise it is the code as it was, with everything that is wrong.

Owns: the result, and the steps from text to text.
-/

namespace ModuleGlue.Expansion

open ModuleGlue.Source (Module SourceError)

inductive Problem where
  /-- The file is no code. -/
  | malformed
  | broken (diagnostic : Diagnostic)
deriving DecidableEq, Repr

def Problem.render : Problem → String
  | .malformed => "Syntax error"
  | .broken diagnostic => diagnostic.render

/-- The outcome for a file. -/
structure Outcome where
  code : String
  problems : List Problem
  deprecations : List Deprecation
  /-- The external names of the modules that were expanded. -/
  modules : List String
deriving DecidableEq, Repr

namespace Outcome

def succeeded (outcome : Outcome) : Bool := outcome.problems.isEmpty

def errors (outcome : Outcome) : List String := outcome.problems.map Problem.render

def warnings (outcome : Outcome) : List String := outcome.deprecations.map Deprecation.render

end Outcome

/-- A file with its modules expanded. The import of the runtime is added if a module was found and
the settings name a module to import it from. -/
def finish (settings : Settings) (file : Module) (record : Record)
    (body : List Source.Statement) : Module :=
  match settings.runtimeModule with
  | some path =>
    if record.modules.isEmpty then { file with body }
    else { file with body := withRuntimeImport path settings.runtimeAlias body }
  | none => { file with body }

def expandFile (settings : Settings) (code : String) (file : Module) :
    Except SourceError Outcome :=
  match (expandAll settings file.body).run .empty with
  | (.error (.source error), _) => .error error
  | (.error (.broken diagnostic), record) =>
    .ok ⟨code, [.broken diagnostic], record.deprecations ++ diagnostic.recorded, []⟩
  | (.ok body, record) =>
    if record.errors.isEmpty then
      .ok ⟨(finish settings file record body).render, [], record.deprecations, record.modules⟩
    else .ok ⟨code, record.errors.map .broken, record.deprecations, record.modules⟩

def run (settings : Settings) (code : String) : Except SourceError Outcome :=
  match Module.ofText code with
  | .error .malformed => .ok ⟨code, [.malformed], [], []⟩
  | .error error => .error error
  | .ok file => expandFile settings code file

end ModuleGlue.Expansion
