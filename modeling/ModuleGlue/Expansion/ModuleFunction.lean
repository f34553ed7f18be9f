import ModuleGlue.Settings.Basic
import ModuleGlue.Source.Docstring
import ModuleGlue.Expansion.Body
import ModuleGlue.Expansion.EntryPoint

/-!
Contract: a module's function.

A function is that of a module if a decorator says so. Its decorators may give the external name of
the module, and nothing else. Expanded, it is followed by the entry point of the module.

Owns: the rules for the decorators, and what the function is replaced with.

Does not own: where such functions stand.
-/

namespace ModuleGlue.Expansion

open ModuleGlue.Directive (Options)
open ModuleGlue.Source (BlankLine Decorator Function Statement)

/-! ## Decorators -/

def isModuleFunction (function : Function) : Bool :=
  function.head.decorators.any (·.isNamed moduleMark)

/-- What the decorators of a module's function say: the function without them, and the options. -/
structure ModuleReading where
  function : Function
  options : Options

def readModule (function : Function) : Except Diagnostic ModuleReading :=
  let decorators := function.head.decorators
  let marks := decorators.filter (·.isNamed moduleMark)
  let others := decorators.filter (!·.isNamed moduleMark)
  match marks.find? (!·.arguments.isEmpty) with
  | some mark => .error (.grammar .moduleArguments mark.place)
  | none =>
    match foldOptions .empty others with
    | (_, .error diagnostic) => .error diagnostic
    | (options, .ok remaining) =>
      if options.passModule || options.textSignature.isSome then
        .error (.grammar .moduleOptions function.signature.place)
      else .ok ⟨function.withDecorators remaining, options⟩

/-! ## Expansion -/

def separation : List BlankLine := [⟨true, "", none, .usual⟩, ⟨true, "", none, .usual⟩]

/-- The entry point of a module, after its function. The documentation is that of the function. -/
def entryPoint (settings : Settings) (name : String) (function : Function) :
    Except Failure Statement := do
  let documentation ← ofSource function.body.documentation
  let entry : EntryPoint :=
    ⟨function.signature.name, name, terminated (documentation.getD []), settings.runtimeAlias⟩
  return (entry.definition.withLeading separation).toStatement

end ModuleGlue.Expansion
