import ModuleGlue.Directive.Export
import ModuleGlue.Source.Render

/-!
Contract: the decorators that ask for expansion.

A function is exported by one decorator whose arguments name the module, and any number of option
decorators add to its options. All of these are removed; every other decorator stays, in its place.

Owns: which decorators these are, where their arguments stand, and what a function's decorators ask
for altogether.

Does not own: the grammar of the arguments.
-/

namespace ModuleGlue.Expansion

open ModuleGlue.Directive (Options ExportArguments ExportDescriptor Cursor)
open ModuleGlue.Source (Decorator Function)

/-! ## Names -/

def exportMark : String := "pyfn"

def optionMark : String := "pyglue"

def moduleMark : String := "pymodule"

/-! ## Arguments -/

/-- The place to which positions in the argument list are relative: that of the first argument; that
of the decorator if there is none. -/
def argumentOrigin (decorator : Decorator) : Option Span :=
  if decorator.arguments.isEmpty then decorator.place else decorator.argumentPlace

/-- The tokens of a decorator's arguments, of which `origin` is the place. -/
def argumentCursor (decorator : Decorator) (origin : Option Span) : Cursor :=
  .ofSource decorator.argumentText origin

/-- Folds the option decorators of a list into a record, and gives the other decorators. What was
read before an error stays in the record. -/
def foldOptions (options : Options) :
    List Decorator → Options × Except Diagnostic (List Decorator)
  | [] => (options, .ok [])
  | decorator :: rest =>
    if decorator.isNamed optionMark then
      match options.readInto (argumentCursor decorator (argumentOrigin decorator)) with
      | (read, .error diagnostic) => (read, .error diagnostic)
      | (read, .ok _) => foldOptions read rest
    else
      let (folded, others) := foldOptions options rest
      (folded, others.map (decorator :: ·))

/-! ## Exported functions -/

/-- A function that is to be exported: what is known of the export, and the function without the
decorators that ask for it. -/
structure Export where
  descriptor : ExportDescriptor
  function : Function

/-- What a function's decorators ask for. Without an export decorator the option decorators mean
nothing and stay. The legacy name is merged last, and so wins over the options. -/
def readExport (function : Function) : Except Diagnostic (Option Export) :=
  let decorators := function.head.decorators
  match decorators.filter (·.isNamed exportMark) with
  | [] => .ok none
  | [mark] => do
    let origin := (argumentOrigin mark).or mark.place
    let arguments ← ExportArguments.parse (argumentCursor mark origin)
    let others := decorators.filter fun decorator => !decorator.isNamed exportMark
    match foldOptions arguments.options others with
    | (_, .error diagnostic) => .error diagnostic
    | (options, .ok remaining) =>
      let descriptor ← { arguments with options }.merge
      .ok (some ⟨descriptor, function.withDecorators remaining⟩)
  | _ :: second :: _ => .error ⟨.duplicate, .repeatedExport, second.place, none⟩

end ModuleGlue.Expansion
