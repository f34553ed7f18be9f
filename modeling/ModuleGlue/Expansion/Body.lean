import ModuleGlue.Expansion.Decoration
import ModuleGlue.Expansion.Registration
import ModuleGlue.Expansion.Wrapper

/-!
Contract: the body of a module's function.

Each statement of the body gives a block of statements. An exported function gives its wrapper, the
registration of the wrapper, and itself without the decorators that asked for this. Any other
statement gives itself; so does a function whose decorators break a rule.

Errors are collected, or the first of them ends the expansion; it then carries the deprecations
recorded up to it.

Owns: the blocks, and the two modes.

Does not own: what is done with a module's own decorators.
-/

namespace ModuleGlue.Expansion

open ModuleGlue.Directive (Options)
open ModuleGlue.Source (Function Statement Suite)

/-- How wrappers are built, from a function without its export decorators and the options of its
export. -/
abbrev WrapperBuilder := Function → Options → Except Failure Wrapper

/-! ## Blocks -/

/-- What a statement becomes. -/
inductive Block where
  | kept (statement : Statement)
  | exported (wrapper : Wrapper) (registration : Statement) (function : Function)

def Block.statements : Block → List Statement
  | .kept statement => [statement]
  | .exported wrapper registration function =>
    [wrapper.definition.toStatement, registration, function.toStatement]

/-- Blocks, with what was found wrong and what was recorded on the way. -/
structure Progress where
  blocks : List Block
  errors : List Diagnostic
  deprecations : List Deprecation

namespace Progress

def empty : Progress := ⟨[], [], []⟩

def append (first second : Progress) : Progress :=
  ⟨first.blocks ++ second.blocks, first.errors ++ second.errors,
    first.deprecations ++ second.deprecations⟩

end Progress

def exportedBlock (build : WrapperBuilder) (found : Export) : Except Failure Block := do
  let wrapper ← build found.function found.descriptor.options
  return .exported wrapper (registration found.descriptor.path wrapper.name) found.function

/-- What a function becomes. A broken rule that names no place is blamed on the function. -/
def expandFunction (build : WrapperBuilder) (statement : Statement) (function : Function) :
    Except Failure Progress :=
  let attempt : Except Failure Progress := do
    match ← ofRule (readExport function) with
    | none => return ⟨[.kept statement], [], []⟩
    | some found =>
      return ⟨[← exportedBlock build found], [], found.descriptor.options.deprecations⟩
  match attempt with
  | .error (.broken diagnostic) =>
    let placed := { diagnostic with span := diagnostic.span.or function.signature.place }
    .ok ⟨[.kept statement], [placed], placed.recorded⟩
  | result => result

def expandStatement (build : WrapperBuilder) (statement : Statement) : Except Failure Progress :=
  match statement.function? with
  | some function => expandFunction build statement function
  | none => .ok ⟨[.kept statement], [], []⟩

/-! ## Modes -/

def collectStatements (build : WrapperBuilder) : List Statement → Except Failure Progress
  | [] => .ok .empty
  | statement :: rest => do
    let first ← expandStatement build statement
    let others ← collectStatements build rest
    return first.append others

/-- What statements become, up to the first error; `recorded` holds the deprecations of the
statements before these. -/
def expandUntilError (build : WrapperBuilder) (recorded : List Deprecation) :
    List Statement → Except Failure Progress
  | [] => .ok .empty
  | statement :: rest => do
    let first ← expandStatement build statement
    let recorded := recorded ++ first.deprecations
    match first.errors with
    | diagnostic :: _ => .error (.broken { diagnostic with deprecations := some recorded })
    | [] =>
      let others ← expandUntilError build recorded rest
      return first.append others

/-- A module's function after its body was expanded. -/
structure ExpandedBody where
  function : Function
  progress : Progress

/-- Expands the body of a module's function. A body on the line of the function is left alone. -/
def expandBody (build : WrapperBuilder) (failFast : Bool) (function : Function) :
    Except Failure ExpandedBody :=
  match function.body with
  | .inline _ _ => .ok ⟨function, .empty⟩
  | .block header indent body footer => do
    let progress ←
      if failFast then expandUntilError build [] body else collectStatements build body
    let expanded := progress.blocks.flatMap Block.statements
    return ⟨{ function with body := .block header indent expanded footer }, progress⟩

end ModuleGlue.Expansion
