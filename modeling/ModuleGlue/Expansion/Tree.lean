import ModuleGlue.Expansion.ModuleFunction

/-!
Contract: expanding all modules of a file.

The functions of modules are found at any depth, inner ones before those around them. The function
of a module is expanded as it was written: what stands inside its body is expanded for the record
only, and replaced with what was written. A function whose module decorators break a rule is kept,
with its body expanded.

Owns: the traversal and its record.
-/

namespace ModuleGlue.Expansion

open ModuleGlue.Source (Clause Function Statement Suite)

/-- What an expansion has found and done so far. -/
structure Record where
  errors : List Diagnostic
  deprecations : List Deprecation
  modules : List String
deriving DecidableEq, Repr

def Record.empty : Record := ⟨[], [], []⟩

/-- A step of an expansion. What was recorded before a failure stays. -/
abbrev Expander := ExceptT Failure (StateM Record)

def note (errors : List Diagnostic) (deprecations : List Deprecation) (modules : List String) :
    Expander Unit :=
  modify fun record =>
    ⟨record.errors ++ errors, record.deprecations ++ deprecations, record.modules ++ modules⟩

/-- Expands the function of a module. `expanded` is the function with its body expanded, which takes
its place if the decorators break a rule. -/
def expandModule (settings : Settings) (written expanded : Function) :
    Expander (List Statement) := do
  match readModule written with
  | .error diagnostic =>
    if settings.failFast then throw (.broken diagnostic)
    else
      note [diagnostic] [] []
      return [expanded.toStatement]
  | .ok reading =>
    let expansion ← liftExcept
      (expandBody (Wrapper.build settings.runtimeAlias) settings.failFast reading.function)
    let name := reading.options.externalName.getD written.signature.name
    note expansion.progress.errors expansion.progress.deprecations [name]
    if settings.entryPoints then
      let entry ← liftExcept (entryPoint settings name written)
      return [expansion.function.toStatement, entry]
    else return [expansion.function.toStatement]
where
  liftExcept {α : Type} (result : Except Failure α) : Expander α := ExceptT.mk (pure result)

mutual

def expandAt (settings : Settings) : Statement → Expander (List Statement)
  | .line leading parts ending => return [.line leading parts ending]
  | .function head signature body => do
    let expanded ← expandSuite settings body
    let written : Function := ⟨head, signature, body⟩
    if isModuleFunction written then expandModule settings written { written with body := expanded }
    else return [.function head signature expanded]
  | .compound head header body clauses => do
    let expanded ← expandSuite settings body
    let others ← expandClauses settings clauses
    return [.compound head header expanded others]

def expandAll (settings : Settings) : List Statement → Expander (List Statement)
  | [] => return []
  | statement :: rest => do
    let first ← expandAt settings statement
    let others ← expandAll settings rest
    return first ++ others

def expandClause (settings : Settings) : Clause → Expander Clause
  | .mk leading header body => do
    let expanded ← expandSuite settings body
    return .mk leading header expanded

def expandClauses (settings : Settings) : List Clause → Expander (List Clause)
  | [] => return []
  | clause :: rest => do
    let first ← expandClause settings clause
    let others ← expandClauses settings rest
    return first :: others

def expandSuite (settings : Settings) : Suite → Expander Suite
  | .inline parts ending => return .inline parts ending
  | .block header indent body footer => do
    let expanded ← expandAll settings body
    return .block header indent expanded footer

end

end ModuleGlue.Expansion
