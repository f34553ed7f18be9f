import ModuleGlue.Expansion.Run
import ModuleGlue.Settings.Validation

/-!
Contract: code in, expanded code out.

Owns: expanding a text under settings given as values, and the ways in which that fails.

Does not own: the expansion, and which values are valid.
-/

namespace ModuleGlue

open ModuleGlue.Expansion (Problem run)
open ModuleGlue.Source (SourceError)

inductive ConversionError where
  /-- The settings are invalid. -/
  | invalid (faults : List Settings.Fault)
  /-- Something is wrong with the code. -/
  | failed (problems : List Problem)
  /-- A literal of the code is beyond repair. -/
  | source (error : SourceError)
deriving DecidableEq, Repr

/-- What is said of code with problems: all of them, each on a line. -/
def conversionMessage (problems : List Problem) : String :=
  "Expansion failed:\n" ++ "\n".intercalate (problems.map Problem.render)

/-- Expands code under the settings that `values` give. -/
def convert (code : String) (values : Settings.Table) : Except ConversionError String :=
  match values.validate with
  | .error faults => .error (.invalid faults)
  | .ok settings =>
    match run settings code with
    | .error error => .error (.source error)
    | .ok outcome =>
      if outcome.succeeded then .ok outcome.code else .error (.failed outcome.problems)

end ModuleGlue
