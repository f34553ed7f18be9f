import ModuleGlue.Span

/-!
Contract: records of legacy forms.

Accepting a legacy form never changes what is accepted or produced; each use leaves a record with
the place of the use, and the records keep the order of the uses.

Owns: the forms, their explanation, and the text of a record.
-/

namespace ModuleGlue

/-- The forms that are still accepted but reported. -/
inductive LegacyForm where
  /-- A function's external name, given to the export decorator as a second positional argument. -/
  | positionalName
deriving DecidableEq, Repr

def LegacyForm.explanation : LegacyForm → String
  | .positionalName =>
    "passing the function name as a positional string to @pyfn is deprecated, " ++
      "use @pyfn(m, name=\"...\") instead"

/-- One use of a legacy form, and where it stands. -/
structure Deprecation where
  form : LegacyForm
  span : Option Span
deriving DecidableEq, Repr

/-- A message, after the place it speaks of if that is known. -/
def located (span : Option Span) (message : String) : String :=
  match span with
  | some place => place.render ++ ": " ++ message
  | none => message

def Deprecation.render (deprecation : Deprecation) : String :=
  located deprecation.span deprecation.form.explanation

end ModuleGlue
