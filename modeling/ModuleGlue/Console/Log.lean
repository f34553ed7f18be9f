import ModuleGlue.Console.Markup
import ModuleGlue.Console.Wrap

/-!
Contract: what a console shows of a run.

Owns: the levels of records, the form of a diagnostic, and the lines in which records and texts are
shown.

Does not own: tables, and where the lines go.
-/

namespace ModuleGlue.Console

open ModuleGlue.Text (isDigit)

inductive Level where
  | info
  | success
  | warning
  | error
deriving DecidableEq, Repr

def Level.label : Level → String
  | .info => "INFO"
  | .success => "SUCCESS"
  | .warning => "WARNING"
  | .error => "ERROR"

def Level.sign : Level → String
  | .info => "ℹ️  "
  | .success => "✅ "
  | .warning => "⚠️  "
  | .error => "❌ "

inductive Entry where
  | record (level : Level) (shown : List Char)
  | plain (shown : List Char)
deriving DecidableEq, Repr

def Entry.ofMessage (level : Level) (message : String) : Except MarkupError Entry :=
  (showMarkup (level.sign.toList ++ message.toList)).map (.record level)

def Entry.ofMarkup (text : String) : Except MarkupError Entry :=
  (showMarkup text.toList).map .plain

/-! ### Diagnostics -/

/-- What separates the place of a diagnostic from its text. -/
def placeEnd : List Char := ": ".toList

/-- The text before the first place where another text stands in it, and the text after that. -/
def splitAtFirst? (separator : List Char) : List Char → Option (List Char × List Char)
  | [] => if separator.isEmpty then some ([], []) else none
  | c :: rest =>
    if separator.isPrefixOf (c :: rest) then some ([], (c :: rest).drop separator.length)
    else (splitAtFirst? separator rest).map fun (before, after) => (c :: before, after)

def isPlace (text : List Char) : Bool :=
  let digits := text.filter (· != ':')
  !digits.isEmpty && digits.all isDigit

/-- The place that a diagnostic begins with, and its text. -/
def splitPlace? (diagnostic : List Char) : Option (List Char × List Char) :=
  (splitAtFirst? placeEnd diagnostic).filter fun (place, _) => isPlace place

def styled (style : String) (text : List Char) : List Char :=
  writeTag style.toList ++ text ++ writeTag ('/' :: style.toList)

/-- A diagnostic under the name of its file. Both are shown as they are. -/
def diagnosticText (label diagnostic : List Char) : List Char :=
  match splitPlace? diagnostic with
  | some (place, message) =>
    styled "path" (escape label) ++ ':' :: styled "span" place ++ placeEnd ++ escape message
  | none => styled "path" (escape label) ++ placeEnd ++ escape diagnostic

/-- The level and the message of a record of a diagnostic. One that is no error is a deprecation. -/
def diagnosticMessage (label diagnostic : String) (isError : Bool) : Level × String :=
  let text := diagnosticText label.toList diagnostic.toList
  if isError then (.error, String.ofList text)
  else (.warning, String.ofList (styled "deprecated" text))

/-! ### Lines -/

def labelWidth : Nat := 8

/-- The lines of an entry on a console of a given width. -/
def Entry.lines (limit : Nat) : Entry → List (List Char)
  | .plain shown => wrap limit shown
  | .record level shown =>
    let label := level.label.toList
    let first := label ++ List.replicate (labelWidth - label.length) ' '
    let blank := List.replicate labelWidth ' '
    match wrap (limit - (labelWidth + 1)) shown with
    | [] => []
    | line :: others =>
      (dropBlanksRight (first ++ ' ' :: line)) ::
        others.map fun line => dropBlanksRight (blank ++ ' ' :: line)

end ModuleGlue.Console
