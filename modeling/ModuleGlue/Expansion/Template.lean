import ModuleGlue.Diagnostic
import ModuleGlue.Source.Parse
import ModuleGlue.Source.Tree

/-!
Contract: code that is generated, and how generating it can fail.

Generated code is kept in parts that tell names from other text. A name is used where it is looked
up, and assigned where it becomes a local of the function it stands in. So the scopes of generated
code can be spoken of without reading it.

A broken rule concerns one function and can be collected; code that cannot be read, or a literal
without a value, ends the expansion.

Owns: the parts, their text, and the lines they form; and the two kinds of failure.

Does not own: what is generated.
-/

namespace ModuleGlue.Expansion

open ModuleGlue.Source (Phrase SourceError Statement)

/-! ## Failures -/

/-- Why an expansion, or a step of it, gives no code. -/
inductive Failure where
  | broken (diagnostic : Diagnostic)
  | source (error : SourceError)
deriving DecidableEq, Repr

def ofSource {α : Type} : Except SourceError α → Except Failure α :=
  Except.mapError .source

def ofRule {α : Type} : Except Diagnostic α → Except Failure α :=
  Except.mapError .broken

/-! ## Generated code -/

inductive Fragment where
  /-- Text without names that are looked up. -/
  | fixed (text : String)
  /-- A name that is looked up. -/
  | use (name : String)
  /-- A name that the statement assigns. -/
  | assign (name : String)
  /-- An anonymous function; its parameter is local to its body. -/
  | function (parameter : String) (body : List Fragment)

mutual

def Fragment.render : Fragment → String
  | .fixed text => text
  | .use name => name
  | .assign name => name
  | .function parameter body => "lambda " ++ parameter ++ ": " ++ Fragment.renderAll body

def Fragment.renderAll : List Fragment → String
  | [] => ""
  | fragment :: rest => fragment.render ++ Fragment.renderAll rest

end

inductive Template where
  | simple (fragments : List Fragment)
  /-- A documentation string with a line for each of its quotes. -/
  | documentation (prose : List String)
  | block (header : List Fragment) (body : List Template)

def documentationLines (prose : List String) : List String :=
  "\"\"\"" :: (prose ++ ["\"\"\""])

mutual

/-- The lines of a template as text, each indented by the given text and four spaces a level. -/
def Template.lines (indent : String) : Template → List String
  | .simple fragments => [indent ++ Fragment.renderAll fragments]
  | .documentation prose => (documentationLines prose).map (indent ++ ·)
  | .block header body =>
    (indent ++ Fragment.renderAll header) :: Template.linesAll (indent ++ "    ") body

def Template.linesAll (indent : String) : List Template → List String
  | [] => []
  | template :: rest => template.lines indent ++ Template.linesAll indent rest

end

def verbatim (text : String) : Phrase := [⟨.empty, text⟩]

/-- A simple statement on a line of its own, written as it is. -/
def simpleLine (text : String) : Statement :=
  .line [] [⟨.other, verbatim text, []⟩] .plain

mutual

/-- The statement that a template stands for. The lines of a documentation string keep four spaces,
wherever it stands. -/
def Template.statement : Template → Statement
  | .simple fragments => simpleLine (Fragment.renderAll fragments)
  | .documentation prose =>
    let literal := String.intercalate "\n    " (documentationLines prose)
    .line [] [⟨.literals [⟨literal, false⟩], verbatim literal, []⟩] .plain
  | .block header body =>
    .compound ⟨[], [], []⟩ (verbatim (Fragment.renderAll header))
      (.block .plain none (Template.statements body) []) []

def Template.statements : List Template → List Statement
  | [] => []
  | template :: rest => template.statement :: Template.statements rest

end

end ModuleGlue.Expansion
