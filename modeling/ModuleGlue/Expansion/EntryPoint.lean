import ModuleGlue.Text.Margin
import ModuleGlue.Text.Quoted
import ModuleGlue.Expansion.Template

/-!
Contract: entry points of modules.

The entry point is the function that is called when the module is imported. It makes the definition
of the module once, keeps it in a cell of its own, and hands it to the runtime together with the
module's function.

Owns: the name and the code of an entry point.

Does not own: where it is put.

The parts of an entry point may be any code. Where they are identifiers, as in an expansion,
`definition` gives the function at once; `parse` reads the code of any parts, which may have no
meaning.
-/

namespace ModuleGlue.Expansion

open ModuleGlue.Text
open ModuleGlue.Source (Function SourceError Statement)

structure EntryPoint where
  /-- The module's function. -/
  initializer : String
  /-- The external name of the module. -/
  name : String
  /-- The documentation of the module; it ends with a null character. -/
  documentation : Points
  /-- What generated code calls the runtime. -/
  runtime : String
deriving DecidableEq, Repr

inductive EntryPointError where
  /-- The documentation does not end with a null character. -/
  | unterminated
  | source (error : SourceError)
deriving DecidableEq, Repr

def terminator : CodePoint := .ofChar '\x00'

def terminated (points : Points) : Points := points ++ [terminator]

def entryPointName (name : String) : String := "PyInit_" ++ name

namespace EntryPoint

def prose : List String :=
  ["This autogenerated function is called by the python interpreter when importing", "the module."]

def cellKey : String := "\"__pyglue_module_def__\""

def body (entryPoint : EntryPoint) : List Template :=
  let nameLiteral := quote (terminated (.ofString entryPoint.name))
  [.documentation prose,
    .simple [.assign "NAME", .fixed (" = " ++ String.ofList nameLiteral)],
    .simple [.assign "DOC", .fixed (" = " ++ String.ofList (quote entryPoint.documentation))],
    .simple [.assign "cell", .fixed " = ", .use (entryPointName entryPoint.name),
      .fixed ".__dict__"],
    .block [.fixed ("if " ++ cellKey ++ " not in "), .use "cell", .fixed ":"]
      [.simple [.use "cell", .fixed ("[" ++ cellKey ++ "] = "), .use entryPoint.runtime,
        .fixed ".ModuleDef(", .use "NAME", .fixed ", ", .use "DOC", .fixed ")"]],
    .simple [.assign "MODULE_DEF", .fixed " = ", .use "cell", .fixed ("[" ++ cellKey ++ "]")],
    .simple [.fixed "return ", .use entryPoint.runtime, .fixed ".handle_panic(",
      .function "_py" [.use "MODULE_DEF", .fixed ".make_module(", .use "_py", .fixed ", ",
        .use entryPoint.initializer, .fixed ")"],
      .fixed ")"]]

def header (entryPoint : EntryPoint) : String :=
  "def " ++ entryPointName entryPoint.name ++ "():"

def definition (entryPoint : EntryPoint) : Function :=
  ⟨⟨[], [], []⟩, ⟨entryPointName entryPoint.name, false, verbatim entryPoint.header, none⟩,
    .block .plain none (Template.statements entryPoint.body) []⟩

/-- The code of the entry point, for any parts. It is laid out with a margin that its lines have in
common, and loses what of it they do have in common. -/
def code (entryPoint : EntryPoint) : String :=
  let lines := ("    " ++ entryPoint.header) :: Template.linesAll "        " entryPoint.body
  let text := "\n" ++ String.intercalate "\n" lines ++ "\n  "
  String.ofList (trimBlanks (dropMargin text.toList)) ++ "\n"

def parse (entryPoint : EntryPoint) : Except EntryPointError Function :=
  if entryPoint.documentation.getLast? ≠ some terminator then .error .unterminated
  else
    match Statement.ofText entryPoint.code with
    | .error error => .error (.source error)
    | .ok statement =>
      match statement.function? with
      | some function => .ok function
      | none => .error (.source .malformed)

end EntryPoint

end ModuleGlue.Expansion
