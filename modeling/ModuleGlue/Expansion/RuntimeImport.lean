import ModuleGlue.Source.Tree
import ModuleGlue.Expansion.Template

/-!
Contract: the import of the runtime.

An expanded file imports the runtime once. The import stands behind the documentation of the file
and behind all imports that switch language features, because these must come first.

Owns: whether a file imports the runtime already, and where the import goes.
-/

namespace ModuleGlue.Expansion

open ModuleGlue.Source (Small SmallForm Statement Module)

def runtimeImport (path localName : String) : Statement :=
  let code := verbatim ("import " ++ path ++ " as " ++ localName)
  .line [] [⟨.imports [⟨path, some localName⟩], code, []⟩] .plain

/-- Does the simple statement import a module under the given name? -/
def importsAs (path localName : String) (small : Small) : Bool :=
  match small.form with
  | .imports names => names.contains ⟨path, some localName⟩
  | _ => false

/-- The simple statements that stand alone on the level of the file, in a statement. -/
def simpleParts : Statement → List Small
  | .line _ parts _ => parts
  | _ => []

/-- Does a simple statement of the file import a module under the given name? -/
def alreadyImports (path localName : String) (statement : Statement) : Bool :=
  (simpleParts statement).any (importsAs path localName)

/-- Is the statement, if it is the first of its file, documentation that has its line to itself? -/
def isDocumentation (statement : Statement) : Bool :=
  match simpleParts statement with
  | [small] =>
    match small.form with
    | .literals [piece] => !piece.formatted
    | .literals _ => true
    | _ => false
  | _ => false

def switchesFeatures (statement : Statement) : Bool :=
  (simpleParts statement).any fun small => small.form == .featureImport

/-- How many statements must stay in front of the import: all up to the last one that switches
language features, and the documentation. -/
def leadingCount (body : List Statement) : Nat :=
  max (body.reverse.dropWhile (!switchesFeatures ·)).length
    (if body.head?.any isDocumentation then 1 else 0)

/-- The statements of a file with the import of the runtime among them. -/
def withRuntimeImport (path localName : String) (body : List Statement) : List Statement :=
  if body.any (alreadyImports path localName) then body
  else
    let count := leadingCount body
    body.take count ++ runtimeImport path localName :: body.drop count

end ModuleGlue.Expansion
