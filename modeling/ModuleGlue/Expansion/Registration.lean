import ModuleGlue.Directive.Export
import ModuleGlue.Expansion.Template

/-!
Contract: the statement that adds a function to its module.

    path.add_function(wrapper(path))

Owns: module paths as expressions, and the call.

Does not own: the wrapper.
-/

namespace ModuleGlue.Expansion

open ModuleGlue.Directive (ModulePath)
open ModuleGlue.Source (Statement)

/-- A name, or a member of something. -/
inductive PathExpression where
  | name (text : String)
  | member (base : PathExpression) (text : String)
deriving DecidableEq, Repr

namespace PathExpression

/-- The expression for some segments in order: each is a member of what stands before it. -/
def ofSegments (head : String) (tail : List String) : PathExpression :=
  tail.foldl member (name head)

def segments : PathExpression → List String
  | name text => [text]
  | member base text => base.segments ++ [text]

def render : PathExpression → String
  | name text => text
  | member base text => base.render ++ "." ++ text

end PathExpression

def pathExpression (path : ModulePath) : PathExpression := .ofSegments path.head path.tail

/-- The statement that calls a wrapper with the module, and adds the result to it. -/
def registration (path : ModulePath) (wrapper : String) : Statement :=
  let module := (pathExpression path).render
  simpleLine (module ++ ".add_function(" ++ wrapper ++ "(" ++ module ++ "))")

end ModuleGlue.Expansion
