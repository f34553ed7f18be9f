import ModuleGlue.Deprecation
import ModuleGlue.Text.Quoted

/-!
Contract: what can be wrong with an annotation.

A diagnostic says which family of rules was broken, the cause, the place, and the deprecations
that were recorded before it arose. It concerns one annotation or one statement; whether the
others go on is the decision of whoever collects it.

Owns: the causes and the wording of each.
-/

namespace ModuleGlue

inductive Family where
  /-- A rule of no narrower family. -/
  | general
  /-- The grammar of annotation arguments. -/
  | grammar
  /-- The rule that a legacy positional name is an identifier. -/
  | legacyName
  /-- The rule that an annotation is given once. -/
  | duplicate
deriving DecidableEq, Repr

/-- The rule that was broken, with the text that broke it. -/
inductive Cause where
  /-- Something else, or nothing, stood where `what` had to stand. -/
  | expected (what : String) (found : Option String)
  | notStringLiteral
  /-- The text denoted by a literal is no name. -/
  | notIdentifier (text : Text.Points)
  | unknownOption (key : String)
  | repeatedOption (key : String)
  | noModulePath
  | repeatedExport
  /-- A function that is to receive the module has no parameter for it. -/
  | noModuleParameter (function : String)
  | moduleArguments
  | moduleOptions
  /-- A rule of a caller's own. -/
  | custom (message : String)
deriving DecidableEq, Repr

namespace Cause

/-- The keys that an option list may hold, as they are listed to the user. -/
def optionKeys : List String := ["name", "text_signature", "pass_module"]

def ticked (text : String) : String := "`" ++ text ++ "`"

def message : Cause → String
  | .expected what (some found) => "expected " ++ what ++ ", found " ++ ticked found
  | .expected what none => "expected " ++ what ++ ", found end of input"
  | .notStringLiteral => "expected string literal"
  | .notIdentifier text => "expected identifier, found " ++ String.ofList (Text.quote text)
  | .unknownOption key =>
    "unknown option " ++ ticked key ++ ", expected one of " ++
      String.intercalate ", " (optionKeys.map ticked)
  | .repeatedOption key => ticked key ++ " may only be specified once"
  | .noModulePath => "expected module as first argument to @pyfn()"
  | .repeatedExport => "`@pyfn` may only be specified once"
  | .noModuleParameter function =>
    "expected " ++ ticked function ++
      " to take the module as its first argument when `pass_module` is set"
  | .moduleArguments => "@pymodule takes no arguments, use @pyglue(name = \"...\") instead"
  | .moduleOptions => "only `name` is supported on @pymodule"
  | .custom message => message

end Cause

/-- A broken rule, the place of the breach, and the deprecations recorded before it. -/
structure Diagnostic where
  family : Family
  cause : Cause
  span : Option Span
  deprecations : Option (List Deprecation)
deriving DecidableEq, Repr

namespace Diagnostic

def grammar (cause : Cause) (span : Option Span) : Diagnostic := ⟨.grammar, cause, span, none⟩

def message (diagnostic : Diagnostic) : String := diagnostic.cause.message

def render (diagnostic : Diagnostic) : String := located diagnostic.span diagnostic.message

def recorded (diagnostic : Diagnostic) : List Deprecation := diagnostic.deprecations.getD []

end Diagnostic

end ModuleGlue
