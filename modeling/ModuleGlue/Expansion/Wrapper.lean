import ModuleGlue.Text.Quoted
import ModuleGlue.Directive.Options
import ModuleGlue.Expansion.Template

/-!
Contract: wrappers of exported functions.

A wrapper is a function that takes the module. It holds a copy of the exported function, and returns
what the runtime makes of the copy:

    def __pyglue_get_function_add(_pyglue_module):
        def add(a, b):
            return a + b
        return _pyglue.PyCFunction(add, name='add', module=_pyglue_module)

Because it holds a copy, it can be used before the exported function itself is defined.

Owns: the names of wrappers, the call to the runtime, and the rule that a function which is to
receive the module has a parameter for it.
-/

namespace ModuleGlue.Expansion

open ModuleGlue.Text
open ModuleGlue.Directive (Options)
open ModuleGlue.Source (Function Phrase Statement)

structure Wrapper where
  name : String
  definition : Function

namespace Wrapper

def parameter : String := "_pyglue_module"

def nameOf (function : String) : String := "__pyglue_get_function_" ++ function

/-- The arguments of the call to the runtime that options ask for. -/
def optionArguments (options : Options) : List Fragment :=
  (match options.textSignature with
    | none => []
    | some signature =>
      let value := match signature.value with
        | none => "None"
        | some text => String.ofList (quote text)
      [.fixed (", text_signature=" ++ value)]) ++
  (if options.passModule then [.fixed ", pass_module=True"] else [])

/-- The call to the runtime. The external name is the function's own unless an option overrides
it. -/
def call (runtime function : String) (options : Options) : List Fragment :=
  let external := options.externalName.getD function
  [.use runtime, .fixed ".PyCFunction(", .use function,
    .fixed (", name=" ++ quoteString external ++ ", module="), .use parameter] ++
    optionArguments options ++ [.fixed ")"]

/-- The wrapper of a function, given the code of the call. -/
def define (function : Function) (code : Phrase) : Wrapper :=
  let name := nameOf function.signature.name
  let copy := (function.withLeading []).toStatement
  let result : Statement := .line [] [⟨.other, verbatim "return " ++ code, []⟩] .plain
  let header := verbatim ("def " ++ name ++ "(" ++ parameter ++ "):")
  ⟨name, ⟨[], [], []⟩, ⟨name, true, header, none⟩, .block .plain none [copy, result] []⟩

/-- Builds the wrapper of a function. The runtime is any expression; the options are those of the
function's export. -/
def build (runtime : String) (function : Function) (options : Options) :
    Except Failure Wrapper := do
  let signature := function.signature
  if options.passModule && !signature.takesPositional then
    .error (.broken (.grammar (.noModuleParameter signature.name) none))
  else
    let fragments := call runtime signature.name options
    let code ← ofSource (Phrase.ofExpression (Fragment.renderAll fragments))
    return define function code

end Wrapper

end ModuleGlue.Expansion
