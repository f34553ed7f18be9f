import ModuleGlue.Double

/-!
Contract: the settings of an expansion, and the values that can be given for them.

Owns: the settings and their defaults; the kinds of value that a settings file or a caller can give,
and tables of them.

Does not own: where settings come from, how a file spells values, and which of them are valid.
-/

namespace ModuleGlue

/-- How code is expanded. -/
structure Settings where
  /-- What generated code calls the runtime. -/
  runtimeAlias : String
  /-- The module from which expanded files import the runtime, if they do. -/
  runtimeModule : Option String
  /-- Does the first error end an expansion? -/
  failFast : Bool
  /-- Does every module get an entry point? -/
  entryPoints : Bool
deriving DecidableEq, Repr

namespace Settings

def default : Settings := ⟨"_pyglue", none, false, true⟩

/-! ## Values before they are validated -/

inductive Value where
  | null
  | truth (value : Bool)
  | integer (value : Int)
  /-- A number with a point or an exponent. -/
  | real (value : Double)
  | text (value : String)
  /-- A date, a time, or both. -/
  | moment (text : String)
  | list (items : List Value)
  | table (entries : List (String × Value))
deriving Repr, Inhabited

/-- Values under keys, in the order in which they were given. -/
abbrev Table := List (String × Value)

end Settings

end ModuleGlue
