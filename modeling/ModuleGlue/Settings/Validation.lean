import ModuleGlue.Settings.Basic
import ModuleGlue.Text.CharClass

/-!
Contract: from values under keys to settings.

Each setting is looked up under its own key and validated by itself, so that keys of other tools
never matter and every invalid value is reported, in the order of the keys.

Owns: the keys, the rule for each of them, and what is said of a value that breaks it.

Does not own: where the values come from.
-/

namespace ModuleGlue.Settings

open ModuleGlue.Text (isIdentifier trimBlanks)

inductive Key where
  | runtimeAlias
  | runtimeModule
  | failFast
  | entryPoints
deriving DecidableEq, Repr

def Key.word : Key → String
  | .runtimeAlias => "runtime_alias"
  | .runtimeModule => "runtime_module"
  | .failFast => "fail_fast"
  | .entryPoints => "emit_init"

def Table.get? (values : Table) (key : Key) : Option Value := values.lookup key.word

/-- The value that a caller gives under a word, if one is. A null gives none. -/
def Table.given? (overrides : Table) (word : String) : Option Value :=
  match overrides.lookup word with
  | some .null => none
  | given => given

/-- Values that take precedence over those of a table. Each entry is looked up by itself. -/
def Table.override (overrides values : Table) : Table :=
  (overrides.filter fun entry => (overrides.given? entry.1).isSome) ++ values

/-- Why a value is invalid. -/
inductive Cause where
  /-- A text is needed. -/
  | notText
  /-- A truth value is needed. -/
  | notTruth
  /-- A text or number that stands for no truth value. -/
  | unreadableTruth
  /-- A text that is no name. -/
  | notName (given : String)
  /-- A text that is no dotted path of names. -/
  | notModulePath (given : String)
deriving DecidableEq, Repr

def Cause.message : Cause → String
  | .notText => "Input should be a valid string"
  | .notTruth => "Input should be a valid boolean"
  | .unreadableTruth => "Input should be a valid boolean, unable to interpret input"
  | .notName given => s!"Value error, runtime_alias must be a valid identifier, got '{given}'"
  | .notModulePath given =>
    s!"Value error, runtime_module must be a dotted module path, got '{given}'"

structure Fault where
  key : Key
  cause : Cause
deriving DecidableEq, Repr

/-- The texts that stand for a truth value, in lower case. -/
def truthWords : List (String × Bool) :=
  [("0", false), ("f", false), ("n", false), ("no", false), ("off", false), ("false", false),
    ("1", true), ("t", true), ("y", true), ("yes", true), ("on", true), ("true", true)]

/-- Zero and one stand for truth values; other whole numbers that fit a machine word are unreadable,
and larger ones are no truth values at all. -/
def readWholeTruth (value : Int) : Except Cause Bool :=
  if value = 0 then .ok false
  else if value = 1 then .ok true
  else if -9223372036854775808 ≤ value ∧ value ≤ 9223372036854775807 then .error .unreadableTruth
  else .error .notTruth

def Value.readTruth : Value → Except Cause Bool
  | .truth value => .ok value
  | .integer value => readWholeTruth value
  | .real value =>
    match value.whole? with
    | some whole => readWholeTruth whole
    | none => .error .notTruth
  | .text value =>
    match truthWords.lookup value.toLower with
    | some meaning => .ok meaning
    | none => .error .unreadableTruth
  | _ => .error .notTruth

def Value.readName : Value → Except Cause String
  | .text given =>
    let name := String.ofList (trimBlanks given.toList)
    if isIdentifier name then .ok name else .error (.notName given)
  | _ => .error .notText

def isModulePath (path : String) : Bool :=
  (path.toList.splitOn '.').all fun segment => isIdentifier (String.ofList segment)

/-- A dotted path without the blanks around it, or none if that is said outright. -/
def Value.readModulePath : Value → Except Cause (Option String)
  | .null => .ok none
  | .text given =>
    let path := String.ofList (trimBlanks given.toList)
    if isModulePath path then .ok (some path) else .error (.notModulePath given)
  | _ => .error .notText

/-- The setting under a key: its default if no value is given, and otherwise the value as `read`. -/
def Table.setting {α : Type} (values : Table) (key : Key) (default : α)
    (read : Value → Except Cause α) : Except Fault α :=
  match values.get? key with
  | none => .ok default
  | some value => (read value).mapError fun cause => ⟨key, cause⟩

def faultOf? {α : Type} : Except Fault α → Option Fault
  | .ok _ => none
  | .error fault => some fault

/-- The settings that a table of values gives, or everything that is wrong with it. -/
def Table.validate (values : Table) : Except (List Fault) Settings :=
  let name := values.setting .runtimeAlias Settings.default.runtimeAlias Value.readName
  let module := values.setting .runtimeModule Settings.default.runtimeModule Value.readModulePath
  let failFast := values.setting .failFast Settings.default.failFast Value.readTruth
  let entryPoints := values.setting .entryPoints Settings.default.entryPoints Value.readTruth
  match name, module, failFast, entryPoints with
  | .ok name, .ok module, .ok failFast, .ok entryPoints =>
    .ok ⟨name, module, failFast, entryPoints⟩
  | _, _, _, _ =>
    .error ([faultOf? name, faultOf? module, faultOf? failFast, faultOf? entryPoints].filterMap id)

end ModuleGlue.Settings
