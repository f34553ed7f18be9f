import ModuleGlue.Command.Word
import ModuleGlue.Files.Path
import ModuleGlue.Settings.Validation

/-!
Contract: what a command line asks for.

Owns: the commands with their operands and options, reading them, and the cases in which there is
nothing to run.

Does not own: what the commands do.
-/

namespace ModuleGlue.Command

open ModuleGlue.Files (Path)
open ModuleGlue.Settings (Table)

inductive Request where
  /-- Expand `input`, into `output` if that is given, under settings that take precedence. -/
  | convert (input : Path) (output : Option Path) (overrides : Table)
  /-- Look for errors in `input`; with `strict`, deprecations count as errors. -/
  | check (input : Path) (overrides : Table) (strict : Bool)

inductive Stop where
  /-- The version is asked for. -/
  | version
  /-- Help is asked for. -/
  | help
  /-- The command line makes no sense. -/
  | misuse
deriving DecidableEq, Repr

def helpNames : List String := ["-h", "--help"]

def versionName : String := "--version"

def readHelp (attached : Option String) : Stop := if attached.isNone then .help else .misuse

/-- The short option that asks for help may be repeated within a word, and letters that are no
option after it do not matter. -/
def readHelpTail : List Char → Stop
  | [] => .help
  | '-' :: _ => .misuse
  | 'h' :: '=' :: _ => .misuse
  | 'h' :: rest => readHelpTail rest
  | _ => .help

structure OptionKind where
  name : String
  takesValue : Bool
deriving DecidableEq, Repr

structure Reading where
  operand : Option String
  /-- The options with their values, last first; one that takes none has an empty value. -/
  options : List (String × String)
  /-- Is there a word too many? -/
  excess : Bool

def Reading.value? (reading : Reading) (name : String) : Option String :=
  reading.options.lookup name

def Reading.add (reading : Reading) (name value : String) : Reading :=
  { reading with options := (name, value) :: reading.options }

def Reading.has (reading : Reading) (name : String) : Bool := (reading.value? name).isSome

/-- Words without the separator that they may begin with. -/
def skipSeparator : List Word → List Word
  | .separator :: rest => rest
  | words => words

theorem length_skipSeparator_le (words : List Word) :
    (skipSeparator words).length ≤ words.length := by
  unfold skipSeparator
  split <;> simp

/-- Reads the words of a command that takes one operand. The separator may stand before the operand
or right after it. -/
def readWords (kinds : List OptionKind) (words : List Word) (reading : Reading) :
    Except Stop Reading :=
  match words with
  | [] => .ok reading
  | .option name attached :: rest =>
    if helpNames.contains name then .error (readHelp attached)
    else if kinds.contains ⟨name, true⟩ then
      match attached, rest with
      | some value, rest => readWords kinds rest (reading.add name value)
      | none, .operand value :: rest => readWords kinds rest (reading.add name value)
      | none, _ => .error .misuse
    else if attached.isSome then .error .misuse
    else readWords kinds rest (reading.add name "")
  | .cluster _ tail :: _ => .error (readHelpTail tail)
  | .operand text :: rest =>
    if reading.operand.isNone then
      readWords kinds (skipSeparator rest) { reading with operand := some text }
    else readWords kinds rest { reading with excess := true }
  | .separator :: rest =>
    readWords kinds rest { reading with excess := reading.excess || reading.operand.isSome }
  | .unknown _ :: rest => readWords kinds rest { reading with excess := true }
termination_by words.length
decreasing_by
  all_goals simp only [List.length_cons]
  all_goals first
    | omega
    | exact Nat.lt_succ_of_le (length_skipSeparator_le rest)

/-- Reads the arguments of a command, and gives its operand with the rest. -/
def readArguments (kinds : List OptionKind) (arguments : List String) :
    Except Stop (String × Reading) :=
  match Word.ofTexts? (helpNames ++ kinds.map OptionKind.name) arguments with
  | none => .error .misuse
  | some words => do
    let reading ← readWords kinds words ⟨none, [], false⟩
    match reading.operand with
    | some operand => .ok (operand, reading)
    | none => .error .misuse

def convertKinds : List OptionKind :=
  [⟨"--out", true⟩, ⟨"--runtime-alias", true⟩, ⟨"--runtime-module", true⟩, ⟨"--fail-fast", false⟩,
    ⟨"--no-init", false⟩]

def checkKinds : List OptionKind := [⟨"--fail-fast", false⟩, ⟨"--strict", false⟩]

def Reading.setText (reading : Reading) (name : String) (key : Settings.Key) : Table :=
  ((reading.value? name).map fun value => (key.word, .text value)).toList

def Reading.setTruth (reading : Reading) (name : String) (key : Settings.Key) (value : Bool) :
    Table :=
  if reading.has name then [(key.word, .truth value)] else []

/-- What the arguments of a command ask for, and whether there is a word too many. -/
def readRequest (command : String) (arguments : List String) : Except Stop (Request × Bool) :=
  match command with
  | "convert" => do
    let (input, reading) ← readArguments convertKinds arguments
    let overrides := reading.setText "--runtime-alias" .runtimeAlias ++
      reading.setText "--runtime-module" .runtimeModule ++
      reading.setTruth "--fail-fast" .failFast true ++
      reading.setTruth "--no-init" .entryPoints false
    return (.convert (.ofText input) ((reading.value? "--out").map Path.ofText) overrides,
      reading.excess)
  | "check" => do
    let (input, reading) ← readArguments checkKinds arguments
    return (.check (.ofText input) (reading.setTruth "--fail-fast" .failFast true)
      (reading.has "--strict"), reading.excess)
  | _ => .error .misuse

def readCommand (excess : Bool) : List (Word × String) → Except Stop Request
  | [] => .error .misuse
  | (.option name attached, _) :: _ =>
    if name = versionName then .error (if attached.isNone then .version else .misuse)
    else .error (readHelp attached)
  | (.cluster _ tail, _) :: _ => .error (readHelpTail tail)
  | (.unknown _, _) :: rest => readCommand true rest
  | (.separator, _) :: _ => .error .misuse
  | (.operand command, _) :: rest => do
    let (request, more) ← readRequest command (rest.map Prod.snd)
    if excess || more then .error .misuse else .ok request

def Request.ofArguments (arguments : List String) : Except Stop Request :=
  match Word.ofTexts? (helpNames ++ [versionName]) arguments with
  | none => .error .misuse
  | some words => readCommand false (words.zip arguments)

end ModuleGlue.Command
