import ModuleGlue.Text.CharClass

/-!
Contract: the words of a command line, sorted into options and other words.

An option may be shortened as long as only one option begins so, and may have its value attached
after an equals sign. Words that begin with a dash and are no option are unknown options, unless
they are numbers or hold a space. After the separator there are no options.

Owns: telling the words apart.

Does not own: which options there are, and what the words mean.
-/

namespace ModuleGlue.Command

open ModuleGlue.Text (isDecimal)

inductive Word where
  /-- A word that is no option. -/
  | operand (text : String)
  /-- The word that ends the options. -/
  | separator
  /-- An option by its full name, with the value attached to it. -/
  | option (name : String) (attached : Option String)
  /-- An option of one letter with more text right after it. -/
  | cluster (name : String) (tail : List Char)
  /-- A word that looks like an option and is none. -/
  | unknown (text : String)
deriving DecidableEq, Repr

namespace Word

def separatorText : String := "--"

/-- The text before the first equals sign and the text after it, if there is one. -/
def splitEquals (text : List Char) : List Char × Option (List Char) :=
  match text.dropWhile (· != '=') with
  | _ :: value => (text.takeWhile (· != '='), some value)
  | [] => (text, none)

/-- A negative number, written with digits and at most one point before the last of them. -/
def spellsNegativeNumber : List Char → Bool
  | '-' :: digits =>
    match digits.dropWhile isDecimal with
    | [] => !digits.isEmpty
    | '.' :: fraction => !fraction.isEmpty && fraction.all isDecimal
    | _ => false
  | _ => false

/-- A negative number, with or without a line feed after it. -/
def isNegativeNumber (text : List Char) : Bool :=
  spellsNegativeNumber (if text.getLast? = some '\n' then text.dropLast else text)

/-- The options that a word which names none of them in full may stand for. A word with two dashes
may be the beginning of a name. A word with one dash may be an option of one letter with more text
after it. -/
def candidates (names : List String) (text : List Char) : List Word :=
  match text with
  | '-' :: '-' :: _ =>
    let (start, value) := splitEquals text
    (names.filter fun name => start.isPrefixOf name.toList).map fun name =>
      .option name (value.map String.ofList)
  | '-' :: letter :: tail =>
    names.filterMap fun name =>
      if name.toList = ['-', letter] then some (.cluster name tail)
      else if text.isPrefixOf name.toList then some (.option name none)
      else none
  | _ => []

/-- The word that a text is, unless it may be one of several options. -/
def ofText? (names : List String) (text : String) : Option Word :=
  let (start, value) := splitEquals text.toList
  if !"-".toList.isPrefixOf text.toList then some (.operand text)
  else if names.contains text then some (.option text none)
  else if text = "-" then some (.operand text)
  else if value.isSome && names.contains (String.ofList start) then
    some (.option (String.ofList start) (value.map String.ofList))
  else
    match candidates names text.toList with
    | [word] => some word
    | _ :: _ :: _ => none
    | [] =>
      if isNegativeNumber text.toList || text.toList.contains ' ' then some (.operand text)
      else some (.unknown text)

def ofTexts? (names : List String) : List String → Option (List Word)
  | [] => some []
  | text :: rest =>
    if text = separatorText then some (.separator :: rest.map .operand)
    else do
      let word ← ofText? names text
      return word :: (← ofTexts? names rest)

end Word

end ModuleGlue.Command
