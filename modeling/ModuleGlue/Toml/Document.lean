import ModuleGlue.Toml.Number

/-!
Contract: documents of the settings format.

A document is a sequence of lines. A line gives a value to a key, or opens a table, or opens a new
table at the end of a list of tables. No value is given twice; a table that was opened, or built by
a dotted key in an earlier section, is not opened again; and what was written as one value, a list
or a table in braces, is not added to.

Owns: values of any kind, the lines, and these three rules.

Does not own: what the keys mean.
-/

namespace ModuleGlue.Toml

open ModuleGlue.Settings (Value Table)

/-! ## Tables -/

/-- Puts a value under a key that is in the table, or at the end. -/
def put (table : Table) (key : String) (value : Value) : Table :=
  if table.any (·.1 == key) then
    table.map fun entry => if entry.1 == key then (key, value) else entry
  else table ++ [(key, value)]

def changeLast (change : Value → Option Value) : List Value → Option (List Value)
  | [] => none
  | [last] => (change last).map ([·])
  | first :: second :: rest => (changeLast change (second :: rest)).map (first :: ·)

/-- Changes the table under a path, which is created if need be. A list on the way stands for its
last table, where that is allowed. -/
def changeAt (throughLists : Bool) (change : Table → Option Table) : Key → Table → Option Table
  | [], table => change table
  | key :: path, table =>
    let within : Value → Option Value
      | .table entries => (changeAt throughLists change path entries).map .table
      | _ => none
    let changed : Option Value :=
      match table.lookup key with
      | none => within (.table [])
      | some (.list items) =>
        if throughLists then (changeLast within items).map .list else none
      | some value => within value
    changed.map (put table key)

def addNew (key : String) (value : Value) (table : Table) : Option Table :=
  if table.any (·.1 == key) then none else some (table ++ [(key, value)])

/-- Adds an empty table to the list under a key, which is created if need be. -/
def addTable (key : String) (table : Table) : Option Table :=
  match table.lookup key with
  | none => some (table ++ [(key, .list [.table []])])
  | some (.list items) => some (put table key (.list (items ++ [.table []])))
  | some _ => none

def isNested : Value → Bool
  | .table _ => true
  | .list _ => true
  | _ => false

def splitLast : Key → Key × String
  | [] => ([], "")
  | [last] => ([], last)
  | first :: second :: rest =>
    let (front, last) := splitLast (second :: rest)
    (first :: front, last)

/-- Adds a value under a key of a table in braces, where no value that was written as one is added
to. -/
def addEntry (sealedKeys : List Key) (key : Key) (value : Value) (table : Table) : Option Table :=
  if sealedKeys.any (·.isPrefixOf key) then none
  else
    let (path, last) := splitLast key
    changeAt false (addNew last value) path table

/-! ## Values -/

def scanText : Scan Value := fun text =>
  (scanString text).map fun (characters, rest) => (.text (String.ofList characters), rest)

mutual

/-- A value within brackets. The fuel bounds the nesting and the number of items. -/
def readValue (limits : Limits) : Nat → List Bracket → Read Value
  | 0, _, _ => .error .malformed
  | fuel + 1, around, text =>
    if limits.nesting around text then
      match text with
      | '"' :: _ => required (scanText text)
      | '\'' :: _ => required (scanText text)
      | 't' :: 'r' :: 'u' :: 'e' :: rest => .ok (.truth true, rest)
      | 'f' :: 'a' :: 'l' :: 's' :: 'e' :: rest => .ok (.truth false, rest)
      | '[' :: rest => do
        let (items, after) ← readItems limits fuel (.list :: around) rest
        return (.list items, after)
      | '\x7b' :: rest =>
        match skipBlanks rest with
        | '\x7d' :: after => .ok (.table [], after)
        | start => readEntries limits fuel (.table :: around) [] [] start
      | _ => readScalar limits text
    else .error (.tooMuch .nesting)

/-- The items of a list, behind its bracket or behind a comma. -/
def readItems (limits : Limits) : Nat → List Bracket → Read (List Value)
  | 0, _, _ => .error .malformed
  | fuel + 1, around, text => do
    match ← required (skipLayout (text.length + 1) text) with
    | ']' :: after => return ([], after)
    | start =>
      let (first, rest) ← readValue limits fuel around start
      match ← required (skipLayout (rest.length + 1) rest) with
      | ']' :: after => return ([first], after)
      | ',' :: after =>
        let (others, final) ← readItems limits fuel around after
        return (first :: others, final)
      | _ => .error .malformed

/-- The entries of a table in braces, from one of them on; `sealedKeys` holds the keys whose values
must not be added to. -/
def readEntries (limits : Limits) : Nat → List Bracket → List Key → Table → Read Value
  | 0, _, _, _, _ => .error .malformed
  | fuel + 1, around, sealedKeys, table, text => do
    match ← required (scanKey (text.length + 1) text) with
    | (key, '=' :: start) =>
      let (value, afterValue) ← readValue limits fuel around (skipBlanks start)
      let changed ← required (addEntry sealedKeys key value table)
      match skipBlanks afterValue with
      | '\x7d' :: after => return (.table changed, after)
      | ',' :: after =>
        let sealedKeys := if isNested value then key :: sealedKeys else sealedKeys
        readEntries limits fuel around sealedKeys changed (skipBlanks after)
      | _ => .error .malformed
    | _ => .error .malformed

end

/-! ## Lines -/

structure Progress where
  table : Table
  /-- The table that the current section is about. -/
  section_ : Key
  /-- Tables that must not be opened again. -/
  opened : List Key
  /-- Tables that must not be opened again from the next section on. -/
  dotted : List Key
  /-- Values that must not be added to. -/
  sealedKeys : List Key

namespace Progress

def start : Progress := ⟨[], [], [], [], []⟩

/-- Is the table under a key part of a value that must not be added to? -/
def isSealed (progress : Progress) (key : Key) : Bool := progress.sealedKeys.any (·.isPrefixOf key)

def endSection (progress : Progress) : Progress :=
  { progress with opened := progress.opened ++ progress.dotted, dotted := [] }

def openTable (key : Key) (progress : Progress) : Option Progress :=
  if progress.opened.contains key || progress.isSealed key then none
  else
    (changeAt true some key progress.table).map fun table =>
      { progress with table, section_ := key, opened := key :: progress.opened }

/-- Opens a new table at the end of a list. What was opened in the table before it can be opened
again. -/
def openItem (key : Key) (progress : Progress) : Option Progress :=
  if progress.isSealed key then none
  else
    let (path, last) := splitLast key
    (changeAt true (addTable last) path progress.table).map fun table =>
      { progress with
        table
        section_ := key
        opened := key :: progress.opened.filter (!key.isPrefixOf ·)
        sealedKeys := progress.sealedKeys.filter (!key.isPrefixOf ·) }

/-- The beginnings of a key that are tables if it has a value: all but the key itself. -/
def properBeginnings (key : Key) : List Key := (List.range key.length).tail.map key.take

def assign (key : Key) (value : Value) (progress : Progress) : Option Progress :=
  let beginnings := (properBeginnings key).map (progress.section_ ++ ·)
  let (path, last) := splitLast key
  let parent := progress.section_ ++ path
  if beginnings.any progress.opened.contains || progress.isSealed parent then none
  else
    (changeAt true (addNew last value) parent progress.table).map fun table =>
      let full := progress.section_ ++ key
      { progress with
        table
        dotted := progress.dotted ++ beginnings
        sealedKeys := if isNested value then full :: progress.sealedKeys else progress.sealedKeys }

end Progress

/-- Reads the key of a section and its closing bracket, single or double. -/
def scanSection (closing : List Char) : Scan Key := fun text => do
  let start := skipBlanks text
  let (key, rest) ← scanKey (start.length + 1) start
  guard (closing.isPrefixOf rest)
  return (key, rest.drop closing.length)

def readLine (limits : Limits) (progress : Progress) (text : List Char) :
    Except Fault (Progress × List Char) := do
  match text with
  | '[' :: '[' :: rest =>
    let (key, after) ← required (scanSection [']', ']'] rest)
    return (← required (progress.endSection.openItem key), after)
  | '[' :: rest =>
    let (key, after) ← required (scanSection [']'] rest)
    return (← required (progress.endSection.openTable key), after)
  | '#' :: _ => return (progress, text)
  | _ =>
    match ← required (scanKey (text.length + 1) text) with
    | (key, '=' :: start) =>
      let (value, after) ← readValue limits (2 * text.length + 1) [] (skipBlanks start)
      return (← required (progress.assign key value), after)
    | _ => .error .malformed

/-- Reads lines to the end of the text. The fuel bounds their number. -/
def readLines (limits : Limits) : Nat → Progress → List Char → Except Fault Progress
  | 0, _, _ => .error .malformed
  | fuel + 1, progress, text =>
    match skipBlanks text with
    | [] => .ok progress
    | '\n' :: rest => readLines limits fuel progress rest
    | start => do
      let (progress, rest) ← readLine limits progress start
      match ← required (skipComment (skipBlanks rest)) with
      | [] => return progress
      | '\n' :: after => readLines limits fuel progress after
      | _ => .error .malformed

/-- Every carriage return with a line feed behind it as a line feed alone. -/
def unifyBreaks : List Char → List Char
  | '\r' :: '\n' :: rest => '\n' :: unifyBreaks rest
  | c :: rest => c :: unifyBreaks rest
  | [] => []

def parse (limits : Limits) (text : String) : Except Fault Table := do
  let unified := unifyBreaks text.toList
  let progress ← readLines limits (unified.length + 1) .start unified
  return progress.table

end ModuleGlue.Toml
