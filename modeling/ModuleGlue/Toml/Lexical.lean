import ModuleGlue.Text.Hexadecimal

/-!
Contract: keys and strings of the settings format.

A string stands between single quotes and denotes what is written, or between double quotes and may
hold escapes; with three quotes it may run over lines. A key is bare, or a string on one line; keys
are joined by dots.

Owns: these two, and the blanks and comments around them.
-/

namespace ModuleGlue.Toml

open ModuleGlue.Text (readHex)

/-- A reading of the head of a text gives a value and the rest. -/
abbrev Scan (α : Type) := List Char → Option (α × List Char)

def isBlank (c : Char) : Bool := c == ' ' || c == '\t'

/-- A control character; tabs are not counted. -/
def isControl (c : Char) : Bool := c.toNat < 32 && c != '\t' || c.toNat == 127

def skipBlanks (text : List Char) : List Char := text.dropWhile isBlank

/-- Skips a comment, if one stands at the head. It holds no control characters. -/
def skipComment : List Char → Option (List Char)
  | '#' :: rest =>
    if (rest.takeWhile (· != '\n')).any isControl then none
    else some (rest.dropWhile (· != '\n'))
  | text => some text

/-- Skips blanks, line feeds and comments. The fuel bounds the number of comments. -/
def skipLayout : Nat → List Char → Option (List Char)
  | 0, text => some text
  | fuel + 1, text =>
    match text.dropWhile fun c => isBlank c || c == '\n' with
    | '#' :: rest => (skipComment ('#' :: rest)).bind (skipLayout fuel)
    | rest => some rest

/-! ## Strings -/

/-- The character whose number is spelled by exactly `width` hexadecimal digits. -/
def scanNumbered (width : Nat) : Scan Char := fun text =>
  (readHex width 0 text).bind fun (value, rest) =>
    if value.isValidChar then some (Char.ofNat value, rest) else none

/-- What an escape denotes; the text starts behind the backslash. -/
def scanEscape : Scan Char
  | 'b' :: rest => some ('\x08', rest)
  | 't' :: rest => some ('\t', rest)
  | 'n' :: rest => some ('\n', rest)
  | 'f' :: rest => some ('\x0c', rest)
  | 'r' :: rest => some ('\r', rest)
  | '"' :: rest => some ('"', rest)
  | '\\' :: rest => some ('\\', rest)
  | 'u' :: rest => scanNumbered 4 rest
  | 'U' :: rest => scanNumbered 8 rest
  | _ => none

/-- Skips a line end that a backslash takes out of a string, with all layout after it. Only blanks
may stand before it. -/
def skipJoin (text : List Char) : Option (List Char) :=
  match text.dropWhile isBlank with
  | [] => some []
  | '\n' :: rest => some (rest.dropWhile fun c => isBlank c || c == '\n')
  | _ => none

/-- The rest of a string between double quotes. The fuel bounds the number of characters. -/
def scanBasic (multiline : Bool) : Nat → Scan (List Char)
  | 0, _ => none
  | _ + 1, [] => none
  | fuel + 1, c :: rest =>
    if c = '"' then
      if !multiline then some ([], rest)
      else if ['"', '"'].isPrefixOf rest then some ([], rest.drop 2)
      else (scanBasic multiline fuel rest).map fun (more, final) => (c :: more, final)
    else if c = '\\' then
      if multiline && rest.head?.any (fun next => isBlank next || next == '\n') then
        (skipJoin rest).bind (scanBasic multiline fuel)
      else
        (scanEscape rest).bind fun (denoted, after) =>
          (scanBasic multiline fuel after).map fun (more, final) => (denoted :: more, final)
    else if isControl c && !(multiline && c == '\n') then none
    else (scanBasic multiline fuel rest).map fun (more, final) => (c :: more, final)

/-- A string on one line between single quotes, behind the first of them. -/
def scanLiteral : Scan (List Char) := fun text =>
  match text.dropWhile (· != '\'') with
  | [] => none
  | _ :: rest =>
    let body := text.takeWhile (· != '\'')
    if body.any isControl then none else some (body, rest)

/-- A string over several lines between single quotes, behind the first three of them. -/
def scanLongLiteral : Scan (List Char)
  | [] => none
  | '\'' :: '\'' :: '\'' :: rest => some ([], rest)
  | c :: rest =>
    if isControl c && c != '\n' then none
    else (scanLongLiteral rest).map fun (more, final) => (c :: more, final)

/-- Up to two quotes may stand before the three that close a string. -/
def closeLong (quote : Char) : List Char × List Char → List Char × List Char
  | (body, first :: second :: rest) =>
    if first = quote then
      if second = quote then (body ++ [quote, quote], rest) else (body ++ [quote], second :: rest)
    else (body, first :: second :: rest)
  | (body, [first]) => if first = quote then (body ++ [quote], []) else (body, [first])
  | (body, []) => (body, [])

def skipFirstBreak : List Char → List Char
  | '\n' :: rest => rest
  | text => text

def scanString : Scan (List Char)
  | '"' :: '"' :: '"' :: rest =>
    let text := skipFirstBreak rest
    (scanBasic true (text.length + 1) text).map (closeLong '"')
  | '\'' :: '\'' :: '\'' :: rest => (scanLongLiteral (skipFirstBreak rest)).map (closeLong '\'')
  | '"' :: rest => scanBasic false (rest.length + 1) rest
  | '\'' :: rest => scanLiteral rest
  | _ => none

/-! ## Keys -/

def isKeyChar (c : Char) : Bool := c.isAlphanum || c == '-' || c == '_'

def scanKeyPart : Scan String
  | '"' :: rest => named (scanBasic false (rest.length + 1) rest)
  | '\'' :: rest => named (scanLiteral rest)
  | c :: rest =>
    if isKeyChar c then
      some (String.ofList (c :: rest.takeWhile isKeyChar), rest.dropWhile isKeyChar)
    else none
  | [] => none
where
  named (found : Option (List Char × List Char)) : Option (String × List Char) :=
    found.map fun (characters, rest) => (String.ofList characters, rest)

/-- The parts of a key; it has at least one. -/
abbrev Key := List String

/-- A key of parts joined by dots, and the blanks behind it. The fuel bounds the number of parts. -/
def scanKey : Nat → Scan Key
  | 0, _ => none
  | fuel + 1, text =>
    (scanKeyPart text).bind fun (part, rest) =>
      match skipBlanks rest with
      | '.' :: after =>
        (scanKey fuel (skipBlanks after)).map fun (parts, final) => (part :: parts, final)
      | after => some ([part], after)

end ModuleGlue.Toml
