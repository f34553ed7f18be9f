/-!
Contract: the text between the tokens of a source file.

A line break that is the usual one of its file is remembered as such and not by its characters, and
the indentation of a line is remembered as a flag. So layout can move with its code to another
depth or another file and still read as if written there.

Owns: line breaks, blank lines, line ends, the gap before a token; reading them from raw text; and
writing them at a given margin.

Does not own: which tokens a gap stands between.
-/

namespace ModuleGlue.Source

/-! ## Types -/

/-- The end of a line: the break that the file uses by default, or another one. -/
inductive LineBreak where
  | usual
  | exact (text : String)
deriving DecidableEq, Repr, Inhabited

/-- A line without code. `indented` tells whether it starts with the indentation of the code it
stands at; `blank` is what else stands before its comment. -/
structure BlankLine where
  indented : Bool
  blank : String
  comment : Option String
  ending : LineBreak
deriving DecidableEq, Repr, Inhabited

structure LineEnd where
  blank : String
  comment : Option String
  ending : LineBreak
deriving DecidableEq, Repr, Inhabited

/-- What stands before a token: text within a line, or, inside brackets, the end of a line, lines
without code, and the beginning of the token's line. -/
inductive Gap where
  | inline (text : String)
  | broken (first : LineEnd) (lines : List BlankLine) (indented : Bool) (last : String)
deriving DecidableEq, Repr, Inhabited

/-- How layout is written out: one step of indentation, and the usual line break. -/
structure Style where
  indent : String
  newline : String
deriving DecidableEq, Repr, Inhabited

def Gap.empty : Gap := .inline ""

def Gap.space : Gap := .inline " "

def LineEnd.plain : LineEnd := ⟨"", none, .usual⟩

def Style.standard : Style := ⟨"    ", "\n"⟩

/-! ## Writing -/

def LineBreak.render (style : Style) : LineBreak → String
  | .usual => style.newline
  | .exact text => text

def BlankLine.render (style : Style) (margin : String) (line : BlankLine) : String :=
  (if line.indented then margin else "") ++ line.blank ++ line.comment.getD "" ++
    line.ending.render style

def LineEnd.render (style : Style) (line : LineEnd) : String :=
  line.blank ++ line.comment.getD "" ++ line.ending.render style

def BlankLine.renderAll (style : Style) (margin : String) (lines : List BlankLine) : String :=
  String.join (lines.map (BlankLine.render style margin))

def Gap.render (style : Style) (margin : String) : Gap → String
  | .inline text => text
  | .broken first lines indented last =>
    first.render style ++ BlankLine.renderAll style margin lines ++
      (if indented then margin else "") ++ last

/-! ## Reading -/

/-- Splits a line break off the head of a text: a carriage return, a line feed, or both in this
order. -/
def takeBreak : List Char → Option (List Char × List Char)
  | '\r' :: '\n' :: rest => some (['\r', '\n'], rest)
  | '\r' :: rest => some (['\r'], rest)
  | '\n' :: rest => some (['\n'], rest)
  | _ => none

def isBreak (c : Char) : Bool := c == '\r' || c == '\n'

/-- The line break that a text uses first; a line feed if it has none. -/
def usualBreak (text : List Char) : List Char :=
  match takeBreak (text.dropWhile (!isBreak ·)) with
  | some (found, _) => found
  | none => ['\n']

/-- A line break as it is remembered in a file whose usual break is given. -/
def LineBreak.ofText (usual found : List Char) : LineBreak :=
  if found = usual then .usual else .exact (String.ofList found)

/-- Blanks within a line, and backslashes that join two lines. -/
def takeSpacing : List Char → List Char × List Char
  | '\\' :: '\r' :: '\n' :: rest => more ['\\', '\r', '\n'] (takeSpacing rest)
  | '\\' :: '\r' :: rest => more ['\\', '\r'] (takeSpacing rest)
  | '\\' :: '\n' :: rest => more ['\\', '\n'] (takeSpacing rest)
  | c :: rest =>
    if c = ' ' || c = '\t' || c = '\x0c' then more [c] (takeSpacing rest) else ([], c :: rest)
  | [] => ([], [])
where
  more (taken : List Char) (found : List Char × List Char) : List Char × List Char :=
    (taken ++ found.1, found.2)

/-- A comment up to the end of its line, if one stands at the head. -/
def takeComment : List Char → Option String × List Char
  | '#' :: rest =>
    (some (String.ofList ('#' :: rest.takeWhile (!isBreak ·))), rest.dropWhile (!isBreak ·))
  | text => (none, text)

/-- Reads the end of a line. At the end of the text a missing break counts as the usual one. -/
def takeLineEnd (usual : List Char) (atEnd : Bool) (text : List Char) :
    Option (LineEnd × List Char) :=
  let (blank, afterBlank) := takeSpacing text
  let (comment, rest) := takeComment afterBlank
  match takeBreak rest with
  | some (found, after) => some (⟨String.ofList blank, comment, .ofText usual found⟩, after)
  | none =>
    if atEnd && rest.isEmpty && !text.isEmpty then
      some (⟨String.ofList blank, comment, .usual⟩, [])
    else none

/-- Removes the indentation from the head of a line, if it is there. -/
def takeIndent (indent text : List Char) : Bool × List Char :=
  if indent.isPrefixOf text then (true, text.drop indent.length) else (false, text)

def takeBlankLine (usual indent : List Char) (atEnd : Bool) (text : List Char) :
    Option (BlankLine × List Char) :=
  let (indented, afterIndent) := takeIndent indent text
  if afterIndent.isEmpty && atEnd && !text.isEmpty then
    some (⟨indented, "", none, .usual⟩, [])
  else
    (takeLineEnd usual atEnd afterIndent).map fun (line, rest) =>
      (⟨indented, line.blank, line.comment, line.ending⟩, rest)

/-- Reads lines without code, as many as there are, each with the text from which it was read.
The fuel bounds their number; the length of the text is enough. -/
def takeBlankLines (usual indent : List Char) (atEnd : Bool) :
    Nat → List Char → List (BlankLine × List Char) × List Char
  | 0, text => ([], text)
  | fuel + 1, text =>
    match takeBlankLine usual indent atEnd text with
    | none => ([], text)
    | some (line, rest) =>
      let (lines, final) := takeBlankLines usual indent atEnd fuel rest
      ((line, text) :: lines, final)

/-- Lines without code at the head of a text, and the rest. -/
def takeLeading (usual indent : List Char) (atEnd : Bool) (text : List Char) :
    List BlankLine × List Char :=
  let (lines, rest) := takeBlankLines usual indent atEnd text.length text
  (lines.map Prod.fst, rest)

/-- The lines without code that still belong to a block which ends here: all up to the last one
that has the block's indentation. The others are left for what follows. -/
def takeFooter (usual indent : List Char) (atEnd : Bool) (text : List Char) :
    List BlankLine × List Char :=
  let (lines, rest) := takeBlankLines usual indent atEnd text.length text
  let belonging := (lines.reverse.dropWhile fun line => !line.1.indented).reverse
  match lines.drop belonging.length with
  | [] => (belonging.map Prod.fst, rest)
  | (_, left) :: _ => (belonging.map Prod.fst, left)

/-- Reads a gap. Only inside brackets can it run over a line end. -/
def Gap.ofText (usual indent : List Char) (inside : Bool) (text : List Char) : Gap :=
  match (if inside then takeLineEnd usual false text else none) with
  | none => .inline (String.ofList text)
  | some (first, rest) =>
    let (lines, afterLines) := takeLeading usual indent false rest
    let (indented, last) := takeIndent indent afterLines
    .broken first lines indented (String.ofList last)

end ModuleGlue.Source
