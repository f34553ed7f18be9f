import ModuleGlue.Text.CharClass

/-!
Contract: the margin of a text.

The margin is the indentation that all lines of a text have in common. Lines of nothing but spaces
and tabs have no say in it, and are emptied.

Owns: splitting a text into lines, its margin, and the text without the margin.
-/

namespace ModuleGlue.Text

/-- The lines of a text, without the line feeds between them. -/
def splitLines : List Char → List (List Char)
  | [] => [[]]
  | c :: rest =>
    match splitLines rest with
    | first :: others => if c = '\n' then [] :: first :: others else (c :: first) :: others
    | [] => [[c]]

def joinLines (lines : List (List Char)) : List Char := ['\n'].intercalate lines

def isIndentation (c : Char) : Bool := c == ' ' || c == '\t'

def commonPrefix : List Char → List Char → List Char
  | c :: first, d :: second => if c = d then c :: commonPrefix first second else []
  | _, _ => []

def commonPrefixOf : List (List Char) → List Char
  | [] => []
  | [text] => text
  | text :: rest => commonPrefix text (commonPrefixOf rest)

def dropMargin (text : List Char) : List Char :=
  let lines := (splitLines text).map fun line => if line.all isIndentation then [] else line
  let margin :=
    commonPrefixOf ((lines.filter (!·.isEmpty)).map fun line => line.takeWhile isIndentation)
  joinLines (lines.map fun line => line.drop (if line.isEmpty then 0 else margin.length))

end ModuleGlue.Text
