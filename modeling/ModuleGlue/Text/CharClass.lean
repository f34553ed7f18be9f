import ModuleGlue.Text.WordTable
import ModuleGlue.Text.IdentifierTable
import ModuleGlue.Text.DigitTable
import ModuleGlue.Text.PrintableTable

/-!
Contract: the character classes that the formats of this library speak of, and names.

Owns: words, digits, blanks, printable characters and the two classes of identifier characters; the
spelling of identifiers, the reserved words, and the predicate that combines them. ASCII is decided
by cases, everything above it by the tables, so that facts about ASCII text need no table.

Does not own: what a format does with a class, and soft keywords (`match`, `case`, `type`, `_`),
which are names like any other.
-/

namespace ModuleGlue.Text

/-- A character of a word: a letter, a character with a numeric value, or the underscore. -/
def isWord (c : Char) : Bool :=
  if c.toNat < 128 then c.isAlphanum || c == '_' else wordTable.contains c.toNat

def isDecimal (c : Char) : Bool :=
  if c.toNat < 128 then c.isDigit else decimalTable.contains c.toNat

/-- A digit of any script, superscript and circled digits included. -/
def isDigit (c : Char) : Bool :=
  if c.toNat < 128 then c.isDigit else digitTable.contains c.toNat

/-- White space and the separators of lines, paragraphs and information units. -/
def isBlank (c : Char) : Bool :=
  let point := c.toNat
  (9 ≤ point && point ≤ 13) || (28 ≤ point && point ≤ 32) || point == 0x85 || point == 0xA0 ||
    point == 0x1680 || (0x2000 ≤ point && point ≤ 0x200A) || point == 0x2028 ||
    point == 0x2029 || point == 0x202F || point == 0x205F || point == 0x3000

def isIdentifierStart (c : Char) : Bool :=
  if c.toNat < 128 then c.isAlpha || c == '_' else identifierStartTable.contains c.toNat

def isIdentifierContinue (c : Char) : Bool :=
  if c.toNat < 128 then c.isAlphanum || c == '_' else identifierContinueTable.contains c.toNat

def isPrintable (point : Nat) : Bool :=
  if point < 128 then 32 ≤ point && point ≤ 126 else printableTable.contains point

def trimBlanks (text : List Char) : List Char :=
  ((text.dropWhile isBlank).reverse.dropWhile isBlank).reverse

/-! ## Names -/

def reservedWords : List String :=
  ["False", "None", "True", "and", "as", "assert", "async", "await", "break", "class", "continue",
    "def", "del", "elif", "else", "except", "finally", "for", "from", "global", "if", "import",
    "in", "is", "lambda", "nonlocal", "not", "or", "pass", "raise", "return", "try", "while",
    "with", "yield"]

/-- The spelling of an identifier: one start character, then continuing characters. -/
def spellsIdentifier : List Char → Bool
  | [] => false
  | first :: rest => isIdentifierStart first && rest.all isIdentifierContinue

def isIdentifier (text : String) : Bool :=
  spellsIdentifier text.toList && !reservedWords.contains text

end ModuleGlue.Text
