import ModuleGlue.Text.CharacterName
import ModuleGlue.Text.CodePoint
import ModuleGlue.Text.Hexadecimal

/-!
Contract: the value of a text that should be a string literal.

A text is accepted when it is a run of adjacent string literals, in any number of matching
parentheses, with blanks, comments and line breaks where an expression admits them. Each literal
is plain or raw; its value is that of the run, joined.

Owns: the delimiters, the escapes, and the layout around a literal expression.

Does not own: byte literals and formatted literals, which have no text value and are refused.
-/

namespace ModuleGlue.Text

/-- How a literal begins: its quote, once or three times, and whether backslashes are escapes. -/
structure Opening where
  quote : Char
  triple : Bool
  raw : Bool
deriving DecidableEq, Repr

def readQuotes (raw : Bool) : List Char → Option (Opening × List Char)
  | '"' :: '"' :: '"' :: rest => some (⟨'"', true, raw⟩, rest)
  | '\'' :: '\'' :: '\'' :: rest => some (⟨'\'', true, raw⟩, rest)
  | '"' :: rest => some (⟨'"', false, raw⟩, rest)
  | '\'' :: rest => some (⟨'\'', false, raw⟩, rest)
  | _ => none

/-- Reads the opening of a literal that denotes text: at most one letter, `r` or `u`. -/
def readOpening : List Char → Option (Opening × List Char)
  | 'r' :: rest => readQuotes true rest
  | 'R' :: rest => readQuotes true rest
  | 'u' :: rest => readQuotes false rest
  | 'U' :: rest => readQuotes false rest
  | text => readQuotes false text

/-- Does the closing delimiter stand at the head of the text? -/
def Opening.closes (opening : Opening) (text : List Char) : Bool :=
  (if opening.triple then [opening.quote, opening.quote, opening.quote]
    else [opening.quote]).isPrefixOf text

/-- Splits the body of a literal from what follows the closing delimiter. A backslash protects the
character after it; a literal between single delimiters cannot run over a line end. -/
def Opening.splitBody (opening : Opening) : List Char → Option (List Char × List Char)
  | [] => none
  | c :: rest =>
    if opening.closes (c :: rest) then
      some ([], (c :: rest).drop (if opening.triple then 3 else 1))
    else if c = '\n' && !opening.triple then none
    else if c = '\\' then
      match rest with
      | [] => none
      | next :: rest' =>
        (opening.splitBody rest').map fun (body, after) => (c :: next :: body, after)
    else (opening.splitBody rest).map fun (body, after) => (c :: body, after)

def octalValue? (c : Char) : Option Nat :=
  if '0' ≤ c ∧ c ≤ '7' then some (c.toNat - 48) else none

/-- The number that the longest run of at most `width` octal digits spells, and the rest. -/
def readOctal : Nat → Nat → List Char → Nat × List Char
  | 0, value, text => (value, text)
  | _ + 1, value, [] => (value, [])
  | width + 1, value, c :: rest =>
    match octalValue? c with
    | some digit => readOctal width (value * 8 + digit) rest
    | none => (value, c :: rest)

def readName : List Char → Option (List Char × List Char)
  | '\x7b' :: rest =>
    match rest.dropWhile (· != '\x7d') with
    | _ :: after => some (rest.takeWhile (· != '\x7d'), after)
    | [] => none
  | _ => none

/-- What one escape denotes. The text starts after the backslash; an escape of no known kind
stands for itself, backslash included. -/
def readEscape : List Char → Option (Points × List Char)
  | [] => none
  | '\n' :: rest => some ([], rest)
  | '\\' :: rest => some ([.ofChar '\\'], rest)
  | '\'' :: rest => some ([.ofChar '\''], rest)
  | '"' :: rest => some ([.ofChar '"'], rest)
  | 'a' :: rest => some ([.ofChar '\x07'], rest)
  | 'b' :: rest => some ([.ofChar '\x08'], rest)
  | 'f' :: rest => some ([.ofChar '\x0c'], rest)
  | 'n' :: rest => some ([.ofChar '\n'], rest)
  | 'r' :: rest => some ([.ofChar '\r'], rest)
  | 't' :: rest => some ([.ofChar '\t'], rest)
  | 'v' :: rest => some ([.ofChar '\x0b'], rest)
  | 'x' :: rest => numbered 2 rest
  | 'u' :: rest => numbered 4 rest
  | 'U' :: rest => numbered 8 rest
  | 'N' :: rest => named rest
  | c :: rest =>
    match octalValue? c with
    | some digit =>
      let (value, after) := readOctal 2 digit rest
      (CodePoint.ofNat? value).map fun point => ([point], after)
    | none => some ([.ofChar '\\', .ofChar c], rest)
where
  numbered (width : Nat) (text : List Char) : Option (Points × List Char) :=
    (readHex width 0 text).bind fun (value, after) =>
      (CodePoint.ofNat? value).map fun point => ([point], after)
  named (text : List Char) : Option (Points × List Char) :=
    (readName text).bind fun (name, after) =>
      ((characterNamed? name).bind CodePoint.ofNat?).map fun point => ([point], after)

/-- Replaces the escapes of a literal's body by what they denote. The fuel bounds the number of
characters; the length of the body is always enough. -/
def unescapeWithin : Nat → List Char → Option Points
  | _, [] => some []
  | 0, _ :: _ => none
  | fuel + 1, '\\' :: rest =>
    (readEscape rest).bind fun (points, after) =>
      (unescapeWithin fuel after).map (points ++ ·)
  | fuel + 1, c :: rest => (unescapeWithin fuel rest).map (.ofChar c :: ·)

def unescape (body : List Char) : Option Points := unescapeWithin body.length body

/-- Reads one literal: its value and the text after it. -/
def readLiteral (text : List Char) : Option (Points × List Char) := do
  let (opening, afterOpening) ← readOpening text
  let (body, rest) ← opening.splitBody afterOpening
  let value ← if opening.raw then some (Points.ofList body) else unescape body
  some (value, rest)

/-! ## Layout around the literals -/

def unifyLineEnds : List Char → List Char
  | [] => []
  | '\r' :: '\n' :: rest => '\n' :: unifyLineEnds rest
  | '\r' :: rest => '\n' :: unifyLineEnds rest
  | c :: rest => c :: unifyLineEnds rest

def isSpacing (c : Char) : Bool := c == ' ' || c == '\t' || c == '\x0c'

def toLineEnd (text : List Char) : List Char := text.dropWhile (· != '\n')

/-- Skips blanks and continued lines; inside parentheses also comments and line ends. A backslash
must be followed by a line end, and that by more text. -/
def skipSpacing (inside : Bool) : List Char → Option (List Char)
  | [] => some []
  | '\\' :: '\n' :: c :: rest => skipSpacing inside (c :: rest)
  | '\\' :: _ => none
  | c :: rest =>
    if isSpacing c || (inside && c == '\n') then skipSpacing inside rest
    else some (c :: rest)

/-- Skips layout inside parentheses, comments included. The fuel counts comments. -/
def skipInside : Nat → List Char → Option (List Char)
  | 0, _ => none
  | fuel + 1, text =>
    (skipSpacing true text).bind fun rest =>
      match rest with
      | '#' :: comment => skipInside fuel (toLineEnd comment)
      | _ => some rest

def skipLayout (inside : Bool) (text : List Char) : Option (List Char) :=
  if inside then skipInside (text.length + 1) text else skipSpacing false text

/-- The column at which the text of a line begins, and that text. A form feed starts the count
again; a continued line counts on, from the column of its first backslash if that is not zero. -/
def lineIndent (column : Nat) (continued : Nat) : List Char → Option (Nat × List Char)
  | ' ' :: rest => lineIndent (column + 1) continued rest
  | '\t' :: rest => lineIndent ((column / 8 + 1) * 8) continued rest
  | '\x0c' :: rest => lineIndent 0 continued rest
  | '\\' :: '\n' :: c :: rest =>
    lineIndent column (if continued = 0 then column else continued) (c :: rest)
  | '\\' :: _ => none
  | rest => some (if continued = 0 then column else continued, rest)

/-- Skips lines without code. The next code, or the end of the text, must not be indented. -/
def skipLines : Nat → List Char → Option (List Char)
  | 0, _ => none
  | fuel + 1, text =>
    (lineIndent 0 0 text).bind fun (column, rest) =>
      match rest with
      | '\n' :: after => skipLines fuel after
      | '#' :: comment =>
        match toLineEnd comment with
        | [] => some []
        | _ :: after => skipLines fuel after
      | _ => if column = 0 then some rest else none

/-- Reads opening parentheses: their number and the text after them. -/
def readParentheses : Nat → List Char → Option (Nat × List Char)
  | 0, _ => none
  | fuel + 1, '(' :: rest =>
    (skipLayout true rest).bind fun after =>
      (readParentheses fuel after).map fun (count, final) => (count + 1, final)
  | _ + 1, text => some (0, text)

/-- Reads as many literals as stand next to each other, and joins their values. -/
def readLiterals (inside : Bool) : Nat → List Char → Option (Points × List Char)
  | 0, _ => none
  | fuel + 1, text => do
    let (value, rest) ← readLiteral text
    let after ← skipLayout inside rest
    match readOpening after with
    | none => some (value, after)
    | some _ =>
      let (more, final) ← readLiterals inside fuel after
      some (value ++ more, final)

def readClosings : Nat → List Char → Option (List Char)
  | 0, text => some text
  | count + 1, ')' :: rest => (skipLayout (0 < count) rest).bind (readClosings count)
  | _ + 1, _ => none

def onlyLayoutFollows (text : List Char) : Bool :=
  match text with
  | [] => true
  | '\n' :: rest => skipLines (rest.length + 1) rest == some []
  | '#' :: comment =>
    match toLineEnd comment with
    | [] => true
    | _ :: rest => skipLines (rest.length + 1) rest == some []
  | _ => false

/-- The text that a literal expression denotes, if it is one. -/
def literalValue? (text : List Char) : Option Points := do
  guard (!text.contains '\x00')
  let unified := unifyLineEnds (text.dropWhile fun c => c == ' ' || c == '\t')
  let bound := unified.length + 1
  let start ← skipLines bound unified
  let (depth, opened) ← readParentheses bound start
  let (value, afterLiterals) ← readLiterals (0 < depth) bound opened
  let rest ← readClosings depth afterLiterals
  guard (onlyLayoutFollows rest)
  some value

end ModuleGlue.Text
