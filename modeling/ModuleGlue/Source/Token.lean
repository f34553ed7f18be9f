import ModuleGlue.Span
import ModuleGlue.Text.CharClass
import ModuleGlue.Source.Layout

/-!
Contract: the tokens of a line of source code.

A logical line is a sequence of tokens up to a line break outside all brackets. A formatted
literal is a sequence of tokens too: its opening, pieces of text, and replacement fields that hold
expressions; fields may hold literals in turn.

Owns: names, numbers, plain literals, the parts of formatted literals, operators; the gaps between
them; and where each stands.

Does not own: indentation, which belongs to logical lines, and the grammar.
-/

namespace ModuleGlue.Source

open ModuleGlue.Text

/-- The kinds of token. Keywords are names, brackets and punctuation are operators. -/
inductive TokenKind where
  | name
  | number
  | string
  | formatStart
  | formatText
  | formatEnd
  | operator
deriving DecidableEq, Repr, Inhabited

structure Token where
  kind : TokenKind
  text : String
  gap : Gap
  start : Position
  stop : Position
deriving DecidableEq, Repr, Inhabited

/-- What is open at some point of a line. -/
inductive Frame where
  /-- A bracket that waits for its partner. -/
  | bracket (closing : Char)
  /-- The text of a formatted literal. -/
  | literal (quote : Char) (triple raw : Bool)
  /-- The expression of a replacement field. -/
  | field
  /-- The format of a replacement field. -/
  | format
deriving DecidableEq, Repr

/-- The position after some more text; each kind of line break counts as one. -/
def advanceLines (position : Position) : List Char → Position
  | [] => position
  | '\r' :: '\n' :: rest => advanceLines ⟨position.line + 1, 0⟩ rest
  | c :: rest =>
    if isBreak c then advanceLines ⟨position.line + 1, 0⟩ rest
    else advanceLines ⟨position.line, position.column + 1⟩ rest

/-! ## Names and numbers -/

/-- A character that cannot end a name: a word character of ASCII, or anything beyond ASCII. -/
def continuesName (c : Char) : Bool := c.isAlphanum || c == '_' || 128 ≤ c.toNat

def startsName (c : Char) : Bool := c.isAlpha || c == '_' || 128 ≤ c.toNat

def takeDigits (isDigit : Char → Bool) : List Char → List Char × List Char
  | '_' :: c :: rest =>
    if isDigit c then
      let (more, final) := takeDigits isDigit rest
      ('_' :: c :: more, final)
    else ([], '_' :: c :: rest)
  | c :: rest =>
    if isDigit c then
      let (more, final) := takeDigits isDigit rest
      (c :: more, final)
    else ([], c :: rest)
  | [] => ([], [])

def takeDecimal (text : List Char) : List Char × List Char :=
  match text with
  | c :: _ => if c.isDigit then takeDigits Char.isDigit text else ([], text)
  | [] => ([], [])

def takeFraction (text : List Char) : List Char × List Char :=
  match text with
  | '.' :: rest =>
    let (digits, final) := takeDecimal rest
    ('.' :: digits, final)
  | _ => ([], text)

def takeExponent (text : List Char) : List Char × List Char :=
  match text with
  | c :: rest =>
    if c = 'e' || c = 'E' then
      let (sign, afterSign) := match rest with
        | '+' :: final => (['+'], final)
        | '-' :: final => (['-'], final)
        | _ => ([], rest)
      match takeDecimal afterSign with
      | ([], _) => ([], text)
      | (digits, final) => (c :: (sign ++ digits), final)
    else ([], text)
  | [] => ([], [])

def takeImaginary (text : List Char) : List Char × List Char :=
  match text with
  | c :: rest => if c = 'j' || c = 'J' then ([c], rest) else ([], text)
  | [] => ([], [])

/-- Is the character a digit to the base that a letter after a leading zero announces? -/
def baseDigit? (letter : Char) : Option (Char → Bool) :=
  if letter = 'x' || letter = 'X' then
    some fun c => c.isDigit || ('a' ≤ c && c ≤ 'f') || ('A' ≤ c && c ≤ 'F')
  else if letter = 'o' || letter = 'O' then some fun c => '0' ≤ c && c ≤ '7'
  else if letter = 'b' || letter = 'B' then some fun c => c == '0' || c == '1'
  else none

/-- A decimal number. A whole number with a leading zero is zero. -/
def takeDecimalNumber (text : List Char) : Option (List Char × List Char) :=
  let (whole, afterWhole) := takeDecimal text
  let (fraction, afterFraction) := takeFraction afterWhole
  let (exponent, afterExponent) := takeExponent afterFraction
  let (imaginary, rest) := takeImaginary afterExponent
  let isWhole := fraction.isEmpty && exponent.isEmpty && imaginary.isEmpty
  if isWhole && whole.head? == some '0' && whole.any (fun c => c != '0' && c != '_') then none
  else some (whole ++ fraction ++ exponent ++ imaginary, rest)

def takeNumber (text : List Char) : Option (List Char × List Char) :=
  match text with
  | '0' :: letter :: rest =>
    match baseDigit? letter with
    | some isDigit =>
      match takeDigits isDigit rest with
      | ([], _) => none
      | (digits, final) => some ('0' :: letter :: digits, final)
    | none => takeDecimalNumber text
  | _ => takeDecimalNumber text

/-! ## Literals -/

/-- The letters that may stand before a literal: whether it is formatted, and whether its
backslashes stand for themselves. -/
def literalPrefix? (letters : List Char) : Option (Bool × Bool) :=
  match letters.map Char.toLower with
  | [] => some (false, false)
  | ['u'] => some (false, false)
  | ['b'] => some (false, false)
  | ['r'] => some (false, true)
  | ['b', 'r'] => some (false, true)
  | ['r', 'b'] => some (false, true)
  | ['f'] => some (true, false)
  | ['t'] => some (true, false)
  | ['f', 'r'] => some (true, true)
  | ['r', 'f'] => some (true, true)
  | ['t', 'r'] => some (true, true)
  | ['r', 't'] => some (true, true)
  | _ => none

def takeQuotes (text : List Char) : Option (List Char × Char × Bool × List Char) :=
  match text with
  | c :: rest =>
    if c = '"' ∨ c = '\'' then
      if [c, c].isPrefixOf rest then some ([c, c, c], c, true, rest.drop 2)
      else some ([c], c, false, rest)
    else none
  | [] => none

def closingQuotes (quote : Char) (triple : Bool) : List Char :=
  if triple then [quote, quote, quote] else [quote]

/-- A backslash and what it protects: one character, or a whole line break. -/
def takeProtected : List Char → Option (List Char × List Char)
  | '\\' :: '\r' :: '\n' :: rest => some (['\\', '\r', '\n'], rest)
  | '\\' :: c :: rest => some (['\\', c], rest)
  | _ => none

/-- The body of a plain literal and its closing quotes. The fuel bounds its length. -/
def takeBody (quote : Char) (triple : Bool) : Nat → List Char → Option (List Char × List Char)
  | 0, _ => none
  | _ + 1, [] => none
  | fuel + 1, c :: rest =>
    let closing := closingQuotes quote triple
    if closing.isPrefixOf (c :: rest) then some (closing, (c :: rest).drop closing.length)
    else if isBreak c && !triple then none
    else if c = '\\' then
      (takeProtected (c :: rest)).bind fun (taken, after) =>
        (takeBody quote triple fuel after).map fun (body, final) => (taken ++ body, final)
    else (takeBody quote triple fuel rest).map fun (body, final) => (c :: body, final)

/-- The text of a formatted literal, or of a format inside one, up to a brace or the closing
quotes. Outside a format doubled braces are text. -/
def takeFormatText (quote : Char) (triple raw inFormat : Bool) :
    Nat → List Char → Option (List Char × List Char)
  | 0, _ => none
  | _ + 1, [] => none
  | fuel + 1, c :: rest =>
    let continued (taken after : List Char) : Option (List Char × List Char) :=
      (takeFormatText quote triple raw inFormat fuel after).map fun (body, final) =>
        (taken ++ body, final)
    if (closingQuotes quote triple).isPrefixOf (c :: rest) then some ([], c :: rest)
    else if c = '\x7b' || c = '\x7d' then
      if !inFormat && rest.head? == some c then continued [c, c] (rest.drop 1)
      else some ([], c :: rest)
    else if isBreak c && !triple then none
    else if c = '\\' then
      match rest with
      | 'N' :: '\x7b' :: after =>
        if raw then continued [c] rest
        else
          match after.dropWhile (· != '\x7d') with
          | [] => none
          | brace :: final =>
            continued (c :: 'N' :: '\x7b' :: (after.takeWhile (· != '\x7d') ++ [brace])) final
      | next :: _ =>
        if next = '\x7b' || next = '\x7d' then continued [c] rest
        else (takeProtected (c :: rest)).bind fun (taken, after) => continued taken after
      | [] => none
    else continued [c] rest

/-! ## Operators -/

/-- Operators, longer ones before those that begin them. -/
def operators : List (List Char) :=
  (["**=", "//=", ">>=", "<<=", "...", "==", "!=", "<=", ">=", "->", ":=", "**", "//", ">>", "<<",
    "+=", "-=", "*=", "/=", "%=", "&=", "|=", "^=", "@=", "+", "-", "*", "/", "%", "&", "|", "^",
    "~", "<", ">", ",", ":", ";", ".", "=", "@"]).map String.toList

def takeOperator (text : List Char) : Option (List Char × List Char) :=
  (operators.find? (·.isPrefixOf text)).map fun found => (found, text.drop found.length)

def closingBracket? (c : Char) : Option Char :=
  if c = '(' then some ')' else if c = '[' then some ']' else if c = '\x7b' then some '\x7d'
  else none

/-- A token before it gets its gap and place: its kind, its characters, what is open after it, and
the rest of the text. -/
structure Scanned where
  kind : TokenKind
  text : List Char
  frames : List Frame
  rest : List Char

/-- Punctuation that depends on what is open: brackets, and the parts of a replacement field. -/
def scanPunctuation (frames : List Frame) (c : Char) (rest : List Char) : Option Scanned :=
  match closingBracket? c with
  | some closing => some ⟨.operator, [c], .bracket closing :: frames, rest⟩
  | none =>
    match frames with
    | .bracket closing :: outer => if c = closing then some ⟨.operator, [c], outer, rest⟩ else none
    | .field :: outer =>
      if c = '\x7d' then some ⟨.operator, [c], outer, rest⟩
      else if c = ':' then some ⟨.operator, [c], .format :: frames, rest⟩
      else if c = '!' && rest.head? != some '=' then some ⟨.operator, [c], frames, rest⟩
      else none
    | _ => none

def scanLiteral (frames : List Frame) (letters : List Char) (text : List Char) :
    Option Scanned := do
  let (formatted, raw) ← literalPrefix? letters
  let (quotes, quote, triple, rest) ← takeQuotes text
  if formatted then
    some ⟨.formatStart, letters ++ quotes, .literal quote triple raw :: frames, rest⟩
  else
    let (body, final) ← takeBody quote triple (rest.length + 1) rest
    some ⟨.string, letters ++ quotes ++ body, frames, final⟩

/-- One token of an expression, at the head of a text without layout. -/
def scanToken (frames : List Frame) (text : List Char) : Option Scanned :=
  match text with
  | [] => none
  | c :: rest =>
    if startsName c then
      let letters := text.takeWhile continuesName
      let after := text.dropWhile continuesName
      if (takeQuotes after).isSome && (literalPrefix? letters).isSome then
        scanLiteral frames letters after
      else if spellsIdentifier letters then some ⟨.name, letters, frames, after⟩
      else none
    else if c = '"' || c = '\'' then scanLiteral frames [] text
    else if c.isDigit || (c = '.' && (rest.head?.any Char.isDigit)) then
      (takeNumber text).map fun (number, final) => ⟨.number, number, frames, final⟩
    else
      match scanPunctuation frames c rest with
      | some found => some found
      | none => (takeOperator text).map fun (found, final) => ⟨.operator, found, frames, final⟩

/-! ## Lines -/

/-- Layout inside brackets: blanks, comments, line breaks and continued lines. -/
def takeInnerLayout (inComment : Bool) : List Char → List Char × List Char
  | [] => ([], [])
  | c :: rest =>
    if inComment then more [c] (takeInnerLayout (!isBreak c) rest)
    else if c = ' ' || c = '\t' || c = '\x0c' || isBreak c then
      more [c] (takeInnerLayout false rest)
    else if c = '#' then more [c] (takeInnerLayout true rest)
    else if c = '\\' then
      match rest with
      | next :: rest' =>
        if isBreak next then more [c, next] (takeInnerLayout false rest') else ([], c :: rest)
      | [] => ([], [c])
    else ([], c :: rest)
where
  more (taken : List Char) (found : List Char × List Char) : List Char × List Char :=
    (taken ++ found.1, found.2)

/-- What every token of a line is read with: the usual line break and the indentation. -/
structure LineContext where
  usual : List Char
  indent : List Char

/-- A line of tokens, its end, and what follows it. -/
structure ScannedLine where
  tokens : List Token
  ending : LineEnd
  rest : List Char
  position : Position

def enclosingLiteral : List Frame → Option (Char × Bool × Bool)
  | [] => none
  | .literal quote triple raw :: _ => some (quote, triple, raw)
  | _ :: outer => enclosingLiteral outer

/-- One token made of characters that stand at a position. -/
def Token.place (kind : TokenKind) (text : List Char) (gap : Gap) (start : Position) : Token :=
  ⟨kind, String.ofList text, gap, start, advanceLines start text⟩

/-- A piece of a formatted literal: its text, if it has any, and the brace or the quotes that end
it. Gives the tokens and what is open after them. -/
def scanFormatPiece (frames : List Frame) (position : Position) (text : List Char) :
    Option (List Token × List Frame × List Char) := do
  let inFormat := frames.head? == some .format
  let (quote, triple, raw) ← enclosingLiteral frames
  let (piece, rest) ← takeFormatText quote triple raw inFormat (text.length + 1) text
  let pieces := if piece.isEmpty then [] else [Token.place .formatText piece .empty position]
  let stop := advanceLines position piece
  let closing := closingQuotes quote triple
  match rest with
  | '\x7b' :: after =>
    some (pieces ++ [.place .operator ['\x7b'] .empty stop], .field :: frames, after)
  | '\x7d' :: after =>
    if inFormat then
      some (pieces ++ [.place .operator ['\x7d'] .empty stop], frames.drop 2, after)
    else none
  | _ =>
    if inFormat then none
    else
      some (pieces ++ [.place .formatEnd closing .empty stop], frames.drop 1,
        rest.drop closing.length)

/-- Is the text at hand the text of a formatted literal, and not an expression? -/
def inFormatText : List Frame → Bool
  | .literal .. :: _ => true
  | .format :: _ => true
  | _ => false

/-- Reads tokens up to the end of the line. The fuel bounds the number of steps, each of which takes
some text. A continued line must be followed by more text. -/
def scanLine (context : LineContext) : Nat → List Frame → Position → List Char → Option ScannedLine
  | 0, _, _, _ => none
  | fuel + 1, frames, position, text =>
    if inFormatText frames then do
      let (pieces, frames', rest) ← scanFormatPiece frames position text
      let stop := (pieces.getLast?.map Token.stop).getD position
      let line ← scanLine context fuel frames' stop rest
      some { line with tokens := pieces ++ line.tokens }
    else
      let inside := !frames.isEmpty
      let (layout, rest) := if inside then takeInnerLayout false text else takeSpacing text
      let atLineEnd := match rest with
        | [] => true
        | c :: _ => c == '#' || isBreak c
      if atLineEnd && !inside then
        if rest.isEmpty && layout.getLast?.any isBreak then none
        else
          match takeLineEnd context.usual true text with
          | some (ending, after) =>
            let taken := text.take (text.length - after.length)
            some ⟨[], ending, after, advanceLines position taken⟩
          | none => if text.isEmpty then some ⟨[], .plain, [], position⟩ else none
      else do
        let start := advanceLines position layout
        let found ← scanToken frames rest
        let token := Token.place found.kind found.text
          (.ofText context.usual context.indent inside layout) start
        let line ← scanLine context fuel found.frames token.stop found.rest
        some { line with tokens := token :: line.tokens }

end ModuleGlue.Source
