import ModuleGlue.Text.CharClass
import ModuleGlue.Text.CodePoint
import ModuleGlue.Text.Hexadecimal

/-!
Contract: writing text as a string literal.

Owns: the choice of the quote and the escapes. The literal is one line of printable
characters, stands between single quotes unless double quotes save an escape, and denotes exactly
the text it was written from.

Does not own: reading a literal back, which `Text.Literal` does.
-/

namespace ModuleGlue.Text

/-- The shortest numeric escape that reaches a code point. -/
def numericEscape (point : Nat) : List Char :=
  if point < 0x100 then '\\' :: 'x' :: hexDigits 2 point
  else if point < 0x10000 then '\\' :: 'u' :: hexDigits 4 point
  else '\\' :: 'U' :: hexDigits 8 point

/-- One code point inside a literal. The enclosing quote and the backslash are escaped, line ends
and tabs have letters, and what is not printable is written by number. -/
def quotePoint (quote : Char) (point : CodePoint) : List Char :=
  match point.toChar? with
  | none => numericEscape point.value
  | some c =>
    if c = quote || c = '\\' then ['\\', c]
    else if c = '\n' then ['\\', 'n']
    else if c = '\r' then ['\\', 'r']
    else if c = '\t' then ['\\', 't']
    else if isPrintable c.toNat then [c]
    else numericEscape c.toNat

/-- Single quotes, unless the text holds some and no double quote. -/
def chooseQuote (points : Points) : Char :=
  if points.contains (.ofChar '\'') && !points.contains (.ofChar '"') then '"' else '\''

def quote (points : Points) : List Char :=
  let delimiter := chooseQuote points
  delimiter :: (points.flatMap (quotePoint delimiter) ++ [delimiter])

def quoteString (text : String) : String :=
  String.ofList (quote (Points.ofString text))

end ModuleGlue.Text
