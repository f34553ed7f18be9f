import ModuleGlue.Source.Expression

/-!
Contract: the grammar of patterns.

A pattern is what a case of a match is written with. Nothing of it is remembered; it is only
recognised. Nested patterns are a parameter, as nested expressions are.

Owns: patterns of every kind, and the subject of a match.
-/

namespace ModuleGlue.Source

open Reader

namespace Pattern

/-- A number, perhaps with a sign, and perhaps with an imaginary part. -/
def number : Reader Unit := do
  let _ ← optionalOperator "-"
  let _ ← tokenIf fun token => token.kind == .number
  if (← atOperator "+") || (← atOperator "-") then
    let _ ← tokenIf fun token => token.kind == .operator
    let _ ← tokenIf fun token => token.kind == .number

/-- A name and attributes of it. Tells whether there are any. -/
def dotted : Reader Bool := do
  let _ ← name
  let attributes ← many (atOperator ".") do
    operator "."
    name
  return !attributes.isEmpty

/-- A constant: a number, literals, or one of three words. -/
def constant (inner : Inner) : Reader Unit := do
  match ← get with
  | [] => failure
  | token :: _ =>
    match token.kind with
    | .name =>
      guard (["None", "True", "False"].contains token.text)
      keyword token.text
    | .string => let _ ← many Inner.atLiteral inner.literalPiece
    | .formatStart => let _ ← many Inner.atLiteral inner.literalPiece
    | _ => number

/-- A pattern, or a name that takes the rest of a sequence. -/
def starOr (nested : Reader Unit) : Reader Unit := do
  if ← optionalOperator "*" then
    let _ ← name
  else nested

/-- One entry of a mapping pattern: a constant or a dotted name with a pattern, or a name that takes
the rest. -/
def mappingEntry (inner : Inner) (nested : Reader Unit) : Reader Unit := do
  if ← optionalOperator "**" then
    let _ ← name
  else
    if ← looksAt isNameToken then
      guard (← dotted)
    else constant inner
    operator ":"
    nested

/-- One argument of a class pattern. Tells whether it has a keyword. -/
def classArgument (nested : Reader Unit) : Reader Bool := do
  match ← get with
  | target :: equals :: _ =>
    if isNameToken target && isOperator "=" equals then
      let _ ← name
      operator "="
      nested
      return true
    else
      nested
      return false
  | _ =>
    nested
    return false

/-- The arguments of a class pattern, behind the opening parenthesis. Positions come first. -/
def classArguments (nested : Reader Unit) : Reader Unit := do
  if ← optionalOperator ")" then return ()
  else
    let (keywords, _) ← items (atOperator ")") (classArgument nested)
    guard ((keywords.dropWhile (!·)).all id)
    operator ")"

def closed (inner : Inner) (nested : Reader Unit) : Reader Unit := do
  if ← looksAt isNameToken then
    let _ ← dotted
    if ← optionalOperator "(" then classArguments nested
  else if ← optionalOperator "(" then
    if ← optionalOperator ")" then return ()
    else
      let start ← looksAt (isOperator "*")
      let (found, comma) ← items (atOperator ")") (starOr nested)
      guard (!start || comma || found.length != 1)
      operator ")"
  else if ← optionalOperator "[" then
    if ← optionalOperator "]" then return ()
    else
      let _ ← items (atOperator "]") (starOr nested)
      operator "]"
  else if ← optionalOperator "\x7b" then
    if ← optionalOperator "\x7d" then return ()
    else
      let _ ← items (atOperator "\x7d") (mappingEntry inner nested)
      operator "\x7d"
  else constant inner

/-- Alternatives, and perhaps a name for what they match. -/
def pattern (inner : Inner) (nested : Reader Unit) : Reader Unit := do
  closed inner nested
  let _ ← many (atOperator "|") do
    operator "|"
    closed inner nested
  if ← optionalKeyword "as" then
    let _ ← name

def ofDepth (inner : Inner) : Nat → Reader Unit
  | 0 => failure
  | depth + 1 => pattern inner (ofDepth inner depth)

/-- What stands behind the word of a case: a pattern, or a sequence without brackets. -/
def patterns (inner : Inner) : Reader Unit := do
  let nested := ofDepth inner ((← left) + 1)
  let ends : Reader Bool := do
    return (← atOperator ":") || (← atKeyword "if")
  let start ← atOperator "*"
  let (found, comma) ← items ends (starOr nested)
  guard (!start || comma || found.length != 1)

/-- The subject of a match: an expression, or several with commas. -/
def subject (inner : Inner) : Reader Unit := do
  let start ← atOperator "*"
  let (found, comma) ← items endsExpressions (inner.starOr inner.named)
  guard (!start || comma || found.length != 1)

end Pattern

end ModuleGlue.Source
