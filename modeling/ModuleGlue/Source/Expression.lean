import ModuleGlue.Source.Shape

/-!
Contract: the grammar of expressions.

Each level of precedence is a reader of its own, built on the next tighter one. Wherever an
expression contains another behind a token of its own (inside brackets, behind a unary operator,
behind `else`) the inner reader is a parameter, and the knot is tied once, by a bound on the
nesting: the number of tokens is always enough, because each step inwards takes one.

Owns: expressions with the shapes that are remembered of them, arguments, comprehensions, parameter
lists.

Does not own: statements and patterns.
-/

namespace ModuleGlue.Source

open Reader

/-- The readers for what stands inside an expression. -/
structure Inner where
  expression : Reader Shape
  disjunction : Reader Shape
  bitwiseOr : Reader Shape
  factor : Reader Shape
  /-- A replacement field of a formatted literal, behind its opening brace. -/
  field : Reader Unit

/-- Can the pending token begin an expression, or a starred one? -/
def startsExpression : Reader Bool :=
  looksAt fun token =>
    match token.kind with
    | .name =>
      isNameToken token || ["None", "True", "False", "not", "lambda", "await"].contains token.text
    | .operator => ["(", "[", "\x7b", "+", "-", "~", "...", "*"].contains token.text
    | .number => true
    | .string => true
    | .formatStart => true
    | _ => false

def endsExpressions : Reader Bool := do
  return !(← startsExpression)

namespace Inner

variable (inner : Inner)

/-! ## Lists of expressions -/

/-- Is an expression pending that is named where it stands? -/
def atNamed : Reader Bool := do
  match ← get with
  | target :: equals :: _ => return isNameToken target && isOperator ":=" equals
  | _ => return false

def named : Reader Shape := do
  if ← atNamed then
    let _ ← name
    operator ":="
    let _ ← inner.expression
    return .other
  else inner.expression

def starOr (item : Reader Shape) : Reader Shape := do
  if ← optionalOperator "*" then
    return .starred (← inner.bitwiseOr)
  else item

/-- One or more expressions; commas make a tuple of them. -/
def starExpressions : Reader Shape := do
  let (items, comma) ← items endsExpressions (inner.starOr inner.expression)
  match items, comma with
  | [single], false => return single
  | _, _ => return .listed items

/-- What may stand behind an equals sign or in a replacement field. -/
def yieldOrExpressions : Reader Shape := do
  if ← optionalKeyword "yield" then
    if ← optionalKeyword "from" then
      let _ ← inner.expression
      return .other
    else if ← startsExpression then
      let _ ← inner.starExpressions
      return .other
    else return .other
  else inner.starExpressions

def loopTargets : Reader Unit := do
  let (items, comma) ← items endsExpressions (inner.starOr inner.bitwiseOr)
  match items, comma with
  | [single], false => guard (single.isTarget true)
  | _, _ => guard (Shape.areTargets items)

def atComprehension : Reader Bool := do
  return (← atKeyword "for") || (← atKeyword "async")

def comprehensionClause : Reader Unit := do
  let _ ← optionalKeyword "async"
  keyword "for"
  inner.loopTargets
  keyword "in"
  let _ ← inner.disjunction
  let _ ← many (atKeyword "if") do
    keyword "if"
    inner.disjunction

def comprehension : Reader Unit := do
  inner.comprehensionClause
  let _ ← many atComprehension inner.comprehensionClause

/-! ## Arguments -/

/-- What has been read of an argument list: nothing but positions, a keyword, or a mapping. -/
inductive ArgumentStage where
  | positional
  | keyword
  | mapping
deriving DecidableEq

def atKeywordArgument : Reader Bool := do
  match ← get with
  | target :: equals :: _ => return isNameToken target && isOperator "=" equals
  | _ => return false

/-- One argument. Positions come before keywords, and nothing unpacked by position comes after an
unpacked mapping. -/
def argument (stage : ArgumentStage) : Reader ArgumentStage := do
  if ← optionalOperator "**" then
    let _ ← inner.expression
    return .mapping
  else if ← atOperator "*" then
    guard (stage ≠ .mapping)
    operator "*"
    let _ ← inner.expression
    return stage
  else if ← atKeywordArgument then
    let _ ← name
    operator "="
    let _ ← inner.expression
    return if stage = .mapping then .mapping else .keyword
  else
    guard (stage = .positional)
    let _ ← inner.named
    return .positional

def moreArguments : Nat → ArgumentStage → Reader Unit
  | 0, _ => return ()
  | fuel + 1, stage => do
    if ← optionalOperator "," then
      if ← atOperator ")" then return ()
      else
        let next ← inner.argument stage
        moreArguments fuel next
    else return ()

/-- Arguments up to the closing parenthesis: a comprehension alone, or a list. -/
def arguments (comprehensionAllowed : Bool) : Reader (Option Nat) := do
  if ← atOperator ")" then return none
  else
    let stage ← inner.argument .positional
    if comprehensionAllowed && (← atComprehension) then
      guard (stage = .positional)
      inner.comprehension
      return some (← left)
    else
      let firstEnd ← left
      inner.moreArguments firstEnd stage
      return some firstEnd

/-! ## Brackets -/

/-- One part of a subscript: an expression, a starred one, or a slice. -/
def slice : Reader Unit := do
  if ← optionalOperator "*" then
    let _ ← inner.expression
  else if ← atNamed then
    let _ ← inner.named
  else
    if !(← atOperator ":") then
      let _ ← inner.expression
    if ← optionalOperator ":" then
      if ← startsExpression then
        let _ ← inner.expression
      if ← optionalOperator ":" then
        if ← startsExpression then
          let _ ← inner.expression

def subscript : Reader Unit := do
  let _ ← items (atOperator "]") inner.slice
  operator "]"

def parenthesised : Reader Shape := do
  if ← optionalOperator ")" then return .enclosed []
  else if ← atKeyword "yield" then
    let _ ← inner.yieldOrExpressions
    operator ")"
    return .group .other
  else
    let first ← inner.starOr inner.named
    if ← atComprehension then
      if let .starred _ := first then failure
      inner.comprehension
      operator ")"
      return .other
    else
      let (others, trailing) ← commaList (atOperator ")") (inner.starOr inner.named) (← left)
      operator ")"
      if others.isEmpty && !trailing then
        if let .starred _ := first then failure
        return .group first
      else return .enclosed (first :: others)

def bracketed : Reader Shape := do
  if ← optionalOperator "]" then return .enclosed []
  else
    let first ← inner.starOr inner.named
    if ← atComprehension then
      if let .starred _ := first then failure
      inner.comprehension
      operator "]"
      return .other
    else
      let (others, _) ← commaList (atOperator "]") (inner.starOr inner.named) (← left)
      operator "]"
      return .enclosed (first :: others)

/-- One entry of a mapping: a pair, or another mapping to be unpacked. -/
def mappingEntry : Reader Unit := do
  if ← optionalOperator "**" then
    let _ ← inner.bitwiseOr
  else
    let _ ← inner.expression
    operator ":"
    let _ ← inner.expression

/-- What stands behind an opening brace: a mapping, a set, or a comprehension of either. -/
def braced : Reader Shape := do
  if ← optionalOperator "\x7d" then return .other
  else if ← atOperator "**" then
    let _ ← items (atOperator "\x7d") inner.mappingEntry
    operator "\x7d"
    return .other
  else
    let isNamed ← atNamed
    let first ← inner.starOr inner.named
    if ← optionalOperator ":" then
      guard !isNamed
      if let .starred _ := first then failure
      let _ ← inner.expression
      if ← atComprehension then
        inner.comprehension
      else
        let _ ← commaList (atOperator "\x7d") inner.mappingEntry (← left)
      operator "\x7d"
      return .other
    else if ← atComprehension then
      if let .starred _ := first then failure
      inner.comprehension
      operator "\x7d"
      return .other
    else
      let _ ← commaList (atOperator "\x7d") (inner.starOr inner.named) (← left)
      operator "\x7d"
      return .other

/-! ## Literals -/

def atFormatPiece : Reader Bool :=
  looksAt fun token => token.kind == .formatText || isOperator "\x7b" token

/-- Text of a formatted literal, or a replacement field in it. -/
def formatPiece : Reader Unit := do
  if ← optionalOperator "\x7b" then inner.field
  else
    let _ ← tokenIf fun token => token.kind == .formatText

def replacementField : Reader Unit := do
  let _ ← inner.yieldOrExpressions
  let _ ← optionalOperator "="
  if ← optionalOperator "!" then
    let _ ← name
  if ← optionalOperator ":" then
    let _ ← many atFormatPiece inner.formatPiece
  operator "\x7d"

def atLiteral : Reader Bool :=
  looksAt fun token => token.kind == .string || token.kind == .formatStart

def literalPiece : Reader LiteralPiece := do
  let token ← tokenIf fun token => token.kind == .string || token.kind == .formatStart
  if token.kind == .string then return ⟨token.text, false⟩
  else
    let _ ← many atFormatPiece inner.formatPiece
    let _ ← tokenIf fun token => token.kind == .formatEnd
    return ⟨"", true⟩

/-! ## Primaries -/

/-- What is no composition: a name, a constant, a literal, something in brackets. -/
def atom : Reader Shape := do
  match ← get with
  | [] => failure
  | token :: _ =>
    match token.kind with
    | .name =>
      if ["None", "True", "False"].contains token.text then
        keyword token.text
        return .other
      else return .name (← name)
    | .number =>
      let _ ← tokenIf fun token => token.kind == .number
      return .other
    | .operator =>
      if ← optionalOperator "(" then inner.parenthesised
      else if ← optionalOperator "[" then inner.bracketed
      else if ← optionalOperator "\x7b" then inner.braced
      else
        operator "..."
        return .other
    | _ => return .literals (← many atLiteral inner.literalPiece)

def atTrailer : Reader Bool := do
  return (← atOperator ".") || (← atOperator "(") || (← atOperator "[")

def trailer (base : Shape) : Reader Shape := do
  if ← optionalOperator "." then
    let _ ← name
    return .member
  else if ← optionalOperator "(" then
    let opened ← left
    let firstEnd ← inner.arguments true
    let closing ← left
    operator ")"
    return .call base.asName? ⟨opened, firstEnd, closing⟩
  else
    operator "["
    inner.subscript
    return .member

/-- Attributes, calls and subscripts, as many as there are. The fuel bounds their number. -/
def trailers : Nat → Shape → Reader Shape
  | 0, base => return base
  | fuel + 1, base => do
    if ← atTrailer then trailers fuel (← inner.trailer base) else return base

def primary : Reader Shape := do
  let awaited ← optionalKeyword "await"
  let base ← inner.atom
  let shape ← inner.trailers (← left) base
  return if awaited then .other else shape

/-! ## Operators -/

def power : Reader Shape := do
  let base ← inner.primary
  if ← optionalOperator "**" then
    let _ ← inner.factor
    return .other
  else return base

def atOneOf (operators : List String) : Reader Bool :=
  looksAt fun token => token.kind == .operator && operators.contains token.text

def signed : Reader Shape := do
  let signs ← many (atOneOf ["+", "-", "~"]) (tokenIf fun token => token.kind == .operator)
  let operand ← inner.power
  return if signs.isEmpty then operand else .other

/-- Operands of one level, with its operators between them. -/
def chain (operators : List String) (operand : Reader Shape) : Reader Shape := do
  let first ← operand
  let others ← many (atOneOf operators) do
    let _ ← tokenIf fun token => token.kind == .operator
    operand
  return if others.isEmpty then first else .other

def arithmetic : Reader Shape :=
  chain ["|"] <| chain ["^"] <| chain ["&"] <| chain ["<<", ">>"] <| chain ["+", "-"] <|
    chain ["*", "/", "//", "%", "@"] inner.signed

def atComparison : Reader Bool := do
  return (← atOneOf ["==", "!=", "<", ">", "<=", ">="]) || (← atKeyword "in") ||
    (← atKeyword "is") || (← atKeyword "not")

def comparisonOperator : Reader Unit := do
  if ← optionalKeyword "in" then return ()
  else if ← optionalKeyword "is" then
    let _ ← optionalKeyword "not"
  else if ← optionalKeyword "not" then keyword "in"
  else
    let _ ← tokenIf fun token => token.kind == .operator

def comparison : Reader Shape := do
  let first ← inner.arithmetic
  let others ← many atComparison do
    comparisonOperator
    inner.arithmetic
  return if others.isEmpty then first else .other

def negation : Reader Shape := do
  let negations ← many (atKeyword "not") (keyword "not")
  let operand ← inner.comparison
  return if negations.isEmpty then operand else .other

def joined (word : String) (operand : Reader Shape) : Reader Shape := do
  let first ← operand
  let others ← many (atKeyword word) do
    keyword word
    operand
  return if others.isEmpty then first else .other

def disjunctionOf : Reader Shape := joined "or" (joined "and" inner.negation)

/-! ## Parameters -/

structure ParameterStage where
  /-- Parameters that can be given by position. -/
  positional : Nat
  defaulted : Bool
  slash : Bool
  star : Bool
  /-- A bare star still waits for a parameter. -/
  starWaits : Bool
  mapping : Bool
deriving Inhabited

def parameterType (annotated starAllowed : Bool) : Reader Unit := do
  if annotated then
    if ← optionalOperator ":" then
      let _ ← if starAllowed then inner.starOr inner.expression else inner.expression

def parameter (annotated : Bool) (stage : ParameterStage) : Reader ParameterStage := do
  guard (!stage.mapping)
  if ← optionalOperator "/" then
    guard (0 < stage.positional && !stage.slash && !stage.star)
    return { stage with slash := true }
  else if ← optionalOperator "**" then
    guard (!stage.starWaits)
    let _ ← name
    inner.parameterType annotated false
    return { stage with mapping := true }
  else if ← optionalOperator "*" then
    guard (!stage.star)
    if ← looksAt isNameToken then
      let _ ← name
      inner.parameterType annotated true
      return { stage with star := true }
    else return { stage with star := true, starWaits := true }
  else
    let _ ← name
    inner.parameterType annotated false
    let hasDefault ← optionalOperator "="
    if hasDefault then
      let _ ← inner.expression
    if stage.star then return { stage with starWaits := false }
    else
      guard (hasDefault || !stage.defaulted)
      return { stage with positional := stage.positional + 1, defaulted := hasDefault }

/-- The parameters behind the first one, up to the closing token. -/
def moreParameters (annotated : Bool) (closing : String) :
    Nat → ParameterStage → Reader ParameterStage
  | 0, stage => return stage
  | fuel + 1, stage => do
    if ← optionalOperator "," then
      if ← atOperator closing then return stage
      else
        let next ← inner.parameter annotated stage
        moreParameters annotated closing fuel next
    else return stage

/-- A parameter list up to its closing token. Tells whether anything can be given by position. -/
def parameters (annotated : Bool) (closing : String) : Reader Bool := do
  if ← atOperator closing then return false
  else
    let first ← inner.parameter annotated ⟨0, false, false, false, false, false⟩
    let stage ← inner.moreParameters annotated closing (← left) first
    guard (!stage.starWaits)
    return 0 < stage.positional

/-! ## Expressions -/

def lambda : Reader Shape := do
  keyword "lambda"
  let _ ← inner.parameters false ":"
  operator ":"
  let _ ← inner.expression
  return .other

/-- A condition between two values, an anonymous function, or something tighter. -/
def expressionOf : Reader Shape := do
  if ← atKeyword "lambda" then inner.lambda
  else
    let value ← inner.disjunctionOf
    if ← optionalKeyword "if" then
      let _ ← inner.disjunctionOf
      keyword "else"
      let _ ← inner.expression
      return .other
    else return value

def ofDepth : Nat → Inner
  | 0 => ⟨failure, failure, failure, failure, failure⟩
  | depth + 1 =>
    let inner := ofDepth depth
    ⟨inner.expressionOf, inner.disjunctionOf, inner.arithmetic, inner.signed,
      inner.replacementField⟩

end Inner

/-- Runs a reader of expressions on the tokens of a line. -/
def readWith {α : Type} (reader : Inner → Reader α) : Reader α := do
  reader (.ofDepth ((← left) + 1))

end ModuleGlue.Source
