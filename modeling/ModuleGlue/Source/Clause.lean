import ModuleGlue.Source.Pattern
import ModuleGlue.Source.Tree

/-!
Contract: the grammar of one logical line.

A line holds simple statements, or a decorator, or the header of a clause, which may be followed by
simple statements on the same line.

Owns: simple statements, headers, decorators; and what is remembered of each.

Does not own: blocks, and which clauses may follow each other.
-/

namespace ModuleGlue.Source

open Reader

inductive HeaderKind where
  | function (name : String) (takesPositional : Bool)
  | classBody
  | ifTest
  | elifTest
  | elseCase
  | forLoop
  | whileLoop
  | tryBlock
  /-- A handler; `grouped` handlers take parts of a group of errors. -/
  | exceptCase (grouped : Bool)
  | finallyCase
  | withBlock
  | matchBlock
  | caseBlock
deriving DecidableEq, Repr, Inhabited

inductive ParsedLine where
  | simple (parts : List Small)
  | decorator (decorator : Decorator)
  | header (kind : HeaderKind) (phrase : Phrase) (parts : Option (List Small))

/-! ## Simple statements -/

def updateOperators : List String :=
  ["+=", "-=", "*=", "/=", "//=", "%=", "@=", "&=", "|=", "^=", ">>=", "<<=", "**="]

/-- An expression statement, an assignment, or a declaration. -/
def expressionStatement (inner : Inner) : Reader SmallForm := do
  let first ← inner.starExpressions
  if ← optionalOperator ":" then
    guard first.isPlace
    let _ ← inner.expression
    if ← optionalOperator "=" then
      let _ ← inner.yieldOrExpressions
    return .other
  else if ← Inner.atOneOf updateOperators then
    guard first.isPlace
    let _ ← tokenIf fun token => token.kind == .operator
    let _ ← inner.yieldOrExpressions
    return .other
  else if ← atOperator "=" then
    guard first.isAssignable
    let values ← many (atOperator "=") do
      operator "="
      let yields ← atKeyword "yield"
      let value ← inner.yieldOrExpressions
      return if yields then Shape.other else value
    guard (values.dropLast.all Shape.isAssignable)
    return .other
  else
    match first.asLiterals? with
    | some pieces => return .literals pieces
    | none => return .other

def dottedPath : Reader String := do
  let first ← name
  let others ← many (atOperator ".") do
    operator "."
    name
  return String.intercalate "." (first :: others)

/-- The name that an import binds with `as`, if it does. -/
def boundName : Reader (Option String) := do
  if ← optionalKeyword "as" then return some (← name) else return none

def importedName : Reader ImportedName := do
  let path ← dottedPath
  return ⟨path, ← boundName⟩

/-- What is imported from a module: everything, or a list of names, perhaps in parentheses. -/
def importedParts : Reader Unit := do
  if ← optionalOperator "*" then return ()
  else
    let part : Reader Unit := do
      let _ ← name
      let _ ← boundName
    if ← optionalOperator "(" then
      let _ ← items (atOperator ")") part
      operator ")"
    else
      let _ ← items (return false) part

/-- An import from a module, behind its first word. The module is a path, or dots, or both. -/
def importFrom : Reader SmallForm := do
  let dots ← many (Inner.atOneOf [".", "..."]) (tokenIf fun token => token.kind == .operator)
  let path ← if ← looksAt isNameToken then some <$> dottedPath else pure none
  guard (path.isSome || !dots.isEmpty)
  keyword "import"
  importedParts
  return if path == some "__future__" then .featureImport else .other

/-- The type parameters of a function, a class or a type. -/
def typeParameters (inner : Inner) : Reader Unit := do
  if ← optionalOperator "[" then
    let _ ← items (atOperator "]") do
      if ← optionalOperator "**" then
        let _ ← name
        if ← optionalOperator "=" then
          let _ ← inner.expression
      else if ← optionalOperator "*" then
        let _ ← name
        if ← optionalOperator "=" then
          let _ ← inner.starOr inner.expression
      else
        let _ ← name
        if ← optionalOperator ":" then
          let _ ← inner.expression
        if ← optionalOperator "=" then
          let _ ← inner.expression
    operator "]"

/-- Is the definition of a type pending? The word that begins it is a name elsewhere. -/
def atTypeDefinition : Reader Bool := do
  match ← get with
  | first :: second :: _ => return isKeyword "type" first && isNameToken second
  | _ => return false

def smallStatement (inner : Inner) : Reader SmallForm := do
  if (← optionalKeyword "pass") || (← optionalKeyword "break") ||
      (← optionalKeyword "continue") then
    return .other
  else if ← optionalKeyword "return" then
    if ← startsExpression then
      let _ ← inner.starExpressions
    return .other
  else if ← optionalKeyword "raise" then
    if ← startsExpression then
      let _ ← inner.expression
      if ← optionalKeyword "from" then
        let _ ← inner.expression
    return .other
  else if (← optionalKeyword "global") || (← optionalKeyword "nonlocal") then
    let _ ← items (return false) name
    return .other
  else if ← optionalKeyword "del" then
    guard (← inner.starExpressions).isDeleted
    return .other
  else if ← optionalKeyword "assert" then
    let _ ← inner.expression
    if ← optionalOperator "," then
      let _ ← inner.expression
    return .other
  else if ← optionalKeyword "import" then
    return .imports (← items (return false) importedName).1
  else if ← optionalKeyword "from" then importFrom
  else if ← atKeyword "yield" then
    let _ ← inner.yieldOrExpressions
    return .other
  else if ← atTypeDefinition then
    keyword "type"
    let _ ← name
    typeParameters inner
    operator "="
    let _ ← inner.expression
    return .other
  else expressionStatement inner

def captured {α : Type} (reader : Reader α) : Reader (α × List Token) := do
  let before ← get
  let value ← reader
  let after ← left
  return (value, before.take (before.length - after))

def Phrase.ofTokens (tokens : List Token) : Phrase := tokens.map Token.lexeme

/-- Simple statements up to the end of the line, separated by semicolons. The fuel bounds their
number. -/
def smallStatements (inner : Inner) : Nat → Reader (List Small)
  | 0 => failure
  | fuel + 1 => do
    let (form, tokens) ← captured (smallStatement inner)
    let phrase := Phrase.ofTokens tokens
    let (separated, semicolon) ← captured (optionalOperator ";")
    let small : Small := ⟨form, phrase, Phrase.ofTokens semicolon⟩
    if (← get).isEmpty then return [small]
    else
      guard separated
      return small :: (← smallStatements inner fuel)

/-! ## Headers -/

def withItem (inner : Inner) : Reader Unit := do
  let _ ← inner.expression
  if ← optionalKeyword "as" then
    guard ((← inner.starOr inner.bitwiseOr).isTarget true)

/-- The resources of a `with` header, up to its colon. Parentheses around all of them are part of
the header if a colon follows them. -/
def withItems (inner : Inner) : Reader Unit := do
  let enclosed : Reader Unit := do
    operator "("
    let _ ← items (atOperator ")") (withItem inner)
    operator ")"
    operator ":"
  let open_ : Reader Unit := do
    let _ ← items (return false) (withItem inner)
    operator ":"
  enclosed <|> open_

/-- The header of a function, behind the word that begins it. -/
def functionHeader (inner : Inner) : Reader HeaderKind := do
  let function ← name
  typeParameters inner
  operator "("
  let takesPositional ← inner.parameters true ")"
  operator ")"
  if ← optionalOperator "->" then
    let _ ← inner.expression
  operator ":"
  return .function function takesPositional

/-- The header of a class, behind the word that begins it. -/
def classHeader (inner : Inner) : Reader HeaderKind := do
  let _ ← name
  typeParameters inner
  if ← optionalOperator "(" then
    let _ ← inner.arguments false
    operator ")"
  operator ":"
  return .classBody

/-- The header of a loop over items, behind the word that begins it. -/
def forHeader (inner : Inner) : Reader HeaderKind := do
  inner.loopTargets
  keyword "in"
  let _ ← inner.starExpressions
  operator ":"
  return .forLoop

/-- The header of a handler, behind the word that begins it. -/
def exceptHeader (inner : Inner) : Reader HeaderKind := do
  let grouped ← optionalOperator "*"
  if grouped || !(← atOperator ":") then
    let _ ← inner.expression
    if ← optionalKeyword "as" then
      let _ ← name
  operator ":"
  return .exceptCase grouped

def reservedHeader (inner : Inner) : Reader HeaderKind := do
  if ← optionalKeyword "async" then
    if ← optionalKeyword "def" then functionHeader inner
    else if ← optionalKeyword "for" then forHeader inner
    else
      keyword "with"
      withItems inner
      return .withBlock
  else if ← optionalKeyword "def" then functionHeader inner
  else if ← optionalKeyword "class" then classHeader inner
  else if ← optionalKeyword "for" then forHeader inner
  else if ← optionalKeyword "except" then exceptHeader inner
  else if ← optionalKeyword "with" then
    withItems inner
    return .withBlock
  else
    let tested (kind : HeaderKind) : Reader HeaderKind := do
      let _ ← inner.named
      operator ":"
      return kind
    let plain (kind : HeaderKind) : Reader HeaderKind := do
      operator ":"
      return kind
    if ← optionalKeyword "if" then tested .ifTest
    else if ← optionalKeyword "elif" then tested .elifTest
    else if ← optionalKeyword "while" then tested .whileLoop
    else if ← optionalKeyword "else" then plain .elseCase
    else if ← optionalKeyword "try" then plain .tryBlock
    else
      keyword "finally"
      plain .finallyCase

/-- The header of a match. It takes its whole line. -/
def matchHeader (inner : Inner) : Reader HeaderKind := do
  keyword "match"
  Pattern.subject inner
  operator ":"
  atEnd
  return .matchBlock

def caseHeader (inner : Inner) : Reader HeaderKind := do
  keyword "case"
  Pattern.patterns inner
  if ← optionalKeyword "if" then
    let _ ← inner.named
  operator ":"
  return .caseBlock

/-- A header and the simple statements that may follow it on its line. -/
def headerLine (inner : Inner) (header : Reader HeaderKind) : Reader ParsedLine := do
  let (kind, tokens) ← captured header
  let phrase := (Phrase.ofTokens tokens).flush
  if (← get).isEmpty then return .header kind phrase none
  else return .header kind phrase (some (← smallStatements inner ((← left) + 1)))

/-! ## Decorators -/

/-- The span from the first to the last of some tokens. -/
def spanOfTokens (tokens : List Token) : Option Span :=
  match tokens.head?, tokens.getLast? with
  | some first, some last => some ⟨first.start, last.stop⟩
  | _, _ => none

/-- The decorator that the tokens of a line form, given the shape of its expression. -/
def Decorator.ofTokens (tokens : List Token) (shape : Shape) : Decorator :=
  let whole : Decorator :=
    ⟨[], shape.asName?, (Phrase.ofTokens tokens).flush, [], [], .plain, spanOfTokens tokens, none⟩
  match shape.strip with
  | .call callee places =>
    let start := tokens.length - places.opened
    let stop := tokens.length - places.closing
    match places.firstEnd with
    | none => { whole with name := callee }
    | some firstEnd =>
      { whole with
        name := callee
        opening := (Phrase.ofTokens (tokens.take start)).flush
        arguments := Phrase.ofTokens ((tokens.take stop).drop start)
        closing := Phrase.ofTokens (tokens.drop stop)
        argumentPlace := spanOfTokens ((tokens.take (tokens.length - firstEnd)).drop start) }
  | _ => whole

def decoratorLine (inner : Inner) : Reader ParsedLine := do
  let tokens ← get
  operator "@"
  let shape ← inner.named
  atEnd
  return .decorator (.ofTokens tokens shape)

/-! ## Lines -/

def headerWords : List String :=
  ["async", "def", "class", "for", "except", "with", "if", "elif", "while", "else", "try",
    "finally"]

def simpleLine (inner : Inner) : Reader ParsedLine := do
  let parts ← smallStatements inner ((← left) + 1)
  match parts with
  | [] => failure
  | first :: rest => return .simple ({ first with phrase := first.phrase.flush } :: rest)

/-- A line. In the block of a match only cases may stand; the word that begins a match is a name if
the line is no header. -/
def parsedLine (inMatch : Bool) (inner : Inner) : Reader ParsedLine := do
  if inMatch then headerLine inner (caseHeader inner)
  else if ← atOperator "@" then decoratorLine inner
  else if ← looksAt (fun token => token.kind == .name && headerWords.contains token.text) then
    headerLine inner (reservedHeader inner)
  else if ← atKeyword "match" then headerLine inner (matchHeader inner) <|> simpleLine inner
  else simpleLine inner

def ParsedLine.ofTokens (inMatch : Bool) (tokens : List Token) : Option ParsedLine :=
  ((readWith (parsedLine inMatch)).run tokens).bind fun (line, rest) =>
    if rest.isEmpty then some line else none

end ModuleGlue.Source
