import ModuleGlue.Source.Token

/-!
Contract: reading the tokens of a line, and what is remembered of an expression.

Expressions are carried over as text. All that is remembered of one is its shape: whether it can be
assigned to, whether it is a call and where its arguments stand, and whether it is a run of string
literals.

Owns: the reader on token lists with its small vocabulary, shapes, and the two kinds of target.

Does not own: the grammar, which is built from these.
-/

namespace ModuleGlue.Source

open ModuleGlue.Text

/-- One literal in a run of adjacent ones. A formatted literal has no fixed text. -/
structure LiteralPiece where
  text : String
  formatted : Bool
deriving DecidableEq, Repr, Inhabited

/-- Where the arguments of a call stand, each place given by the number of tokens after it. -/
structure CallPlaces where
  /-- Behind the opening parenthesis. -/
  opened : Nat
  /-- Behind the value of the first argument, if there is one. -/
  firstEnd : Option Nat
  /-- Before the closing parenthesis. -/
  closing : Nat
deriving DecidableEq, Repr, Inhabited

/-- What is remembered of an expression. -/
inductive Shape where
  | name (text : String)
  /-- An attribute or an item of something. -/
  | member
  /-- A call; `callee` is what is called if that is a name. -/
  | call (callee : Option String) (places : CallPlaces)
  | literals (pieces : List LiteralPiece)
  /-- A tuple or a list between brackets. -/
  | enclosed (items : List Shape)
  /-- A tuple without parentheses. -/
  | listed (items : List Shape)
  | starred (inner : Shape)
  /-- An expression between parentheses. -/
  | group (inner : Shape)
  | other
deriving Repr, Inhabited

namespace Shape

def strip : Shape → Shape
  | .group inner => inner.strip
  | shape => shape

def asName? (shape : Shape) : Option String :=
  match shape.strip with
  | .name text => some text
  | _ => none

/-- The literals that an expression is, parentheses aside. -/
def asLiterals? (shape : Shape) : Option (List LiteralPiece) :=
  match shape.strip with
  | .literals pieces => some pieces
  | _ => none

mutual

/-- Can the expression be unpacked into, inside brackets or on its own? `star` allows a leading
star. -/
def isTarget (star : Bool) : Shape → Bool
  | .name _ => true
  | .member => true
  | .enclosed items => areTargets items
  | .group inner => inner.isTarget false
  | .starred inner => star && inner.isTarget false
  | _ => false

def areTargets : List Shape → Bool
  | [] => true
  | item :: rest => item.isTarget true && areTargets rest

end

def isAssignable : Shape → Bool
  | .listed items => areTargets items
  | shape => shape.isTarget true

/-- A single place: a name, an attribute or an item, in any number of parentheses. -/
def isPlace : Shape → Bool
  | .name _ => true
  | .member => true
  | .group inner => inner.isPlace
  | _ => false

mutual

/-- Can the expression be deleted, inside brackets or on its own? -/
def isDeletable : Shape → Bool
  | .name _ => true
  | .member => true
  | .enclosed items => areDeletable items
  | .group inner => inner.isDeletable
  | _ => false

def areDeletable : List Shape → Bool
  | [] => true
  | item :: rest => item.isDeletable && areDeletable rest

end

/-- Can the expression stand behind the word that deletes? -/
def isDeleted : Shape → Bool
  | .listed items => areDeletable items
  | shape => shape.isDeletable

end Shape

/-! ## Reading tokens -/

/-- A reader takes tokens off a list, or fails and takes none. -/
abbrev Reader (α : Type) := StateT (List Token) Option α

namespace Reader

def left : Reader Nat := do
  return (← get).length

def tokenIf (accepts : Token → Bool) : Reader Token := do
  match ← get with
  | token :: rest =>
    if accepts token then
      set rest
      return token
    else failure
  | [] => failure

def looksAt (accepts : Token → Bool) : Reader Bool := do
  match ← get with
  | token :: _ => return accepts token
  | [] => return false

def isOperator (text : String) (token : Token) : Bool :=
  token.kind == .operator && token.text == text

def isKeyword (text : String) (token : Token) : Bool :=
  token.kind == .name && token.text == text

def isNameToken (token : Token) : Bool :=
  token.kind == .name && !reservedWords.contains token.text

def operator (text : String) : Reader Unit := do
  let _ ← tokenIf (isOperator text)

def keyword (text : String) : Reader Unit := do
  let _ ← tokenIf (isKeyword text)

def name : Reader String := do
  return (← tokenIf isNameToken).text

def atOperator (text : String) : Reader Bool := looksAt (isOperator text)

def atKeyword (text : String) : Reader Bool := looksAt (isKeyword text)

/-- Takes a given operator if it is pending, and tells whether it was. -/
def optionalOperator (text : String) : Reader Bool := do
  if ← atOperator text then
    operator text
    return true
  else return false

/-- Takes a given word if it is pending, and tells whether it was. -/
def optionalKeyword (text : String) : Reader Bool := do
  if ← atKeyword text then
    keyword text
    return true
  else return false

def atEnd : Reader Unit := do
  guard (← get).isEmpty

/-- Reads an item as long as the condition at its head holds. The fuel bounds the number of
items; the number of tokens is enough, as each takes one. -/
def whileAt {α : Type} (continues : Reader Bool) (item : Reader α) : Nat → Reader (List α)
  | 0 => return []
  | fuel + 1 => do
    if ← continues then
      let first ← item
      let others ← whileAt continues item fuel
      return first :: others
    else return []

/-- Reads items as long as the condition at the head of each holds. -/
def many {α : Type} (continues : Reader Bool) (item : Reader α) : Reader (List α) := do
  whileAt continues item (← left)

/-- Reads items separated by commas, after the first. A comma may trail if none of `ends` would
begin an item; the second part of the result tells whether one does. -/
def commaList {α : Type} (ends : Reader Bool) (item : Reader α) : Nat → Reader (List α × Bool)
  | 0 => return ([], false)
  | fuel + 1 => do
    if ← atOperator "," then
      operator ","
      if ← ends then return ([], true)
      let first ← item
      let (others, trailing) ← commaList ends item fuel
      return (first :: others, trailing)
    else return ([], false)

/-- Reads one or more items separated by commas; one comma may trail where the list ends. The
second part of the result tells whether a comma was read. -/
def items {α : Type} (ends : Reader Bool) (item : Reader α) : Reader (List α × Bool) := do
  let first ← item
  let (others, trailing) ← commaList ends item (← left)
  return (first :: others, trailing || !others.isEmpty)

end Reader

end ModuleGlue.Source
