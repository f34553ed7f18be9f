import ModuleGlue.Span
import ModuleGlue.Source.Layout
import ModuleGlue.Source.Shape

/-!
Contract: source code as a tree of statements.

The tree keeps every character of the code: tokens with the gaps before them, lines without code,
line ends, and the indentation that each block adds. Functions are told apart from all other
statements; of those only the nesting is kept, so that functions are found at any depth.

Owns: the types, and the small queries on them.

Does not own: reading and writing the tree.
-/

namespace ModuleGlue.Source

/-! ## Phrases -/

structure Lexeme where
  gap : Gap
  text : String
deriving DecidableEq, Repr, Inhabited

abbrev Phrase := List Lexeme

def Token.lexeme (token : Token) : Lexeme := ⟨token.gap, token.text⟩

def Phrase.flush : Phrase → Phrase
  | [] => []
  | first :: rest => { first with gap := .empty } :: rest

/-! ## Simple statements -/

/-- One name that an import binds, with the dotted path that it stands for. -/
structure ImportedName where
  path : String
  bound : Option String
deriving DecidableEq, Repr, Inhabited

/-- What is remembered of a simple statement. -/
inductive SmallForm where
  | imports (names : List ImportedName)
  /-- An import from the module that switches language features. -/
  | featureImport
  /-- An expression statement that is a run of literals. -/
  | literals (pieces : List LiteralPiece)
  | other
deriving DecidableEq, Repr, Inhabited

/-- A simple statement; `separator` is the semicolon behind it, if there is one. -/
structure Small where
  form : SmallForm
  phrase : Phrase
  separator : Phrase
deriving DecidableEq, Repr, Inhabited

/-! ## Decorators -/

/-- A decorator with its line. Its tokens are `opening`, `arguments` and `closing` in this order;
the latter two are empty unless the decorator is a call with arguments. `name` is the name that it is,
or that it calls. -/
structure Decorator where
  leading : List BlankLine
  name : Option String
  opening : Phrase
  arguments : Phrase
  closing : Phrase
  ending : LineEnd
  /-- Where the decorator stands. -/
  place : Option Span
  /-- Where its first argument stands. -/
  argumentPlace : Option Span
deriving DecidableEq, Repr, Inhabited

def Decorator.phrase (decorator : Decorator) : Phrase :=
  decorator.opening ++ decorator.arguments ++ decorator.closing

def Decorator.isNamed (decorator : Decorator) (name : String) : Bool :=
  decorator.name == some name

/-- What stands above a statement: lines without code, decorators, and more lines without code
between these and the statement. -/
structure Head where
  leading : List BlankLine
  decorators : List Decorator
  afterDecorators : List BlankLine
deriving DecidableEq, Repr, Inhabited

/-! ## Statements -/

/-- The first line of a function: its tokens up to the colon, and what is remembered of them. -/
structure Signature where
  name : String
  /-- Can an argument be given by position? -/
  takesPositional : Bool
  phrase : Phrase
  /-- Where the function stands, decorators not included. -/
  place : Option Span
deriving DecidableEq, Repr, Inhabited

mutual

inductive Statement where
  /-- A line of simple statements. -/
  | line (leading : List BlankLine) (parts : List Small) (ending : LineEnd)
  | function (head : Head) (signature : Signature) (body : Suite)
  /-- Any other statement with a block. Its further clauses follow the first one. -/
  | compound (head : Head) (header : Phrase) (body : Suite) (clauses : List Clause)

inductive Clause where
  | mk (leading : List BlankLine) (header : Phrase) (body : Suite)

inductive Suite where
  /-- Simple statements on the line of the header. -/
  | inline (parts : List Small) (ending : LineEnd)
  /-- A block. `indent` is what it adds to the indentation, if not the usual step. -/
  | block (header : LineEnd) (indent : Option String) (body : List Statement)
      (footer : List BlankLine)

end

instance : Inhabited Suite := ⟨.inline [] .plain⟩

instance : Inhabited Statement := ⟨.line [] [] .plain⟩

/-- A function with what stands above it. -/
structure Function where
  head : Head
  signature : Signature
  body : Suite

namespace Function

def toStatement (function : Function) : Statement :=
  .function function.head function.signature function.body

/-- The function with other lines without code above it. -/
def withLeading (function : Function) (leading : List BlankLine) : Function :=
  { function with head := { function.head with leading } }

def withDecorators (function : Function) (decorators : List Decorator) : Function :=
  { function with head := { function.head with decorators } }

end Function

def Statement.function? : Statement → Option Function
  | .function head signature body => some ⟨head, signature, body⟩
  | _ => none

/-! ## Places -/

def Decorator.unplaced (decorator : Decorator) : Decorator :=
  { decorator with place := none, argumentPlace := none }

def Head.unplaced (head : Head) : Head :=
  { head with decorators := head.decorators.map Decorator.unplaced }

def Signature.unplaced (signature : Signature) : Signature := { signature with place := none }

mutual

def Statement.unplaced : Statement → Statement
  | .line leading parts ending => .line leading parts ending
  | .function head signature body => .function head.unplaced signature.unplaced body.unplaced
  | .compound head header body clauses =>
    .compound head.unplaced header body.unplaced (Clause.allUnplaced clauses)

def Statement.allUnplaced : List Statement → List Statement
  | [] => []
  | statement :: rest => statement.unplaced :: Statement.allUnplaced rest

def Clause.unplaced : Clause → Clause
  | .mk leading header body => .mk leading header body.unplaced

def Clause.allUnplaced : List Clause → List Clause
  | [] => []
  | clause :: rest => clause.unplaced :: Clause.allUnplaced rest

def Suite.unplaced : Suite → Suite
  | .inline parts ending => .inline parts ending
  | .block header indent body footer => .block header indent (Statement.allUnplaced body) footer

end

def Function.unplaced (function : Function) : Function :=
  ⟨function.head.unplaced, function.signature.unplaced, function.body.unplaced⟩

/-! ## Files -/

structure Module where
  header : List BlankLine
  body : List Statement
  footer : List BlankLine
  style : Style
  /-- Does the text end with a line break? -/
  endsWithBreak : Bool

end ModuleGlue.Source
