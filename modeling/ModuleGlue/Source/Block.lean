import ModuleGlue.Source.Clause
import ModuleGlue.Source.Line

/-!
Contract: statements from nested lines.

Each line is read for itself; then the lines of a block are joined into statements. Decorators join
the function or class below them, and the clauses that go on with a statement join the one that
begins it.

Owns: which lines have a block, and which clauses may follow each other.

Does not own: the grammar within a line.
-/

namespace ModuleGlue.Source

/-! ## Pieces of statements -/

inductive PieceForm where
  | simple (parts : List Small) (ending : LineEnd)
  | decorator (decorator : Decorator)
  | clause (kind : HeaderKind) (header : Phrase) (body : Suite)

/-- A piece of a statement: the lines without code above it, what it is, and its place. -/
structure Piece where
  above : List BlankLine
  form : PieceForm
  start : Position
  stop : Position

/-- Clauses that go on with a statement, and the statements of a block from some piece on. The
flag tells whether the first of these is a function or a class. -/
structure Following where
  clauses : List (HeaderKind × Clause)
  decorable : Bool
  statements : List Statement

/-- Is this clause the last but one part of a statement, or the last? -/
def isTail (clauses : List HeaderKind) : Bool :=
  clauses == [] || clauses == [.elseCase]

/-- May the clauses follow the handlers of a block, or the block itself if it has none? -/
def endsHandlers (clauses : List HeaderKind) : Bool :=
  isTail clauses || clauses == [.finallyCase] || clauses == [.elseCase, .finallyCase]

/-- May the clauses, in this order, follow a clause of the given kind? -/
def mayFollow (clauses : List HeaderKind) : HeaderKind → Bool
  | .ifTest => isTail (clauses.dropWhile (· == .elifTest))
  | .forLoop => isTail clauses
  | .whileLoop => isTail clauses
  | .tryBlock =>
    match clauses with
    | .exceptCase grouped :: rest =>
      endsHandlers (rest.dropWhile (· == .exceptCase grouped))
    | _ => clauses == [.finallyCase]
  | _ => clauses.isEmpty

def HeaderKind.goesOn : HeaderKind → Bool
  | .elifTest => true
  | .elseCase => true
  | .exceptCase _ => true
  | .finallyCase => true
  | _ => false

/-! ## Joining pieces -/

/-- Puts a decorator on top of what stands above a statement. The lines without code above the
topmost decorator are those of the statement. -/
def Head.decorate (above : List BlankLine) (decorator : Decorator) (head : Head) : Head :=
  match head.decorators with
  | [] => ⟨above, [decorator], head.leading⟩
  | first :: rest =>
    ⟨above, decorator :: { first with leading := head.leading } :: rest, head.afterDecorators⟩

def Statement.decorate (above : List BlankLine) (decorator : Decorator) : Statement → Statement
  | .line leading parts ending => .line leading parts ending
  | .function head signature body => .function (head.decorate above decorator) signature body
  | .compound head header body clauses =>
    .compound (head.decorate above decorator) header body clauses

def Piece.begin (piece : Piece) (kind : HeaderKind) (header : Phrase) (body : Suite)
    (clauses : List Clause) : Statement :=
  let head : Head := ⟨piece.above, [], []⟩
  match kind with
  | .function name takesPositional =>
    .function head ⟨name, takesPositional, header, some ⟨piece.start, piece.stop⟩⟩ body
  | _ => .compound head header body clauses

def Piece.join (piece : Piece) (following : Following) : Option Following :=
  match piece.form with
  | .simple parts ending =>
    if following.clauses.isEmpty then
      some ⟨[], false, .line piece.above parts ending :: following.statements⟩
    else none
  | .decorator decorator =>
    match following.statements with
    | first :: rest =>
      if following.clauses.isEmpty && following.decorable then
        some ⟨[], true, first.decorate piece.above decorator :: rest⟩
      else none
    | [] => none
  | .clause kind header body =>
    if kind.goesOn then
      some { following with
        clauses := (kind, .mk piece.above header body) :: following.clauses }
    else if mayFollow (following.clauses.map Prod.fst) kind then
      let statement := piece.begin kind header body (following.clauses.map Prod.snd)
      let decorable := match kind with
        | .function .. => true
        | .classBody => true
        | _ => false
      some ⟨[], decorable, statement :: following.statements⟩
    else none

/-- Joins the pieces of a block, from the last to the first. -/
def joinPieces (pieces : List Piece) : Option (List Statement) := do
  let following ← pieces.foldr (fun piece found => found.bind piece.join) (some ⟨[], false, []⟩)
  guard following.clauses.isEmpty
  return following.statements

/-! ## Reading lines -/

/-- Where the last simple statement of a line ends; a semicolon at the end does not count. -/
def stopOfTokens (tokens : List Token) : Position :=
  match tokens.reverse with
  | last :: before :: _ => if last.text == ";" then before.stop else last.stop
  | [last] => last.stop
  | [] => .origin


mutual

/-- The piece that a line forms with its block; `usual` is the usual step of indentation. -/
def Piece.ofNode (usual : String) (inMatch : Bool) : Node → Option Piece
  | .mk above tokens ending indent children footer => do
    let start := (tokens.head?.map Token.start).getD .origin
    let stop := stopOfTokens tokens
    match ← ParsedLine.ofTokens inMatch tokens with
    | .simple parts =>
      guard children.isEmpty
      return ⟨above, .simple parts ending, start, stop⟩
    | .decorator decorator =>
      guard children.isEmpty
      return ⟨above, .decorator { decorator with ending }, start, stop⟩
    | .header kind header (some parts) =>
      guard children.isEmpty
      return ⟨above, .clause kind header (.inline parts ending), start, stop⟩
    | .header kind header none =>
      guard !children.isEmpty
      let pieces ← Piece.ofNodes usual (kind == .matchBlock) children
      let body ← joinPieces pieces
      let indent := String.ofList indent
      let suite :=
        Suite.block ending (if indent == usual then none else some indent) body footer
      return ⟨above, .clause kind header suite, start, (pieces.getLast?.map Piece.stop).getD stop⟩

def Piece.ofNodes (usual : String) (inMatch : Bool) : List Node → Option (List Piece)
  | [] => some []
  | node :: rest => do
    let piece ← Piece.ofNode usual inMatch node
    return piece :: (← Piece.ofNodes usual inMatch rest)

end

end ModuleGlue.Source
