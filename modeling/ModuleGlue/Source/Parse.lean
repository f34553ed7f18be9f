import ModuleGlue.Source.Block

/-!
Contract: from text to source trees.

A text is a file, or a single statement, or a single expression. A text that is none is malformed;
one that joins literals of text and of bytes has the form of code, but is refused as well.

Owns: the entry points for reading, and the errors.

Does not own: the grammar.
-/

namespace ModuleGlue.Source

/-- Why a text is refused as code. -/
inductive SourceError where
  | malformed
  /-- A literal of text stands next to a literal of bytes. -/
  | mixedLiterals
  /-- A literal whose value is needed has none. -/
  | illFormedLiteral
deriving DecidableEq, Repr

/-! ## Mixed literals -/

def Token.isBytes (token : Token) : Bool :=
  (token.text.toList.takeWhile fun c => c != '"' && c != '\'').any fun c => c == 'b' || c == 'B'

/-- Are text and bytes joined somewhere among the tokens of a line? The flag tells whether the
literal that the previous token ended, if it ended one, holds bytes. -/
def mixesLiterals : Option Bool → List Token → Bool
  | _, [] => false
  | pending, token :: rest =>
    match token.kind with
    | .string =>
      pending.any (· != token.isBytes) || mixesLiterals (some token.isBytes) rest
    | .formatStart => pending.any (· != false) || mixesLiterals none rest
    | .formatEnd => mixesLiterals (some false) rest
    | _ => mixesLiterals none rest

mutual

/-- Are text and bytes joined somewhere in a line or its block? -/
def Node.mixesLiterals : Node → Bool
  | .mk _ tokens _ _ children _ =>
    Source.mixesLiterals none tokens || Node.anyMixesLiterals children

def Node.anyMixesLiterals : List Node → Bool
  | [] => false
  | node :: rest => Node.mixesLiterals node || Node.anyMixesLiterals rest

end

/-! ## Reading -/

/-- The value of a reading, if the text has the form of code and mixes no literals. -/
def checked {α : Type} (lines : List Node) (value : Option α) : Except SourceError α :=
  match value with
  | none => .error .malformed
  | some value => if Node.anyMixesLiterals lines then .error .mixedLiterals else .ok value

def linesOf (text : String) : Except SourceError LineTree :=
  match LineTree.ofText text.toList with
  | none => .error .malformed
  | some lines => .ok lines

def LineTree.statements (tree : LineTree) : Option (List Statement) := do
  joinPieces (← Piece.ofNodes (String.ofList tree.indent) false tree.lines)

def Statement.leading : Statement → List BlankLine
  | .line leading _ _ => leading
  | .function head _ _ => head.leading
  | .compound head _ _ _ => head.leading

/-- The statement with other lines without code above it. -/
def Statement.withLeading (leading : List BlankLine) : Statement → Statement
  | .line _ parts ending => .line leading parts ending
  | .function head signature body => .function { head with leading } signature body
  | .compound head header body clauses => .compound { head with leading } header body clauses

/-- Does the text end with a line break that is no part of a continued line? -/
def hasFinalBreak (text : List Char) : Bool :=
  match text.reverse with
  | '\n' :: '\\' :: _ => false
  | '\n' :: '\r' :: '\\' :: _ => false
  | '\n' :: _ => true
  | _ => false

/-- A text without the mark that may announce its encoding. -/
def dropByteOrderMark (text : String) : String :=
  match text.toList with
  | '\uFEFF' :: rest => String.ofList rest
  | _ => text

/-- Reads a file. The lines without code at its beginning belong to the file, not to its first
statement. -/
def Module.ofText (text : String) : Except SourceError Module := do
  let text := dropByteOrderMark text
  let tree ← linesOf text
  let statements ← checked tree.lines tree.statements
  let style : Style := ⟨String.ofList tree.indent, String.ofList tree.usual⟩
  let ends := hasFinalBreak text.toList
  match statements with
  | [] => return ⟨tree.footer, [], [], style, ends⟩
  | first :: rest =>
    return ⟨first.leading, first.withLeading [] :: rest, tree.footer, style, ends⟩

def Statement.ofText (text : String) : Except SourceError Statement := do
  let tree ← linesOf text
  checked tree.lines do
    match ← tree.statements with
    | [statement] => return statement
    | _ => failure

/-- Reads a text that is a single expression; it keeps no layout around it. -/
def Phrase.ofExpression (text : String) : Except SourceError Phrase := do
  let tree ← linesOf text
  checked tree.lines do
    match tree.lines with
    | [.mk _ tokens _ _ [] _] =>
      let expression : Reader Shape := readWith fun inner => inner.starExpressions
      let (_, rest) ← expression.run tokens
      guard rest.isEmpty
      return (Phrase.ofTokens tokens).flush
    | _ => failure

end ModuleGlue.Source
