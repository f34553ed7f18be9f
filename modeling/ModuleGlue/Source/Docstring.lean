import ModuleGlue.Source.Parse
import ModuleGlue.Text.Literal
import ModuleGlue.Text.Prose

/-!
Contract: the documentation of a function.

The documentation is the value of the first statement of the body, if that is a run of literals
which denotes text. A literal of bytes denotes none, and a run with a formatted literal has no fixed
value.

Owns: which statement documents, and the value of a run of literals.

Does not own: the value of one literal.
-/

namespace ModuleGlue.Source

open ModuleGlue.Text

inductive LiteralValue where
  | text (points : Points)
  | bytes
deriving DecidableEq, Repr

/-- Are the backslashes in a literal of bytes followed by what they need? -/
def validByteEscapes : List Char → Bool
  | '\\' :: 'x' :: high :: low :: rest =>
    (hexValue? high).isSome && (hexValue? low).isSome && validByteEscapes rest
  | '\\' :: 'x' :: _ => false
  | '\\' :: _ :: rest => validByteEscapes rest
  | _ :: rest => validByteEscapes rest
  | [] => true

/-- Does a literal that begins like one of bytes denote some? -/
def denotesBytes (literal : List Char) : Bool :=
  let letters := literal.takeWhile fun c => c != '"' && c != '\''
  let raw := letters.any fun c => c == 'r' || c == 'R'
  literal.all (fun c => c != '\x00' && c.toNat < 128) && (raw || validByteEscapes literal)

def literalValue (literal : String) : Except SourceError LiteralValue :=
  let characters := literal.toList
  let letters := characters.takeWhile fun c => c != '"' && c != '\''
  if letters.any fun c => c == 'b' || c == 'B' then
    if denotesBytes characters then .ok .bytes else .error .illFormedLiteral
  else
    match literalValue? characters with
    | some points => .ok (.text points)
    | none => .error .illFormedLiteral

/-- The value of a run of literals. It is joined from the right; where one of the two parts to be
joined is formatted, the whole has no value, and what has been skipped may be ill-formed. -/
def runValue : List LiteralPiece → Except SourceError (Option LiteralValue)
  | [] => .ok none
  | [piece] => if piece.formatted then .ok none else some <$> literalValue piece.text
  | [first, second] =>
    if first.formatted || second.formatted then .ok none else joined first [second]
  | first :: second :: third :: rest =>
    if first.formatted then .ok none else joined first (second :: third :: rest)
where
  joined (first : LiteralPiece) (others : List LiteralPiece) :
      Except SourceError (Option LiteralValue) := do
    let value ← literalValue first.text
    match value, ← runValue others with
    | .text head, some (.text tail) => return some (.text (head ++ tail))
    | .bytes, some .bytes => return some .bytes
    | _, _ => return none

def Suite.firstSmall? : Suite → Option Small
  | .inline parts _ => parts.head?
  | .block _ _ (.line _ parts _ :: _) _ => parts.head?
  | .block .. => none

def Suite.documentation (suite : Suite) : Except SourceError (Option Points) :=
  match suite.firstSmall?.map Small.form with
  | some (.literals pieces) => do
    match ← runValue pieces with
    | some (.text points) => return some points.prose
    | _ => return none
  | _ => .ok none

end ModuleGlue.Source
