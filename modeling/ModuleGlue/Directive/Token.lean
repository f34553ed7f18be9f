import ModuleGlue.Diagnostic
import ModuleGlue.Text.CharClass
import ModuleGlue.Text.Literal

/-!
Contract: the lexical units of annotation arguments, and the names that they denote.

A name is written bare or as a string literal; either way it must be an identifier.

Owns: the kinds, the token with its place, and the value of a string token; the name with its place,
and reading it from one token.
-/

namespace ModuleGlue.Directive

open ModuleGlue.Text

/-- The kinds of token. What belongs to no other kind is a token of its own of kind `other`. -/
inductive Kind where
  | ident
  | dot
  | comma
  | equals
  | string
  | number
  | other
deriving DecidableEq, Repr

def Kind.describe : Kind → String
  | .ident => "ident"
  | .dot => "dot"
  | .comma => "comma"
  | .equals => "equals"
  | .string => "string"
  | .number => "number"
  | .other => "other"

structure Token where
  kind : Kind
  text : String
  span : Span
deriving DecidableEq, Repr

/-- The text that a string token denotes. Byte strings and formatted strings denote none. -/
def Token.stringValue (token : Token) : Except Diagnostic Points :=
  match literalValue? token.text.toList with
  | some value => .ok value
  | none => .error (.grammar .notStringLiteral token.span)

/-! ## Names -/

structure Name where
  value : String
  span : Option Span
deriving DecidableEq, Repr

/-- The code points that a token names: its own text, or what its literal denotes. -/
def Token.denotedName (token : Token) : Except Diagnostic Points :=
  match token.kind with
  | .ident => .ok (.ofString token.text)
  | .string => token.stringValue
  | _ => .error (.grammar (.expected "identifier" token.text) token.span)

/-- The name that a token denotes, if that is an identifier. -/
def Name.ofToken (token : Token) : Except Diagnostic Name := do
  let points ← token.denotedName
  match points.toString? with
  | some text =>
    if isIdentifier text then .ok ⟨text, token.span⟩
    else .error (.grammar (.notIdentifier points) token.span)
  | none => .error (.grammar (.notIdentifier points) token.span)

end ModuleGlue.Directive
