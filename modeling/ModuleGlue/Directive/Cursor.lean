import ModuleGlue.Directive.Lexer

/-!
Contract: reading a token list from left to right.

A cursor stands between two tokens: what was read and what is pending. It also knows the place of
the whole list, which is blamed when there is no token to blame.

Owns: looking ahead and back, taking a token of a required kind, and the span that an error at the
current place is blamed on.

Main statement: `take_remaining` (taking a token leaves one less).
-/

namespace ModuleGlue.Directive

open ModuleGlue.Text

/-- A place in a token list; `consumed` holds the tokens before it, the latest first. -/
structure Cursor where
  consumed : List Token
  remaining : List Token
  origin : Option Span
deriving DecidableEq, Repr

namespace Cursor

def ofTokens (tokens : List Token) (origin : Option Span) : Cursor := ⟨[], tokens, origin⟩

def ofSource (text : String) (origin : Option Span) : Cursor :=
  ofTokens (tokenize text origin) origin

def position (cursor : Cursor) : Nat := cursor.consumed.length

def tokens (cursor : Cursor) : List Token := cursor.consumed.reverse ++ cursor.remaining

def isEmpty (cursor : Cursor) : Bool := cursor.remaining.isEmpty

/-- The token `offset` places after the pending one, or nothing past the end. A place before the
first token counts from the end of the list; one that is still before the list is an error. -/
def peek (cursor : Cursor) (offset : Int) : Except Unit (Option Token) :=
  let place := cursor.position + offset
  if 0 ≤ place then .ok cursor.tokens[place.toNat]?
  else
    let fromEnd := place + cursor.tokens.length
    if 0 ≤ fromEnd then .ok cursor.tokens[fromEnd.toNat]? else .error ()

def startsWith (cursor : Cursor) (kind : Kind) : Bool :=
  match cursor.remaining with
  | token :: _ => token.kind == kind
  | [] => false

/-- The pending token's span; at the end that of the last token; the origin if there is none. -/
def currentSpan (cursor : Cursor) : Option Span :=
  match cursor.remaining, cursor.consumed with
  | token :: _, _ => some token.span
  | [], token :: _ => some token.span
  | [], [] => cursor.origin

/-- What a message calls the thing that should have stood here. -/
def expectation (kind : Option Kind) (expected : String) : String :=
  if expected.isEmpty then (kind.map Kind.describe).getD "more input" else expected

/-- Takes the pending token, which must be of the required kind if one is given. -/
def take (cursor : Cursor) (kind : Option Kind) (expected : String) :
    Except Diagnostic (Token × Cursor) :=
  match cursor.remaining with
  | [] =>
    .error (.grammar
      (.expected (if expected.isEmpty then "more input" else expected) none) cursor.currentSpan)
  | token :: rest =>
    if kind.all (· == token.kind) then
      .ok (token, ⟨token :: cursor.consumed, rest, cursor.origin⟩)
    else .error (.grammar (.expected (expectation kind expected) token.text) token.span)

/-- Taking a token leaves one less. -/
theorem take_remaining {cursor next : Cursor} {kind : Option Kind} {expected : String}
    {token : Token} (taken : cursor.take kind expected = .ok (token, next)) :
    cursor.remaining = token :: next.remaining := by
  unfold take at taken
  split at taken
  · simp at taken
  · rename_i first rest pending
    split at taken
    · obtain ⟨rfl, rfl⟩ := Prod.mk.inj (Except.ok.inj taken)
      exact pending
    · simp at taken

end Cursor

end ModuleGlue.Directive
