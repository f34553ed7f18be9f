/-!
Contract: places in a text.

A position is a line, counted from one, and a column, counted from zero in code points. A span
runs from a position up to, and not including, another.

Owns: counting positions along a text, and moving a span that was measured inside a fragment to
the place of the fragment in its file.

Does not own: which characters end a line for a given reader; `Position.advance` counts line feeds
alone, and the source layer has its own count.
-/

namespace ModuleGlue

structure Position where
  line : Int
  column : Int
deriving DecidableEq, Repr, Inhabited

/-- A region of a text; `stop` is the first position after it. -/
structure Span where
  start : Position
  stop : Position
deriving DecidableEq, Repr, Inhabited

namespace Position

def origin : Position := ⟨1, 0⟩

def step (position : Position) (c : Char) : Position :=
  if c = '\n' then ⟨position.line + 1, 0⟩ else ⟨position.line, position.column + 1⟩

def advance (position : Position) (text : List Char) : Position := text.foldl step position

@[simp] theorem advance_nil (position : Position) : position.advance [] = position := rfl

@[simp] theorem advance_cons (position : Position) (c : Char) (text : List Char) :
    position.advance (c :: text) = (position.step c).advance text := rfl

theorem advance_append (position : Position) (first second : List Char) :
    position.advance (first ++ second) = (position.advance first).advance second := by
  simp [advance, List.foldl_append]

/-- The place in the file of a position that was measured in a fragment. Only the first line of a
fragment shares its line with other text, so only there the column moves. -/
def rebase (position : Position) (base : Position) : Position :=
  if position.line = 1 then ⟨base.line, base.column + position.column⟩
  else ⟨base.line + position.line - 1, position.column⟩

def render (position : Position) : String :=
  toString position.line ++ ":" ++ toString position.column

end Position

namespace Span

/-- The place in the file of a span that was measured in a fragment; without a place for the
fragment the span stays as it is. -/
def rebase (span : Span) : Option Span → Span
  | none => span
  | some base => ⟨span.start.rebase base.start, span.stop.rebase base.start⟩

def render (span : Span) : String := span.start.render

end Span

end ModuleGlue
