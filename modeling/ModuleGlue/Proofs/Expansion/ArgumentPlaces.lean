import ModuleGlue.Expansion.Template
import ModuleGlue.Proofs.Directive.TokenPlaces
import ModuleGlue.Proofs.Expansion.ExportReading
import ModuleGlue.Proofs.Source.Places
import ModuleGlue.Proofs.Source.Standing

/-!
Contract: the places that the arguments of decorators are reported at.

The arguments are read from a text of their own, and the places found there are moved to where the
first argument stands in the file.

Main statement: `argumentToken_span_eq_truePlace_iff`. A token is reported at its true place exactly
if nothing was omitted from the text up to where it begins, and up to where it ends.

Owns: the true places of tokens.

Does not own: what a text omits.
-/

namespace ModuleGlue.Expansion

open ModuleGlue.Directive (Cursor Token exists_stands_of_mem tokenize tokensFrom)
open ModuleGlue.Source (BlankLine Decorator Function Glyph Module Omission Settled Stands Statement
  advanceLines advanceLines_append rebase_eq_iff)

/-! ## The file around the arguments -/

def completeText (file : Module) : List Char :=
  (BlankLine.renderAll file.style "" file.header ++ Statement.renderAll file.style "" file.body ++
    BlankLine.renderAll file.style "" file.footer).toList

/-- The text of a file up to the first argument of a decorator that has the text `before` before it
and stands in a block with the margin `margin`. -/
def textUntil (file : Module) (before margin : String) (decorator : Decorator) : List Char :=
  (BlankLine.renderAll file.style "" file.header ++ before ++
    decorator.untilArguments file.style margin).toList

/-- A file is written around the arguments of each decorator of a function in it. -/
theorem completeText_of_stands {file : Module} {before margin after : String}
    {decorator : Decorator}
    (stands : Stands file.style "" file.body before margin decorator after)
    (called : decorator.arguments ≠ []) :
    ∃ rest, completeText file = textUntil file before margin decorator ++
      (Glyph.renderAll file.style margin (decorator.argumentGlyphs margin) ++ rest) := by
  refine ⟨(decorator.behindArguments file.style margin ++ after ++
    BlankLine.renderAll file.style "" file.footer).toList, ?_⟩
  unfold completeText textUntil
  rw [stands.renderAll_eq]
  simp only [String.toList_append, Decorator.render_toList file.style margin called,
    List.append_assoc]

/-! ## Places -/

/-- A token of the arguments as a piece of the row that they form in the file. The piece begins and
ends with characters of the token. -/
structure IsPiece (file : Module) (before margin : String) (decorator : Decorator) (token : Token)
    (front piece : List Glyph) : Prop where
  row : ∃ back, decorator.argumentGlyphs margin = front ++ (piece ++ back)
  head : piece.head? ≠ some .margin
  last : piece.getLast? ≠ some .margin
  text : token.text.toList = Glyph.alone piece
  file : ∃ rest, completeText file = textUntil file before margin decorator ++
    (Glyph.renderAll file.style margin front ++ (Glyph.renderAll file.style margin piece ++ rest))

/-- Where a piece of the row stands in the file. -/
def truePlace (file : Module) (before margin : String) (decorator : Decorator)
    (front piece : List Glyph) : Span :=
  let text := textUntil file before margin decorator
  ⟨advanceLines .origin (text ++ Glyph.renderAll file.style margin front),
    advanceLines .origin (text ++ Glyph.renderAll file.style margin (front ++ piece))⟩

/-- Where a piece of the row is measured, given the place of the first argument. -/
def measuredPlace (start : Position) (front piece : List Glyph) : Span :=
  ⟨(Position.origin.advance (Glyph.alone front)).rebase start,
    (Position.origin.advance (Glyph.alone (front ++ piece))).rebase start⟩

/-- The tokens of a decorator's arguments are those of the text, moved to the file. -/
theorem tokens_argumentCursor (decorator : Decorator) (origin : Option Span) :
    (argumentCursor decorator origin).tokens =
      (tokensFrom .origin decorator.argumentText.toList).map fun token =>
        { token with span := token.span.rebase origin } := rfl

/-- Every token of the arguments is a piece of the row, and is reported where that is measured. -/
theorem exists_isPiece {file : Module} {before margin after : String} {decorator : Decorator}
    {place : Span} (stands : Stands file.style "" file.body before margin decorator after)
    (placed : decorator.argumentPlace = some place) {token : Token}
    (member : token ∈ (argumentCursor decorator (argumentOrigin decorator)).tokens) :
    ∃ front piece, IsPiece file before margin decorator token front piece ∧
      token.span = measuredPlace place.start front piece := by
  rw [tokens_argumentCursor] at member
  obtain ⟨measured, found, rfl⟩ := List.mem_map.1 member
  obtain ⟨first, after, inText⟩ := exists_stands_of_mem found
  have called : decorator.arguments ≠ [] := by
    intro none
    have empty : decorator.argumentText.toList = [] := by
      unfold Decorator.argumentText
      rw [none]
      rfl
    rw [empty, tokensFrom] at found
    cases found
  have origin : argumentOrigin decorator = some place := by
    unfold argumentOrigin
    rw [if_neg (by simpa using called), placed]
  have row := inText.text_eq
  rw [Decorator.argumentText_toList margin] at row
  obtain ⟨front, piece, back, whole, left, inner, -, head, last⟩ :=
    Glyph.exists_piece inText.nonempty row
  obtain ⟨rest, text⟩ := completeText_of_stands stands called
  refine ⟨front, piece, ⟨⟨back, whole⟩, head, last, inner.symm,
    Glyph.renderAll file.style margin back ++ rest, ?_⟩, ?_⟩
  · rw [text, whole]
    simp only [Glyph.renderAll_append, List.append_assoc]
  · show measured.span.rebase (argumentOrigin decorator) = _
    rw [origin]
    unfold Span.rebase measuredPlace
    rw [inText.start, inText.stop, Glyph.alone_append, left, inner]

/-- A place along the row is measured right exactly if nothing is omitted up to there. -/
theorem measured_eq_true_iff {file : Module} {before margin : String} {decorator : Decorator}
    {start : Position} {front back : List Glyph}
    (settled : Settled file.style margin (decorator.argumentGlyphs margin))
    (found : start = advanceLines .origin (textUntil file before margin decorator))
    (row : decorator.argumentGlyphs margin = front ++ back) :
    (Position.origin.advance (Glyph.alone front)).rebase start =
        advanceLines .origin (textUntil file before margin decorator ++
          Glyph.renderAll file.style margin front) ↔
      (Omission.along front).IsNone := by
  rw [row] at settled
  have shown : .margin ∈ front → margin ≠ "" := fun member =>
    Decorator.margin_shown (row ▸ List.mem_append_left back member)
  rw [advanceLines_append _ _ settled.front.head, ← found]
  exact rebase_eq_iff start settled.front shown

/-- **A token is reported at its true place exactly if nothing was omitted up to there.** The file
is any tree, and the decorator any on a function in it, at any depth; its arguments are laid out in
any way in which no break is cut in two; and their place is known to be that of the first of them.
Each token is then a piece of the file. It is reported where that stands, if and only if up to where
the piece begins, and up to where it ends, every carriage return is the usual break or belongs to a
line feed, and the line does not begin with the margin of the block. Whatever is said of the
arguments is said at the place of such a token, if the decorator exports a function as well. -/
theorem argumentToken_span_eq_truePlace_iff (file : Module) {before margin after : String}
    {decorator : Decorator} {place : Span}
    (stands : Stands file.style "" file.body before margin decorator after)
    (settled : Settled file.style margin (decorator.argumentGlyphs margin))
    (placed : decorator.argumentPlace = some place)
    (found : place.start = advanceLines .origin (textUntil file before margin decorator)) :
    (∀ token ∈ (argumentCursor decorator (argumentOrigin decorator)).tokens, ∃ front piece,
      IsPiece file before margin decorator token front piece ∧
      token.span = measuredPlace place.start front piece ∧
      (token.span = truePlace file before margin decorator front piece ↔
        (Omission.along front).IsNone ∧ (Omission.along (front ++ piece)).IsNone)) ∧
    (argumentCursor decorator (argumentOrigin decorator)).ReportsTokens ∧
    exportCursor decorator = argumentCursor decorator (argumentOrigin decorator) := by
  refine ⟨?_, Cursor.reportsTokens _, exportCursor_of_placed placed⟩
  intro token member
  obtain ⟨front, piece, isPiece, measured⟩ := exists_isPiece stands placed member
  obtain ⟨back, row⟩ := isPiece.row
  refine ⟨front, piece, isPiece, measured, ?_⟩
  rw [measured, ← measured_eq_true_iff settled found row,
    ← measured_eq_true_iff settled found (row.trans (List.append_assoc _ _ _).symm)]
  unfold measuredPlace truePlace
  rw [Span.mk.injEq]

/-! ## A token that is reported too far to the left -/

/-- The decorator `@pyfn(m, "legacy")` with its second argument on a line of its own. -/
def brokenMark : Decorator where
  leading := []
  name := some exportMark
  opening := [⟨.empty, "@"⟩, ⟨.empty, "pyfn"⟩, ⟨.empty, "("⟩]
  arguments := [⟨.empty, "m"⟩, ⟨.empty, ","⟩, ⟨.broken .plain [] true "      ", "\"legacy\""⟩]
  closing := [⟨.empty, ")"⟩]
  ending := .plain
  place := some ⟨⟨2, 4⟩, ⟨3, 19⟩⟩
  argumentPlace := some ⟨⟨2, 10⟩, ⟨2, 11⟩⟩

/-- The decorated function, `def f(a): ...`. -/
def brokenFunction : Function where
  head := ⟨[], [brokenMark], []⟩
  signature := ⟨"f", true, verbatim "def f(a):", some ⟨⟨4, 4⟩, ⟨4, 17⟩⟩⟩
  body := .inline [⟨.other, [⟨.space, "..."⟩], []⟩] .plain

/-- The function of a module around it, `def demo(m):`. -/
def brokenModule : Function where
  head := ⟨[], [], []⟩
  signature := ⟨"demo", true, verbatim "def demo(m):", some ⟨⟨1, 0⟩, ⟨4, 17⟩⟩⟩
  body := .block .plain none [brokenFunction.toStatement] []

def brokenFile : Module := ⟨[], [brokenModule.toStatement], [], .standard, true⟩

theorem brokenMark_stands :
    Stands .standard "" brokenFile.body "def demo(m):\n" "    " brokenMark
      "    def f(a): ...\n" := by
  have inside : Stands .standard "    " ([] ++ brokenFunction.toStatement :: []) "" "    "
      brokenMark "    def f(a): ...\n" :=
    @Stands.here _ _ _ _ brokenFunction.head brokenFunction.signature brokenFunction.body [] []
      brokenMark rfl
  exact @Stands.function .standard "" "" "    " "    def f(a): ...\n" [] [] brokenModule.head
    brokenModule.signature .plain none _ [] brokenMark inside

theorem brokenMark_settled :
    Settled .standard "    " (brokenMark.argumentGlyphs "    ") where
  newline := Or.inl rfl
  margin_plain := by
    intro c member
    have blanks : "    ".toList = List.replicate 4 ' ' := by decide +kernel
    rw [blanks] at member
    rw [List.eq_of_mem_replicate member]
    rfl
  apart := by decide +kernel
  head := by decide +kernel

theorem argumentToken_span_eq_truePlace_iff_brokenMark :
    (∀ token ∈ (argumentCursor brokenMark (argumentOrigin brokenMark)).tokens, ∃ front piece,
      IsPiece brokenFile "def demo(m):\n" "    " brokenMark token front piece ∧
      token.span = measuredPlace ⟨2, 10⟩ front piece ∧
      (token.span = truePlace brokenFile "def demo(m):\n" "    " brokenMark front piece ↔
        (Omission.along front).IsNone ∧ (Omission.along (front ++ piece)).IsNone)) ∧
    (argumentCursor brokenMark (argumentOrigin brokenMark)).ReportsTokens ∧
    exportCursor brokenMark = argumentCursor brokenMark (argumentOrigin brokenMark) :=
  argumentToken_span_eq_truePlace_iff brokenFile brokenMark_stands brokenMark_settled rfl
    (by decide +kernel)

/-- The legacy name is reported at the margin's width to the left of where it stands. -/
theorem brokenMark_legacyName_misplaced :
    (⟨.string, "\"legacy\"", ⟨⟨3, 6⟩, ⟨3, 14⟩⟩⟩ : Token) ∈
        (argumentCursor brokenMark (argumentOrigin brokenMark)).tokens ∧
      completeText brokenFile =
        ("def demo(m):\n    @pyfn(m,\n          " ++ "\"legacy\"" ++
          ")\n    def f(a): ...\n").toList ∧
      advanceLines .origin "def demo(m):\n    @pyfn(m,\n          ".toList = ⟨3, 10⟩ := by
  refine ⟨?_, ?_, ?_⟩
  · decide +kernel
  · decide +kernel
  · decide +kernel

end ModuleGlue.Expansion
