import ModuleGlue.Source.Render

/-!
Contract: code as a row of glyphs, whose characters depend on where the code is written.

The same phrase is written with the breaks and the margin of its file, or alone, with line feeds and
without margin. As glyphs the two texts can be compared character by character.

Main statements: `Phrase.render_toList` and `Decorator.argumentText_toList` (both texts come from
one row of glyphs), and `exists_piece` (a piece of the text that is written alone is a piece of the
row).

Owns: glyphs, and the two texts of a row.

Does not own: positions.
-/

namespace ModuleGlue.Source

/-! ## Glyphs -/

/-- A character of the code's own, the usual break, or the margin of the block. -/
inductive Glyph where
  | written (c : Char)
  | usualBreak
  | margin
deriving DecidableEq, Repr

namespace Glyph

/-- The characters of a glyph in code that is written at a margin. -/
def render (style : Style) (margin : String) : Glyph → List Char
  | .written c => [c]
  | .usualBreak => style.newline.toList
  | .margin => margin.toList

def renderAll (style : Style) (margin : String) (glyphs : List Glyph) : List Char :=
  glyphs.flatMap (render style margin)

/-- The characters of some glyphs that are written alone. -/
def alone (glyphs : List Glyph) : List Char := renderAll .standard "" glyphs

def ofText (text : String) : List Glyph := text.toList.map .written

/-- The glyphs of a margin. An empty margin leaves none. -/
def ofMargin (margin : String) : List Glyph := if margin.isEmpty then [] else [.margin]

variable {style : Style} {margin inner : String}

@[simp] theorem renderAll_nil : renderAll style margin [] = [] := rfl

@[simp] theorem renderAll_cons (glyph : Glyph) (glyphs : List Glyph) :
    renderAll style margin (glyph :: glyphs) =
      glyph.render style margin ++ renderAll style margin glyphs := rfl

@[simp] theorem renderAll_append (first second : List Glyph) :
    renderAll style margin (first ++ second) =
      renderAll style margin first ++ renderAll style margin second :=
  List.flatMap_append

@[simp] theorem renderAll_ofText (text : String) :
    renderAll style margin (ofText text) = text.toList := by
  unfold renderAll ofText
  rw [List.flatMap_map]
  exact List.flatMap_singleton' text.toList

theorem alone_append (first second : List Glyph) :
    alone (first ++ second) = alone first ++ alone second := renderAll_append first second

end Glyph

/-- The glyphs of a margin are written as one margin or as another. That holds of the margin itself,
and of the empty one. -/
def WritesMargin (style : Style) (inner margin : String) : Prop :=
  Glyph.renderAll style margin (Glyph.ofMargin inner) = margin.toList

theorem writesMargin_self (style : Style) (margin : String) : WritesMargin style margin margin := by
  unfold WritesMargin Glyph.ofMargin
  split
  · rename_i empty
    rw [String.isEmpty_iff.1 empty]
    rfl
  · simp [Glyph.render]

theorem writesMargin_empty (style : Style) (margin : String) : WritesMargin style margin "" := by
  unfold WritesMargin Glyph.ofMargin
  split
  · rfl
  · rfl

/-! ## Layout -/

def LineBreak.glyphs : LineBreak → List Glyph
  | .usual => [.usualBreak]
  | .exact text => Glyph.ofText text

def LineEnd.glyphs (line : LineEnd) : List Glyph :=
  Glyph.ofText line.blank ++ Glyph.ofText (line.comment.getD "") ++ line.ending.glyphs

def BlankLine.glyphs (margin : String) (line : BlankLine) : List Glyph :=
  (if line.indented then Glyph.ofMargin margin else []) ++ Glyph.ofText line.blank ++
    Glyph.ofText (line.comment.getD "") ++ line.ending.glyphs

def Gap.glyphs (margin : String) : Gap → List Glyph
  | .inline text => Glyph.ofText text
  | .broken first lines indented last =>
    first.glyphs ++ lines.flatMap (BlankLine.glyphs margin) ++
      (if indented then Glyph.ofMargin margin else []) ++ Glyph.ofText last

/-- The glyphs of a phrase, with the gap before its first token. -/
def Phrase.glyphs (margin : String) (phrase : Phrase) : List Glyph :=
  phrase.flatMap fun lexeme => lexeme.gap.glyphs margin ++ Glyph.ofText lexeme.text

variable {style : Style} {inner margin : String}

theorem LineBreak.render_toList (margin : String) (ending : LineBreak) :
    (ending.render style).toList = Glyph.renderAll style margin ending.glyphs := by
  cases ending with
  | usual => simp [LineBreak.render, LineBreak.glyphs, Glyph.render]
  | exact text => simp [LineBreak.render, LineBreak.glyphs]

theorem LineEnd.render_toList (margin : String) (line : LineEnd) :
    (line.render style).toList = Glyph.renderAll style margin line.glyphs := by
  simp [LineEnd.render, LineEnd.glyphs, LineBreak.render_toList margin]

theorem renderAll_indentation (writes : WritesMargin style inner margin) (indented : Bool) :
    Glyph.renderAll style margin (if indented then Glyph.ofMargin inner else []) =
      (if indented then margin else "").toList := by
  cases indented with
  | false => rfl
  | true => exact writes

theorem BlankLine.render_toList (writes : WritesMargin style inner margin) (line : BlankLine) :
    (line.render style margin).toList = Glyph.renderAll style margin (line.glyphs inner) := by
  unfold BlankLine.render BlankLine.glyphs
  simp only [String.toList_append, Glyph.renderAll_append, Glyph.renderAll_ofText,
    renderAll_indentation writes, LineBreak.render_toList margin]

theorem BlankLine.renderAll_toList (writes : WritesMargin style inner margin)
    (lines : List BlankLine) :
    (BlankLine.renderAll style margin lines).toList =
      Glyph.renderAll style margin (lines.flatMap (BlankLine.glyphs inner)) := by
  unfold BlankLine.renderAll Glyph.renderAll
  rw [String.toList_join, List.flatMap_map, List.flatMap_assoc]
  simp only [BlankLine.render_toList writes, Glyph.renderAll]

theorem Gap.render_toList (writes : WritesMargin style inner margin) (gap : Gap) :
    (gap.render style margin).toList = Glyph.renderAll style margin (gap.glyphs inner) := by
  cases gap with
  | inline text => simp [Gap.render, Gap.glyphs]
  | broken first lines indented last =>
      unfold Gap.render Gap.glyphs
      simp only [String.toList_append, Glyph.renderAll_append, Glyph.renderAll_ofText,
        renderAll_indentation writes, BlankLine.renderAll_toList writes,
        LineEnd.render_toList margin]

/-- A phrase is written glyph by glyph. -/
theorem Phrase.render_toList (writes : WritesMargin style inner margin) (phrase : Phrase) :
    (phrase.render style margin).toList = Glyph.renderAll style margin (phrase.glyphs inner) := by
  unfold Phrase.render Phrase.glyphs Glyph.renderAll
  rw [String.toList_join, List.flatMap_map, List.flatMap_assoc]
  simp only [String.toList_append, Gap.render_toList writes, Glyph.renderAll, List.flatMap_append]
  congr 1
  funext lexeme
  exact congrArg _ (Glyph.renderAll_ofText lexeme.text).symm

/-! ## Arguments of decorators -/

/-- The glyphs of a decorator's arguments, from the first token to before the closing
parenthesis. -/
def Decorator.argumentGlyphs (margin : String) (decorator : Decorator) : List Glyph :=
  match decorator.arguments with
  | [] => []
  | arguments =>
    (Phrase.flush arguments).glyphs margin ++
      (decorator.closing.take 1).flatMap fun lexeme => lexeme.gap.glyphs margin

/-- The arguments of a decorator that is called are written glyph by glyph. -/
theorem Decorator.renderAll_argumentGlyphs (writes : WritesMargin style inner margin)
    {decorator : Decorator} (called : decorator.arguments ≠ []) :
    Glyph.renderAll style margin (decorator.argumentGlyphs inner) =
      ((Phrase.flush decorator.arguments).render style margin ++
        String.join ((decorator.closing.take 1).map fun lexeme =>
          lexeme.gap.render style margin)).toList := by
  unfold Decorator.argumentGlyphs
  cases present : decorator.arguments with
  | nil => exact absurd present called
  | cons first rest =>
      dsimp only
      rw [String.toList_append, Phrase.render_toList writes, Glyph.renderAll_append,
        String.toList_join, List.flatMap_map]
      unfold Glyph.renderAll
      rw [List.flatMap_assoc]
      simp only [Gap.render_toList writes, Glyph.renderAll]

/-- The arguments of a decorator are read as if they were written alone. -/
theorem Decorator.argumentText_toList (margin : String) (decorator : Decorator) :
    decorator.argumentText.toList = Glyph.alone (decorator.argumentGlyphs margin) := by
  by_cases called : decorator.arguments = []
  · unfold Decorator.argumentText Decorator.argumentGlyphs
    rw [called]
    rfl
  · unfold Glyph.alone
    rw [Decorator.renderAll_argumentGlyphs (writesMargin_empty .standard margin) called]
    unfold Decorator.argumentText
    cases present : decorator.arguments with
    | nil => exact absurd present called
    | cons first rest => rfl

/-! ## Margins -/

theorem Glyph.margin_notMem_ofText (text : String) : Glyph.margin ∉ Glyph.ofText text := by
  simp [Glyph.ofText]

theorem LineBreak.margin_notMem_glyphs (ending : LineBreak) : Glyph.margin ∉ ending.glyphs := by
  cases ending with
  | usual => simp [LineBreak.glyphs]
  | exact text => exact Glyph.margin_notMem_ofText text

theorem LineEnd.margin_notMem_glyphs (line : LineEnd) : Glyph.margin ∉ line.glyphs := by
  simp [LineEnd.glyphs, Glyph.margin_notMem_ofText, LineBreak.margin_notMem_glyphs]

theorem Gap.margin_notMem_glyphs (gap : Gap) : Glyph.margin ∉ gap.glyphs "" := by
  cases gap with
  | inline text => exact Glyph.margin_notMem_ofText text
  | broken first lines indented last =>
      simp [Gap.glyphs, BlankLine.glyphs, Glyph.ofMargin, Glyph.margin_notMem_ofText,
        LineBreak.margin_notMem_glyphs, LineEnd.margin_notMem_glyphs]

/-- Arguments have margins only in a block that has one. -/
theorem Decorator.margin_shown {margin : String} {decorator : Decorator}
    (member : .margin ∈ decorator.argumentGlyphs margin) : margin ≠ "" := by
  rintro rfl
  unfold Decorator.argumentGlyphs at member
  split at member
  · cases member
  · simp [Phrase.glyphs, Gap.margin_notMem_glyphs, Glyph.margin_notMem_ofText] at member

/-! ## Pieces of a row -/

namespace Glyph

theorem alone_cons (glyph : Glyph) (glyphs : List Glyph) :
    alone (glyph :: glyphs) = alone [glyph] ++ alone glyphs := alone_append [glyph] glyphs

/-- Alone, a glyph is one character, or a margin and nothing. -/
theorem alone_singleton (glyph : Glyph) :
    glyph = .margin ∧ alone [glyph] = [] ∨ glyph ≠ .margin ∧ ∃ c, alone [glyph] = [c] := by
  cases glyph with
  | written c => exact Or.inr ⟨Glyph.noConfusion, c, rfl⟩
  | usualBreak => exact Or.inr ⟨Glyph.noConfusion, '\n', rfl⟩
  | margin => exact Or.inl ⟨rfl, rfl⟩

/-- A row can be cut where its text is cut, so that no margin follows. -/
theorem exists_cut_before {glyphs : List Glyph} {first second : List Char}
    (whole : alone glyphs = first ++ second) :
    ∃ front back, glyphs = front ++ back ∧ alone front = first ∧ alone back = second ∧
      back.head? ≠ some .margin := by
  induction glyphs generalizing first with
  | nil =>
      obtain ⟨rfl, rfl⟩ := List.nil_eq_append_iff.1 whole
      exact ⟨[], [], rfl, rfl, rfl, by simp⟩
  | cons glyph rest inductionHypothesis =>
      rw [alone_cons] at whole
      rcases alone_singleton glyph with ⟨rfl, empty⟩ | ⟨notMargin, c, single⟩
      · rw [empty, List.nil_append] at whole
        obtain ⟨front, back, rfl, left, right, shown⟩ := inductionHypothesis whole
        refine ⟨.margin :: front, back, rfl, ?_, right, shown⟩
        rw [alone_cons, empty, left, List.nil_append]
      · cases first with
        | nil =>
            refine ⟨[], glyph :: rest, rfl, rfl, ?_, ?_⟩
            · rw [alone_cons, whole, List.nil_append]
            · intro impossible
              exact notMargin (Option.some.inj impossible)
        | cons d others =>
            rw [single] at whole
            obtain ⟨rfl, others'⟩ := List.cons.inj whole
            obtain ⟨front, back, rfl, left, right, shown⟩ := inductionHypothesis others'
            refine ⟨glyph :: front, back, rfl, ?_, right, shown⟩
            rw [alone_cons, single, left]
            rfl

/-- A row can be cut where its text is cut, so that no margin precedes. -/
theorem exists_cut_behind {glyphs : List Glyph} {first second : List Char}
    (whole : alone glyphs = first ++ second) :
    ∃ front back, glyphs = front ++ back ∧ alone front = first ∧ alone back = second ∧
      front.getLast? ≠ some .margin := by
  induction glyphs generalizing first with
  | nil =>
      obtain ⟨rfl, rfl⟩ := List.nil_eq_append_iff.1 whole
      exact ⟨[], [], rfl, rfl, rfl, by simp⟩
  | cons glyph rest inductionHypothesis =>
      cases first with
      | nil => exact ⟨[], glyph :: rest, rfl, rfl, whole, by simp⟩
      | cons d others =>
          rw [alone_cons] at whole
          rcases alone_singleton glyph with ⟨rfl, empty⟩ | ⟨notMargin, c, single⟩
          · rw [empty, List.nil_append] at whole
            obtain ⟨front, back, rfl, left, right, shown⟩ := inductionHypothesis whole
            refine ⟨.margin :: front, back, rfl, ?_, right, ?_⟩
            · rw [alone_cons, empty, left, List.nil_append]
            · cases front with
              | nil => cases left
              | cons next more => rwa [List.getLast?_cons_cons]
          · rw [single] at whole
            obtain ⟨rfl, others'⟩ := List.cons.inj whole
            obtain ⟨front, back, rfl, left, right, shown⟩ := inductionHypothesis others'
            refine ⟨glyph :: front, back, rfl, ?_, right, ?_⟩
            · rw [alone_cons, single, left]
              rfl
            · cases front with
              | nil =>
                  intro impossible
                  exact notMargin (Option.some.inj impossible)
              | cons next more => rwa [List.getLast?_cons_cons]

/-- **A piece of the text that is written alone is a piece of the row**, which neither begins nor
ends with a margin. -/
theorem exists_piece {glyphs : List Glyph} {before text after : List Char} (nonempty : text ≠ [])
    (whole : alone glyphs = before ++ (text ++ after)) :
    ∃ front piece back, glyphs = front ++ (piece ++ back) ∧ alone front = before ∧
      alone piece = text ∧ alone back = after ∧
      piece.head? ≠ some .margin ∧ piece.getLast? ≠ some .margin := by
  obtain ⟨front, rest, rfl, left, right, shown⟩ := exists_cut_before whole
  obtain ⟨piece, back, rfl, inner, outer, closed⟩ := exists_cut_behind right
  refine ⟨front, piece, back, rfl, left, inner, outer, ?_, closed⟩
  cases piece with
  | nil => exact absurd inner.symm nonempty
  | cons glyph others => exact shown

end Glyph

end ModuleGlue.Source
