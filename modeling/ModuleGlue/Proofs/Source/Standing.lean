import ModuleGlue.Proofs.Source.Glyphs

/-!
Contract: where a decorator stands in the text of its file.

Main statements: `Stands.renderAll_eq` (the text of a block around one of its decorators, however
deep that stands) and `Decorator.render_toList` (the text of a decorator around its arguments).

Owns: the ways from a block down to the decorators of its functions, with the text on both sides.

Does not own: positions.
-/

namespace ModuleGlue.Source

/-! ## Statements in a row -/

theorem Statement.renderAll_append (style : Style) (margin : String)
    (first second : List Statement) :
    Statement.renderAll style margin (first ++ second) =
      Statement.renderAll style margin first ++ Statement.renderAll style margin second := by
  induction first with
  | nil => simp [Statement.renderAll]
  | cons statement rest inductionHypothesis =>
      simp only [List.cons_append, Statement.renderAll, inductionHypothesis, String.append_assoc]

theorem Clause.renderAll_append (style : Style) (margin : String) (first second : List Clause) :
    Clause.renderAll style margin (first ++ second) =
      Clause.renderAll style margin first ++ Clause.renderAll style margin second := by
  induction first with
  | nil => simp [Clause.renderAll]
  | cons clause rest inductionHypothesis =>
      simp only [List.cons_append, Clause.renderAll, inductionHypothesis, String.append_assoc]

/-! ## From a block to its decorators -/

/-- Among the statements of a block with the margin `margin`, a function in a block with the margin
`inner` has a decorator, which stands between two texts. One rule for each way to go down. -/
inductive Stands (style : Style) :
    (margin : String) → List Statement → (before inner : String) → Decorator → (after : String) →
      Prop
  /-- On a function of the block. -/
  | here {margin : String} {front back : List Statement} {head : Head} {signature : Signature}
      {body : Suite} {first others : List Decorator} {decorator : Decorator}
      (split : head.decorators = first ++ decorator :: others) :
      Stands style margin (front ++ .function head signature body :: back)
        (Statement.renderAll style margin front ++ BlankLine.renderAll style margin head.leading ++
          String.join (first.map (Decorator.render style margin)))
        margin decorator
        (String.join (others.map (Decorator.render style margin)) ++
          BlankLine.renderAll style margin head.afterDecorators ++ margin ++
          signature.phrase.render style margin ++ Suite.render style margin body ++
          Statement.renderAll style margin back)
  /-- In the block of a function. -/
  | function {margin before inner after : String} {front back : List Statement} {head : Head}
      {signature : Signature} {header : LineEnd} {indent : Option String} {body : List Statement}
      {footer : List BlankLine} {decorator : Decorator}
      (inside : Stands style (margin ++ indent.getD style.indent) body before inner decorator
        after) :
      Stands style margin
        (front ++ .function head signature (.block header indent body footer) :: back)
        (Statement.renderAll style margin front ++ head.render style margin ++ margin ++
          signature.phrase.render style margin ++ header.render style ++ before)
        inner decorator
        (after ++ BlankLine.renderAll style (margin ++ indent.getD style.indent) footer ++
          Statement.renderAll style margin back)
  /-- In the block of another statement. -/
  | compound {margin before inner after : String} {front back : List Statement} {head : Head}
      {phrase : Phrase} {header : LineEnd} {indent : Option String} {body : List Statement}
      {footer : List BlankLine} {clauses : List Clause} {decorator : Decorator}
      (inside : Stands style (margin ++ indent.getD style.indent) body before inner decorator
        after) :
      Stands style margin
        (front ++ .compound head phrase (.block header indent body footer) clauses :: back)
        (Statement.renderAll style margin front ++ head.render style margin ++ margin ++
          phrase.render style margin ++ header.render style ++ before)
        inner decorator
        (after ++ BlankLine.renderAll style (margin ++ indent.getD style.indent) footer ++
          Clause.renderAll style margin clauses ++ Statement.renderAll style margin back)
  /-- In the block of a further clause. -/
  | clause {margin before inner after : String} {front back : List Statement} {head : Head}
      {phrase clausePhrase : Phrase} {suite : Suite} {leading : List BlankLine} {header : LineEnd}
      {indent : Option String} {body : List Statement} {footer : List BlankLine}
      {first others : List Clause} {decorator : Decorator}
      (inside : Stands style (margin ++ indent.getD style.indent) body before inner decorator
        after) :
      Stands style margin
        (front ++ .compound head phrase suite
          (first ++ .mk leading clausePhrase (.block header indent body footer) :: others) :: back)
        (Statement.renderAll style margin front ++ head.render style margin ++ margin ++
          phrase.render style margin ++ Suite.render style margin suite ++
          Clause.renderAll style margin first ++ BlankLine.renderAll style margin leading ++
          margin ++ clausePhrase.render style margin ++ header.render style ++ before)
        inner decorator
        (after ++ BlankLine.renderAll style (margin ++ indent.getD style.indent) footer ++
          Clause.renderAll style margin others ++ Statement.renderAll style margin back)

/-- **A block is written around each decorator in it**, at the margin of the block where that
stands. -/
theorem Stands.renderAll_eq {style : Style} {margin before inner after : String}
    {statements : List Statement} {decorator : Decorator}
    (stands : Stands style margin statements before inner decorator after) :
    Statement.renderAll style margin statements =
      before ++ decorator.render style inner ++ after := by
  induction stands with
  | here split =>
      simp only [Statement.renderAll_append, Statement.renderAll, Statement.render, Head.render,
        split, List.map_append, List.map_cons, String.join_append, String.join_cons,
        String.append_assoc]
  | function inside inductionHypothesis =>
      simp only [Statement.renderAll_append, Statement.renderAll, Statement.render, Suite.render,
        inductionHypothesis, String.append_assoc]
  | compound inside inductionHypothesis =>
      simp only [Statement.renderAll_append, Statement.renderAll, Statement.render, Suite.render,
        inductionHypothesis, String.append_assoc]
  | clause inside inductionHypothesis =>
      simp only [Statement.renderAll_append, Statement.renderAll, Statement.render,
        Clause.renderAll_append, Clause.renderAll, Clause.render, Suite.render, inductionHypothesis,
        String.append_assoc]

/-! ## From a decorator to its arguments -/

theorem Phrase.render_append (style : Style) (margin : String) (first second : Phrase) :
    Phrase.render style margin (first ++ second) =
      Phrase.render style margin first ++ Phrase.render style margin second := by
  unfold Phrase.render
  rw [List.map_append, String.join_append]

/-- A phrase is the gap before its first token, and the rest. -/
theorem Phrase.render_eq_flush (style : Style) (margin : String) (phrase : Phrase) :
    phrase.render style margin =
      ((phrase.head?.map Lexeme.gap).getD .empty).render style margin ++
        phrase.flush.render style margin := by
  cases phrase with
  | nil => rfl
  | cons first rest =>
      unfold Phrase.render Phrase.flush
      simp [Gap.empty, Gap.render, String.append_assoc]

/-- The text of a decorator up to its first argument. -/
def Decorator.untilArguments (style : Style) (margin : String) (decorator : Decorator) : String :=
  BlankLine.renderAll style margin decorator.leading ++ margin ++
    decorator.opening.render style margin ++
      ((decorator.arguments.head?.map Lexeme.gap).getD .empty).render style margin

/-- The text of a decorator from its closing parenthesis on. -/
def Decorator.behindArguments (style : Style) (margin : String) (decorator : Decorator) : String :=
  String.join ((decorator.closing.take 1).map Lexeme.text) ++
    Phrase.render style margin (decorator.closing.drop 1) ++ decorator.ending.render style

/-- A phrase is the gap before its first token, that token, and the rest. -/
theorem Phrase.render_eq_take_one (style : Style) (margin : String) (phrase : Phrase) :
    phrase.render style margin =
      String.join ((phrase.take 1).map fun lexeme => lexeme.gap.render style margin) ++
        (String.join ((phrase.take 1).map Lexeme.text) ++
          Phrase.render style margin (phrase.drop 1)) := by
  cases phrase with
  | nil => rfl
  | cons first rest => simp [Phrase.render, String.append_assoc]

/-- **A decorator with arguments is written around them.** -/
theorem Decorator.render_toList (style : Style) (margin : String) {decorator : Decorator}
    (called : decorator.arguments ≠ []) :
    (decorator.render style margin).toList =
      (decorator.untilArguments style margin).toList ++
        Glyph.renderAll style margin (decorator.argumentGlyphs margin) ++
          (decorator.behindArguments style margin).toList := by
  unfold Decorator.render Decorator.phrase Decorator.untilArguments Decorator.behindArguments
  rw [Decorator.renderAll_argumentGlyphs (writesMargin_self style margin) called,
    Phrase.render_append, Phrase.render_append, Phrase.render_eq_flush _ _ decorator.arguments,
    Phrase.render_eq_take_one _ _ decorator.closing]
  simp only [String.toList_append, List.append_assoc]

end ModuleGlue.Source
