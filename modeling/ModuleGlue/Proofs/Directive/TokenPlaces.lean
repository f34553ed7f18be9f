import ModuleGlue.Directive.Cursor

/-!
Contract: where tokens stand in the text they were read from.

Main statement: `exists_stands_of_mem`. A token is a piece of the text, and its span runs from the
position before that piece to the position behind it.

Owns: places in the text of an argument list.

Does not own: places in the file in which the text stands.
-/

namespace ModuleGlue.Directive

/-- A token stands in a text that begins at a position: some text before it, its own text, and some
text after it; the span is measured along the text. -/
structure Token.Stands (token : Token) (position : Position) (text before after : List Char) :
    Prop where
  text_eq : text = before ++ (token.text.toList ++ after)
  nonempty : token.text.toList ≠ []
  start : token.span.start = position.advance before
  stop : token.span.stop = position.advance (before ++ token.text.toList)

/-- Text in front of a text moves the position at which that begins. -/
theorem Token.Stands.behind {token : Token} {position : Position} {text before after : List Char}
    (front : List Char) (stands : token.Stands (position.advance front) text before after) :
    token.Stands position (front ++ text) (front ++ before) after where
  text_eq := by rw [stands.text_eq, List.append_assoc]
  nonempty := stands.nonempty
  start := by rw [stands.start, Position.advance_append]
  stop := by rw [stands.stop, List.append_assoc, Position.advance_append position front]

/-- **Every token stands in the text it was read from.** -/
theorem exists_stands_of_mem {position : Position} {text : List Char} {token : Token}
    (member : token ∈ tokensFrom position text) :
    ∃ before after, token.Stands position text before after := by
  fun_induction tokensFrom position text with
  | case1 position text layout division => cases member
  | case2 position text layout first rest division start found stop inductionHypothesis =>
      have pieces : layout ++ (found.2.1 ++ found.2.2) = text := by
        rw [lexeme_append]
        have whole := splitLayout_append text
        rwa [division] at whole
      rcases List.mem_cons.1 member with rfl | later
      · refine ⟨layout, found.2.2, ?_, ?_, rfl, ?_⟩
        · rw [String.toList_ofList, pieces]
        · rw [String.toList_ofList]
          exact lexeme_ne_nil first rest
        · rw [String.toList_ofList, Position.advance_append]
      · obtain ⟨before, after, stands⟩ := inductionHypothesis later
        have reached : stop = position.advance (layout ++ found.2.1) :=
          (Position.advance_append position layout found.2.1).symm
        rw [reached] at stands
        rw [← pieces, ← List.append_assoc]
        exact ⟨layout ++ found.2.1 ++ before, after, stands.behind (layout ++ found.2.1)⟩

end ModuleGlue.Directive
