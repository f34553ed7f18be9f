import ModuleGlue.Text.Quoted

/-!
Contract: the bodies of quoted literals.

Main statements: `pointForm_quotePoint` (what one code point is written as) and `quote_eq` (a quoted
literal is a body between two quotes that do not stand in it unprotected).

Owns: what may stand between the quotes of a literal on one line.

Does not own: what a literal denotes.
-/

namespace ModuleGlue.Text

/-! ## Code points -/

/-- The letters of escapes, with what they are written for. -/
def quotedLetters : List (Char × Char) :=
  [('\'', '\''), ('"', '"'), ('\\', '\\'), ('n', '\n'), ('r', '\r'), ('t', '\t')]

/-- The ways to write a code point between two quotes: by number, by letter, or as it is. -/
inductive PointForm (quote : Char) (point : CodePoint) : List Char → Prop
  | number : PointForm quote point (numericEscape point.value)
  | letter {letter c : Char} (tabled : (letter, c) ∈ quotedLetters) (same : point = .ofChar c) :
      PointForm quote point ['\\', letter]
  | plain {c : Char} (same : point = .ofChar c) (noQuote : c ≠ quote) (noBackslash : c ≠ '\\')
      (noReturn : c ≠ '\r') (noFeed : c ≠ '\n') (printable : isPrintable c.toNat = true) :
      PointForm quote point [c]

/-- A code point is written in one of these ways. -/
theorem pointForm_quotePoint {quote : Char} (isQuote : quote = '\'' ∨ quote = '"')
    (point : CodePoint) : PointForm quote point (quotePoint quote point) := by
  unfold quotePoint
  cases character : point.toChar? with
  | none => exact .number
  | some c =>
      have same : point = .ofChar c := CodePoint.toChar?_eq_some_iff.1 character
      have number : c.toNat = point.value := by
        rw [same]
        rfl
      dsimp only
      split
      · rename_i special
        refine .letter ?_ same
        have known : c = quote ∨ c = '\\' := by simpa using special
        rcases known with rfl | rfl
        · rcases isQuote with rfl | rfl <;> decide
        · decide
      · rename_i plain
        have apart : c ≠ quote ∧ c ≠ '\\' := by simpa using plain
        split
        · rename_i feed
          exact .letter (by decide) (feed ▸ same)
        · rename_i noFeed
          split
          · rename_i isReturn
            exact .letter (by decide) (isReturn ▸ same)
          · rename_i noReturn
            split
            · rename_i tab
              exact .letter (by decide) (tab ▸ same)
            · split
              · rename_i printable
                exact .plain same apart.1 apart.2 noReturn noFeed printable
              · rw [number]
                exact .number

/-! ## Bodies -/

/-- The body of a literal between two quotes on one line: backslashes protect what follows them, and
neither the quote nor a line break stands there unprotected. -/
inductive QuotedBody (quote : Char) : List Char → Prop
  | nil : QuotedBody quote []
  | plain {c : Char} {rest : List Char} (noQuote : c ≠ quote) (noBackslash : c ≠ '\\')
      (noReturn : c ≠ '\r') (noFeed : c ≠ '\n') (follows : QuotedBody quote rest) :
      QuotedBody quote (c :: rest)
  | escaped {c : Char} {rest : List Char} (noReturn : c ≠ '\r')
      (follows : QuotedBody quote rest) : QuotedBody quote ('\\' :: c :: rest)

namespace QuotedBody

variable {quote : Char}

theorem append {first second : List Char} (body : QuotedBody quote first)
    (behind : QuotedBody quote second) : QuotedBody quote (first ++ second) := by
  induction body with
  | nil => exact behind
  | plain noQuote noBackslash noReturn noFeed follows inductionHypothesis =>
      exact .plain noQuote noBackslash noReturn noFeed inductionHypothesis
  | escaped noReturn follows inductionHypothesis => exact .escaped noReturn inductionHypothesis

/-- Characters that need no protection are a body. -/
theorem of_plain {body : List Char}
    (plain : body.all (fun c => c != quote && c != '\\' && c != '\r' && c != '\n') = true) :
    QuotedBody quote body := by
  induction body with
  | nil => exact .nil
  | cons c rest inductionHypothesis =>
      rw [List.all_cons, Bool.and_eq_true] at plain
      have apart : ((c ≠ quote ∧ c ≠ '\\') ∧ c ≠ '\r') ∧ c ≠ '\n' := by simpa using plain.1
      obtain ⟨⟨⟨noQuote, noBackslash⟩, noReturn⟩, noFeed⟩ := apart
      exact .plain noQuote noBackslash noReturn noFeed (inductionHypothesis plain.2)

/-- Hexadecimal digits are neither quotes nor breaks nor backslashes. -/
theorem hexDigits (isQuote : quote = '\'' ∨ quote = '"') (width value : Nat) :
    QuotedBody quote (hexDigits width value) := by
  have digits : ∀ digit : Fin 16, hexDigit digit.val ≠ '\'' ∧ hexDigit digit.val ≠ '"' ∧
      hexDigit digit.val ≠ '\\' ∧ hexDigit digit.val ≠ '\r' ∧ hexDigit digit.val ≠ '\n' := by
    decide
  induction width generalizing value with
  | zero => exact .nil
  | succ width inductionHypothesis =>
      obtain ⟨single, double, noBackslash, noReturn, noFeed⟩ :=
        digits ⟨value % 16, Nat.mod_lt _ (by decide)⟩
      have noQuote : hexDigit (value % 16) ≠ quote := by
        rcases isQuote with rfl | rfl
        · exact single
        · exact double
      exact (inductionHypothesis (value / 16)).append
        (.plain noQuote noBackslash noReturn noFeed .nil)

theorem numericEscape (isQuote : quote = '\'' ∨ quote = '"') (point : Nat) :
    QuotedBody quote (numericEscape point) := by
  unfold Text.numericEscape
  split
  · exact .escaped (by decide) (hexDigits isQuote _ _)
  · split
    · exact .escaped (by decide) (hexDigits isQuote _ _)
    · exact .escaped (by decide) (hexDigits isQuote _ _)

theorem quotePoint (isQuote : quote = '\'' ∨ quote = '"') (point : CodePoint) :
    QuotedBody quote (quotePoint quote point) := by
  have form := pointForm_quotePoint isQuote point
  generalize Text.quotePoint quote point = written at form ⊢
  cases form with
  | number => exact numericEscape isQuote _
  | letter tabled same =>
      have noReturn : ∀ pair ∈ quotedLetters, pair.1 ≠ '\r' := by decide
      exact .escaped (noReturn _ tabled) .nil
  | plain same noQuote noBackslash noReturn noFeed printable =>
      exact .plain noQuote noBackslash noReturn noFeed .nil

end QuotedBody

theorem chooseQuote_eq (points : Points) :
    chooseQuote points = '\'' ∨ chooseQuote points = '"' := by
  unfold chooseQuote
  split
  · exact Or.inr rfl
  · exact Or.inl rfl

/-- What stands for some code points is a body. -/
theorem quotedBody_flatMap {delimiter : Char} (isQuote : delimiter = '\'' ∨ delimiter = '"')
    (points : Points) : QuotedBody delimiter (points.flatMap (quotePoint delimiter)) := by
  induction points with
  | nil => exact .nil
  | cons point rest inductionHypothesis =>
      rw [List.flatMap_cons]
      exact (QuotedBody.quotePoint isQuote point).append inductionHypothesis

/-- **A quoted literal is a body between two quotes.** -/
theorem quote_eq (points : Points) :
    ∃ delimiter body, (delimiter = '\'' ∨ delimiter = '"') ∧ QuotedBody delimiter body ∧
      quote points = delimiter :: (body ++ [delimiter]) :=
  ⟨chooseQuote points, _, chooseQuote_eq points, quotedBody_flatMap (chooseQuote_eq points) points,
    rfl⟩

end ModuleGlue.Text
