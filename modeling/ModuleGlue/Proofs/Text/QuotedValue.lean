import Mathlib.Algebra.Group.Nat.Defs
import ModuleGlue.Proofs.Text.LiteralGrammar
import ModuleGlue.Proofs.Text.Quoted

/-!
Contract: what a quoted literal denotes.

A text is written as one literal between single or double quotes: characters that can be seen stand
for themselves, the quote and the backslash are escaped, and everything else is an escape by letter
or by number. The numbers have two, four or eight digits, whichever is the first to reach the code
point. So the literal is a line of printable characters, and denotes the text that it was written
for, whatever that is.

Main statement: `literalValue?_quote`.

Owns: quoted literals as literals of the grammar.

Does not own: the readers of literals.
-/

namespace ModuleGlue.Text

/-! ## Numbers -/

/-- The digits of a number spell the number, as far as they reach. -/
theorem hexDigits_spelled (width value : Nat) :
    ∃ values, List.Forall₂ (fun c digit => hexValue? c = some digit) (hexDigits width value) values ∧
      numeral 16 0 values = value % 16 ^ width := by
  induction width generalizing value with
  | zero => exact ⟨[], .nil, by simp [numeral, Nat.mod_one]⟩
  | succ width inductionHypothesis =>
      obtain ⟨values, spelled, number⟩ := inductionHypothesis (value / 16)
      have last : hexValue? (hexDigit (value % 16)) = some (value % 16) :=
        hexValue?_hexDigit (Nat.mod_lt _ (by decide))
      refine ⟨values ++ [value % 16], List.rel_append spelled (.cons last .nil), ?_⟩
      have split : numeral 16 0 (values ++ [value % 16]) = numeral 16 0 values * 16 + value % 16 := by
        simp [numeral, List.foldl_append]
      rw [split, number, Nat.pow_succ', Nat.mod_mul]
      omega

theorem length_hexDigits (width value : Nat) : (hexDigits width value).length = width := by
  induction width generalizing value with
  | zero => rfl
  | succ width inductionHypothesis =>
      rw [hexDigits, List.length_append, inductionHypothesis, List.length_singleton]

/-- An escape by number denotes the code point that it was written for. -/
theorem escape_numericEscape (point : CodePoint) (after : List Char) :
    ∃ escape, numericEscape point.value = '\\' :: escape ∧ Escape after escape [point] := by
  have inRange := point.inRange
  -- The three widths differ in their letter, and in how far they reach.
  have numbered : ∀ letter width, (letter, width) ∈ escapeWidths → point.value < 16 ^ width →
      Escape after (letter :: hexDigits width point.value) [point] := by
    intro letter width tabled reaches
    obtain ⟨values, spelled, number⟩ := hexDigits_spelled width point.value
    rw [Nat.mod_eq_of_lt reaches] at number
    rw [← length_hexDigits width point.value] at tabled
    exact .hexadecimal tabled spelled number.symm
  unfold numericEscape
  by_cases narrow : point.value < 0x100
  · rw [if_pos narrow]
    exact ⟨_, rfl, numbered 'x' 2 (by decide) (by simpa using narrow)⟩
  · rw [if_neg narrow]
    by_cases middle : point.value < 0x10000
    · rw [if_pos middle]
      exact ⟨_, rfl, numbered 'u' 4 (by decide) (by simpa using middle)⟩
    · rw [if_neg middle]
      exact ⟨_, rfl, numbered 'U' 8 (by decide) (by omega)⟩

/-! ## Code points -/

section
variable {delimiter : Char}

/-- **One code point is written as what denotes it.** -/
theorem unescaped_quotePoint (isQuote : delimiter = '\'' ∨ delimiter = '"') (point : CodePoint)
    {rest : List Char} {value : Points} (more : Unescaped rest value) :
    Unescaped (quotePoint delimiter point ++ rest) (point :: value) := by
  have form := pointForm_quotePoint isQuote point
  generalize quotePoint delimiter point = written at form ⊢
  cases form with
  | number =>
      obtain ⟨escape, written, spelled⟩ := escape_numericEscape point rest
      rw [written]
      exact .escape spelled more
  | letter tabled same =>
      have known : ∀ pair ∈ quotedLetters, pair ∈ escapeLetters := by decide
      rw [same]
      exact .escape (.letter (known _ tabled)) more
  | plain same _ noBackslash _ _ _ =>
      rw [same]
      exact .char noBackslash more

theorem unescaped_flatMap (isQuote : delimiter = '\'' ∨ delimiter = '"') (points : Points) :
    Unescaped (points.flatMap (quotePoint delimiter)) points := by
  induction points with
  | nil => exact .nothing
  | cons point rest inductionHypothesis =>
      rw [List.flatMap_cons]
      exact unescaped_quotePoint isQuote point inductionHypothesis

/-! ## Printable characters -/

theorem isPrintable_hexDigits (width value : Nat) :
    ∀ c ∈ hexDigits width value, isPrintable c.toNat = true := by
  have digits : ∀ digit : Fin 16, isPrintable (hexDigit digit.val).toNat = true := by decide
  induction width generalizing value with
  | zero =>
      intro c member
      cases member
  | succ width inductionHypothesis =>
      intro c member
      rw [hexDigits, List.mem_append, List.mem_singleton] at member
      rcases member with member | rfl
      · exact inductionHypothesis _ c member
      · exact digits ⟨value % 16, Nat.mod_lt _ (by decide)⟩

theorem isPrintable_numericEscape (point : Nat) :
    ∀ c ∈ numericEscape point, isPrintable c.toNat = true := by
  have written : ∀ (letter : Char) width, isPrintable letter.toNat = true →
      ∀ c ∈ '\\' :: letter :: hexDigits width point, isPrintable c.toNat = true := by
    intro letter width printable c member
    rcases List.mem_cons.1 member with rfl | member
    · decide
    · rcases List.mem_cons.1 member with rfl | member
      · exact printable
      · exact isPrintable_hexDigits width point c member
  unfold numericEscape
  split
  · exact written 'x' 2 (by decide)
  · split
    · exact written 'u' 4 (by decide)
    · exact written 'U' 8 (by decide)

/-- What stands for a code point is printable. -/
theorem isPrintable_quotePoint (isQuote : delimiter = '\'' ∨ delimiter = '"') (point : CodePoint) :
    ∀ c ∈ quotePoint delimiter point, isPrintable c.toNat = true := by
  have form := pointForm_quotePoint isQuote point
  generalize quotePoint delimiter point = written at form ⊢
  cases form with
  | number => exact isPrintable_numericEscape _
  | letter tabled same =>
      have printable : ∀ pair ∈ quotedLetters, isPrintable pair.1.toNat = true := by decide
      simp only [List.forall_mem_cons]
      exact ⟨by decide, printable _ tabled, fun _ member => nomatch member⟩
  | plain _ _ _ _ _ printable =>
      simp only [List.forall_mem_cons]
      exact ⟨printable, fun _ member => nomatch member⟩

end

/-- A quoted literal is a line of printable characters. -/
theorem isPrintable_quote (points : Points) : ∀ c ∈ quote points, isPrintable c.toNat = true := by
  have isQuote := chooseQuote_eq points
  have delimiter : isPrintable (chooseQuote points).toNat = true := by
    rcases isQuote with same | same <;> rw [same] <;> decide
  intro c member
  unfold quote at member
  simp only [List.mem_cons, List.mem_append, List.mem_flatMap, List.not_mem_nil, or_false] at member
  rcases member with rfl | ⟨point, -, member⟩ | rfl
  · exact delimiter
  · exact isPrintable_quotePoint isQuote point c member
  · exact delimiter

/-- No line break and no null character stands in a quoted literal. -/
theorem notMem_quote (points : Points) {c : Char} (hidden : isPrintable c.toNat = false) :
    c ∉ quote points := by
  intro member
  rw [isPrintable_quote points c member] at hidden
  cases hidden

/-! ## Literals -/

def quotedLiteral (points : Points) : Literal where
  letters := []
  opening := ⟨chooseQuote points, false, false⟩
  body := points.flatMap (quotePoint (chooseQuote points))

theorem text_quotedLiteral (points : Points) : (quotedLiteral points).text = quote points := rfl

/-- What may stand in a literal on one line is a body by the grammar. -/
theorem QuotedBody.body {delimiter : Char} {body : List Char} (quoted : QuotedBody delimiter body) :
    (Opening.mk delimiter false false).Body body := by
  induction quoted with
  | nil => exact .nothing
  | plain noQuote noBackslash _ noFeed _ inductionHypothesis =>
      refine .char noBackslash ?_ (Or.inr noFeed) inductionHypothesis
      intro closed
      obtain ⟨behind, same⟩ := closed
      exact noQuote (List.cons.inj same).1.symm
  | escaped _ _ inductionHypothesis => exact .escape _ inductionHypothesis

theorem notMem_body (points : Points) {c : Char} (hidden : isPrintable c.toNat = false) :
    c ∉ (quotedLiteral points).body := by
  intro member
  apply notMem_quote points hidden
  exact List.mem_cons_of_mem _ (List.mem_append_left _ member)

/-- No line end has to be unified in a quoted literal. -/
theorem unifyLineEnds_body (points : Points) :
    unifyLineEnds (quotedLiteral points).body = (quotedLiteral points).body :=
  unifyLineEnds_of_noReturn (notMem_body points (by decide))

theorem quotedLiteral_valid (points : Points) : (quotedLiteral points).Valid where
  quoted := (chooseQuote_eq points).symm
  letters := List.mem_cons_self
  noNull := notMem_body points (by decide)
  body := by
    rw [unifyLineEnds_body]
    exact (quotedBody_flatMap (chooseQuote_eq points) points).body

theorem quotedLiteral_denotes (points : Points) : (quotedLiteral points).Denotes points := by
  unfold Literal.Denotes
  rw [unifyLineEnds_body]
  exact unescaped_flatMap (chooseQuote_eq points) points

/-- **A quoted literal denotes what it was written for.** -/
theorem literalValue?_quote (points : Points) : literalValue? (quote points) = some points := by
  rw [← text_quotedLiteral]
  exact Literal.literalValue?_literal (quotedLiteral_valid points) (quotedLiteral_denotes points)

end ModuleGlue.Text
