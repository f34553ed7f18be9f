import ModuleGlue.Directive.Lexer

/-!
Contract: which texts begin with a string.

For each reader of the lexer that takes part in a string it is stated what the text has to be for it
to find something, and what it finds then.

Main statements: `tripleBody_eq_some_iff` (a body between triple quotes goes up to the first three
quotes in a row, whatever stands before them), `quotedLexeme_eq_some_iff`,
`stringLexeme_eq_some_iff`.

Owns: the bodies of strings, their quotes and the letters in front of these.

Does not own: what a string denotes.
-/

namespace ModuleGlue.Directive

/-- The characters that open and close a string. -/
def isQuote (c : Char) : Bool := c == '"' || c == '\''

theorem isQuote_iff {c : Char} : isQuote c = true ↔ c = '"' ∨ c = '\'' := by
  simp [isQuote]

theorem ne_of_isQuote {quote c : Char} (quoted : isQuote quote = true)
    (other : isQuote c = false) : quote ≠ c := by
  rintro rfl
  rw [quoted] at other
  cases other

/-! ## Bodies between single quotes -/

section
variable {quote c : Char} {text body after : List Char}

theorem singleBody_escape (goesOn : c ≠ '\n') (rest : List Char) :
    singleBody quote ('\\' :: c :: rest) =
      (singleBody quote rest).map fun found => ('\\' :: c :: found.1, found.2) := by
  rw [singleBody, if_neg goesOn]

theorem singleBody_quote (notEscape : quote ≠ '\\') (rest : List Char) :
    singleBody quote (quote :: rest) = some ([quote], rest) := by
  rw [singleBody.eq_4]
  · rw [if_pos rfl]
  · intro same
    exact absurd same notEscape
  · intro _ _ same
    exact absurd same notEscape

theorem singleBody_break (notBreak : quote ≠ '\n') (rest : List Char) :
    singleBody quote ('\n' :: rest) = none := by
  rw [singleBody.eq_4]
  · rw [if_neg (Ne.symm notBreak), if_pos rfl]
  · intro same
    cases same
  · intro _ _ same
    cases same

theorem singleBody_char (notEscape : c ≠ '\\') (notQuote : c ≠ quote) (goesOn : c ≠ '\n')
    (rest : List Char) :
    singleBody quote (c :: rest) =
      (singleBody quote rest).map fun found => (c :: found.1, found.2) := by
  rw [singleBody.eq_4]
  · rw [if_neg notQuote, if_neg goesOn]
  · intro same
    exact absurd same notEscape
  · intro _ _ same
    exact absurd same notEscape

/-- What follows the closing quote is never looked at. -/
theorem singleBody_extend {rest : List Char} (after : List Char)
    (found : singleBody quote text = some (body, rest)) :
    singleBody quote (text ++ after) = some (body, rest ++ after) := by
  fun_induction singleBody quote text generalizing body with
  | case1 => cases found
  | case2 => cases found
  | case3 => cases found
  | case4 c others goesOn inductionHypothesis =>
      obtain ⟨⟨inner, rest'⟩, step, same⟩ := Option.map_eq_some_iff.1 found
      obtain ⟨rfl, rfl⟩ := Prod.mk.inj same
      rw [List.cons_append, List.cons_append, singleBody_escape goesOn, inductionHypothesis step]
      rfl
  | case5 others notAlone notPair =>
      obtain ⟨rfl, rfl⟩ := Prod.mk.inj (Option.some.inj found)
      have notEscape : quote ≠ '\\' := by
        intro same
        cases others with
        | nil => exact notAlone same rfl
        | cons c more => exact notPair c more same rfl
      rw [List.cons_append, singleBody_quote notEscape]
  | case6 => cases found
  | case7 c others notAlone notPair notQuote goesOn inductionHypothesis =>
      obtain ⟨⟨inner, rest'⟩, step, same⟩ := Option.map_eq_some_iff.1 found
      obtain ⟨rfl, rfl⟩ := Prod.mk.inj same
      have notEscape : c ≠ '\\' := by
        intro same
        cases others with
        | nil => exact notAlone same rfl
        | cons d more => exact notPair d more same rfl
      rw [List.cons_append, singleBody_char notEscape notQuote goesOn, inductionHypothesis step]
      rfl

/-- A body between single quotes stays on its line. -/
theorem break_notMem_of_singleBody (notBreak : quote ≠ '\n')
    (found : singleBody quote text = some (body, after)) : '\n' ∉ body := by
  fun_induction singleBody quote text generalizing body with
  | case1 => cases found
  | case2 => cases found
  | case3 => cases found
  | case4 c others goesOn inductionHypothesis =>
      obtain ⟨⟨inner, rest'⟩, step, same⟩ := Option.map_eq_some_iff.1 found
      obtain ⟨rfl, rfl⟩ := Prod.mk.inj same
      have inside := inductionHypothesis step
      simp only [List.mem_cons, not_or]
      exact ⟨by decide, Ne.symm goesOn, inside⟩
  | case5 others notAlone notPair =>
      obtain ⟨rfl, rfl⟩ := Prod.mk.inj (Option.some.inj found)
      rw [List.mem_singleton]
      exact Ne.symm notBreak
  | case6 => cases found
  | case7 c others notAlone notPair notQuote goesOn inductionHypothesis =>
      obtain ⟨⟨inner, rest'⟩, step, same⟩ := Option.map_eq_some_iff.1 found
      obtain ⟨rfl, rfl⟩ := Prod.mk.inj same
      rw [List.mem_cons, not_or]
      exact ⟨Ne.symm goesOn, inductionHypothesis step⟩

/-! ## Bodies between triple quotes -/

theorem tripleBody_of_closing (closing : [quote, quote, quote] <+: text) :
    tripleBody quote text = some ([quote, quote, quote], text.drop 3) := by
  cases text with
  | nil => exact absurd closing.length_le (by simp)
  | cons first rest => rw [tripleBody, if_pos (List.isPrefixOf_iff_prefix.2 closing)]

theorem tripleBody_char (notClosed : ¬ [quote, quote, quote] <+: c :: text) :
    tripleBody quote (c :: text) =
      (tripleBody quote text).map fun found => (c :: found.1, found.2) := by
  rw [tripleBody, if_neg fun closing => notClosed (List.isPrefixOf_iff_prefix.1 closing)]

/-- **A body between triple quotes goes up to the first three quotes in a row.** Neither a backslash
before them nor anything behind them matters. -/
theorem tripleBody_eq_some_iff :
    tripleBody quote text = some (body, after) ↔
      ∃ inner, body = inner ++ [quote, quote, quote] ∧
        text = inner ++ ([quote, quote, quote] ++ after) ∧
        ¬ [quote, quote, quote] <:+: inner ++ [quote, quote] := by
  constructor
  · intro found
    induction text generalizing body with
    | nil => cases found
    | cons c rest inductionHypothesis =>
        by_cases closing : [quote, quote, quote] <+: c :: rest
        · rw [tripleBody_of_closing closing] at found
          obtain ⟨rfl, rfl⟩ := Prod.mk.inj (Option.some.inj found)
          obtain ⟨others, whole⟩ := closing
          refine ⟨[], rfl, ?_, fun early => absurd early.length_le (by simp)⟩
          rw [← whole]
          rfl
        · rw [tripleBody_char closing] at found
          obtain ⟨⟨others, rest'⟩, step, same⟩ := Option.map_eq_some_iff.1 found
          obtain ⟨rfl, rfl⟩ := Prod.mk.inj same
          obtain ⟨inner, rfl, rfl, first⟩ := inductionHypothesis step
          refine ⟨c :: inner, rfl, rfl, fun early => ?_⟩
          rw [List.cons_append, List.infix_cons_iff] at early
          rcases early with here | later
          · refine closing (here.trans ⟨quote :: rest', ?_⟩)
            simp
          · exact first later
  · rintro ⟨inner, rfl, rfl, first⟩
    induction inner with
    | nil => exact tripleBody_of_closing (List.prefix_append _ _)
    | cons c inner inductionHypothesis =>
        rw [List.cons_append, List.infix_cons_iff, not_or] at first
        have notClosed : ¬ [quote, quote, quote] <+:
            c :: (inner ++ ([quote, quote, quote] ++ after)) := by
          intro closing
          have whole : c :: (inner ++ ([quote, quote, quote] ++ after)) =
              (c :: (inner ++ [quote, quote])) ++ quote :: after := by simp
          rw [whole] at closing
          exact first.1 (List.prefix_of_prefix_length_le closing (List.prefix_append _ _)
            (by simp))
        rw [List.cons_append, tripleBody_char notClosed, inductionHypothesis first.2]
        rfl

theorem tripleBody_extend {rest : List Char} (after : List Char)
    (found : tripleBody quote text = some (body, rest)) :
    tripleBody quote (text ++ after) = some (body, rest ++ after) := by
  obtain ⟨inner, rfl, rfl, first⟩ := tripleBody_eq_some_iff.1 found
  refine tripleBody_eq_some_iff.2 ⟨inner, rfl, ?_, first⟩
  simp only [List.append_assoc]

end

/-! ## Strings -/

section
variable {quote : Char} {text rest body after : List Char}

/-- Three quotes open a string: one and then two more. -/
theorem tripled_of_pair (more : List Char) :
    quotedLexeme.tripled quote (quote :: quote :: more) =
      (tripleBody quote more).map fun found => (quote :: quote :: quote :: found.1, found.2) := by
  have pair : [quote, quote].isPrefixOf (quote :: quote :: more) = true := by
    rw [List.isPrefixOf_iff_prefix]
    exact ⟨more, rfl⟩
  rw [quotedLexeme.tripled, if_pos pair]
  rfl

theorem tripled_of_noPair (noPair : ∀ more, rest ≠ quote :: quote :: more) :
    quotedLexeme.tripled quote rest = none := by
  rw [quotedLexeme.tripled, if_neg]
  rw [List.isPrefixOf_iff_prefix]
  rintro ⟨more, rfl⟩
  exact noPair more rfl

theorem tripled_eq_some_iff :
    quotedLexeme.tripled quote rest = some (body, after) ↔
      ∃ more inner, rest = quote :: quote :: more ∧
        body = quote :: quote :: quote :: inner ∧ tripleBody quote more = some (inner, after) := by
  constructor
  · intro found
    by_cases pair : ∃ more, rest = quote :: quote :: more
    · obtain ⟨more, rfl⟩ := pair
      rw [tripled_of_pair] at found
      obtain ⟨⟨inner, rest'⟩, step, same⟩ := Option.map_eq_some_iff.1 found
      obtain ⟨rfl, rfl⟩ := Prod.mk.inj same
      exact ⟨more, inner, rfl, rfl, step⟩
    · rw [tripled_of_noPair fun more same => pair ⟨more, same⟩] at found
      cases found
  · rintro ⟨more, inner, rfl, rfl, step⟩
    rw [tripled_of_pair, step]
    rfl

/-- A string at the head of a text that starts with its opening quote stands between triple quotes,
if three quotes open it and are closed somewhere, and between single quotes otherwise. -/
theorem quotedLexeme_eq_some_iff :
    quotedLexeme text = some (body, after) ↔
      ∃ quote rest, isQuote quote = true ∧ text = quote :: rest ∧
        (quotedLexeme.tripled quote rest = some (body, after) ∨
          quotedLexeme.tripled quote rest = none ∧
            ∃ inner, body = quote :: inner ∧ singleBody quote rest = some (inner, after)) := by
  constructor
  · intro found
    cases text with
    | nil => cases found
    | cons quote rest =>
        rw [quotedLexeme] at found
        split at found
        · rename_i isQuote
          refine ⟨quote, rest, isQuote_iff.2 isQuote, rfl, ?_⟩
          split at found
          · rename_i pair triple
            rw [triple]
            exact Or.inl found
          · rename_i noTriple
            obtain ⟨⟨inner, rest'⟩, step, same⟩ := Option.map_eq_some_iff.1 found
            obtain ⟨rfl, rfl⟩ := Prod.mk.inj same
            exact Or.inr ⟨noTriple, inner, rfl, step⟩
        · cases found
  · rintro ⟨quote, rest, isQuote, rfl, triple | ⟨noTriple, inner, rfl, step⟩⟩
    · rw [quotedLexeme, if_pos (isQuote_iff.1 isQuote), triple]
    · rw [quotedLexeme, if_pos (isQuote_iff.1 isQuote), noTriple]
      dsimp only
      rw [step]
      rfl

theorem quotedLexeme_of_noQuote {c : Char} (noQuote : isQuote c = false) :
    quotedLexeme (c :: rest) = none := by
  rw [quotedLexeme, if_neg]
  rw [← isQuote_iff, noQuote]
  exact Bool.false_ne_true

theorem exists_cons_of_quotedLexeme (found : quotedLexeme text = some (body, after)) :
    ∃ quote c rest, text = quote :: c :: rest ∧ isQuote quote = true := by
  obtain ⟨quote, rest, isQuote, rfl, outcome⟩ := quotedLexeme_eq_some_iff.1 found
  cases rest with
  | cons c others => exact ⟨quote, c, others, rfl, isQuote⟩
  | nil =>
      rcases outcome with triple | ⟨-, inner, -, single⟩
      · cases triple
      · cases single

theorem isStringPrefix_of_isQuote {c : Char} (quoted : isQuote c = true) :
    isStringPrefix c = false := by
  rcases isQuote_iff.1 quoted with rfl | rfl <;> decide

/-- At most two letters may stand in front of an opening quote. -/
theorem stringLexeme_letters {letters : List Char} (few : letters.length ≤ 2)
    (all : ∀ letter ∈ letters, isStringPrefix letter = true) (quoted : isQuote quote = true)
    (behind : rest ≠ []) :
    stringLexeme (letters ++ quote :: rest) =
      (quotedLexeme (quote :: rest)).map fun found => (letters ++ found.1, found.2) := by
  obtain ⟨c, others, rfl⟩ := List.exists_cons_of_ne_nil behind
  have noLetter := isStringPrefix_of_isQuote quoted
  match letters with
  | [] =>
      rw [List.nil_append, stringLexeme, noLetter, if_neg Bool.false_ne_true]
      simp
  | [first] =>
      rw [List.singleton_append, stringLexeme, if_pos (all first (by simp)), noLetter,
        if_neg Bool.false_ne_true]
      rfl
  | [first, second] =>
      rw [List.cons_append, List.singleton_append, stringLexeme, if_pos (all first (by simp)),
        if_pos (all second (by simp))]
      rfl
  | _ :: _ :: _ :: _ =>
      simp only [List.length_cons] at few
      omega

/-- A string at the head of a text has at most two letters in front of its opening quote. -/
theorem stringLexeme_eq_some_iff :
    stringLexeme text = some (body, after) ↔
      ∃ letters quoted inner, text = letters ++ quoted ∧ letters.length ≤ 2 ∧
        (∀ c ∈ letters, isStringPrefix c = true) ∧ body = letters ++ inner ∧
        quotedLexeme quoted = some (inner, after) := by
  constructor
  · intro found
    unfold stringLexeme at found
    split at found
    · rename_i first second rest
      split at found
      · rename_i letter
        split at found
        · rename_i letter'
          obtain ⟨⟨inner, rest'⟩, step, same⟩ := Option.map_eq_some_iff.1 found
          obtain ⟨rfl, rfl⟩ := Prod.mk.inj same
          refine ⟨[first, second], rest, inner, rfl, Nat.le_refl 2, ?_, rfl, step⟩
          simp [letter, letter']
        · obtain ⟨⟨inner, rest'⟩, step, same⟩ := Option.map_eq_some_iff.1 found
          obtain ⟨rfl, rfl⟩ := Prod.mk.inj same
          refine ⟨[first], second :: rest, inner, rfl, by simp, ?_, rfl, step⟩
          simp [letter]
      · exact ⟨[], first :: second :: rest, body, rfl, by decide, by simp, rfl, found⟩
    · cases found
  · rintro ⟨letters, quoted, inner, rfl, few, all, rfl, step⟩
    obtain ⟨quote, c, rest, rfl, quoted⟩ := exists_cons_of_quotedLexeme step
    rw [stringLexeme_letters few all quoted (List.cons_ne_nil _ _), step]
    rfl

end

end ModuleGlue.Directive
