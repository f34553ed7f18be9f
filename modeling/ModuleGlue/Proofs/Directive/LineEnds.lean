import ModuleGlue.Proofs.Directive.Likeness
import ModuleGlue.Proofs.Directive.Separation
import ModuleGlue.Proofs.Directive.Strays
import ModuleGlue.Proofs.Text.LineEnds

/-!
Contract: annotation arguments in a file whose lines end with a carriage return and a line feed.

Blanks, comments and strings do not care for a carriage return in front of a line feed, and neither
do places. A continued line does: the lexer skips a backslash only if the line feed follows it at
once, and otherwise takes it for a token. So the tokens of the text with carriage returns are those
of the text without, and one backslash for each continued line between them.

Main statement: `tokenize_withReturns`.

Owns: the lexemes of texts with carriage returns, and the count of the continued lines.

Does not own: how the arguments are cut out of the file.
-/

namespace ModuleGlue

open ModuleGlue.Text

/-- The same text with carriage returns, at the same place. -/
def Likeness.lineEnds : Likeness where
  texts first second :=
    '\r' ∉ first.toList ∧ second = String.ofList (withReturns first.toList)
  spans := Eq
  value := by
    rintro first _ ⟨noReturn, rfl⟩
    rw [String.toList_ofList, literalValue?_withReturns noReturn]
  between := by
    rintro first _ last _ ⟨rfl⟩ ⟨rfl⟩
    rfl

namespace Directive

/-! ## Strings -/

/-- What was found, in the text with carriage returns. -/
def returned (found : List Char × List Char) : List Char × List Char :=
  (withReturns found.1, withReturns found.2)

section
variable {quote : Char} {text : List Char}

theorem singleBody_withReturns (quoted : isQuote quote = true) (noReturn : '\r' ∉ text) :
    singleBody quote (withReturns text) = (singleBody quote text).map returned := by
  have notEscape : quote ≠ '\\' := ne_of_isQuote quoted rfl
  have notReturn : '\r' ≠ quote := (ne_of_isQuote quoted rfl).symm
  have notBreak : quote ≠ '\n' := ne_of_isQuote quoted rfl
  -- A line feed ends the search, whether a carriage return stands in front of it or not.
  have broken (rest : List Char) : singleBody quote ('\r' :: '\n' :: rest) = none := by
    rw [singleBody_char (by decide) notReturn (by decide), singleBody_break notBreak]
    rfl
  fun_induction singleBody quote text with
  | case1 => rfl
  | case2 => rfl
  | case3 rest =>
      rw [withReturns_char (by decide), withReturns_break, singleBody_escape (by decide),
        singleBody_break notBreak]
      rfl
  | case4 c rest goesOn inductionHypothesis =>
      simp only [List.mem_cons, not_or] at noReturn
      rw [withReturns_char (by decide), withReturns_char goesOn, singleBody_escape goesOn,
        inductionHypothesis noReturn.2.2, Option.map_map, Option.map_map]
      congr 1
      funext found
      simp [returned, withReturns_char goesOn, withReturns_char (by decide : '\\' ≠ '\n')]
  | case5 rest notAlone notPair =>
      rw [withReturns_char notBreak, singleBody_quote notEscape]
      simp [returned, withReturns, notBreak]
  | case6 rest _ _ _ =>
      rw [withReturns_break, broken]
      rfl
  | case7 c rest notAlone notPair notQuote goesOn inductionHypothesis =>
      rw [List.mem_cons, not_or] at noReturn
      have notSlash : c ≠ '\\' := by
        intro same
        cases rest with
        | nil => exact notAlone same rfl
        | cons d more => exact notPair d more same rfl
      rw [withReturns_char goesOn, singleBody_char notSlash notQuote goesOn,
        inductionHypothesis noReturn.2, Option.map_map, Option.map_map]
      congr 1
      funext found
      simp [returned, withReturns_char goesOn]

/-- Quotes in a row are nothing but quotes. -/
theorem notMem_quotes {c : Char} (quoted : isQuote quote = true) (other : isQuote c = false)
    (count : Nat) : c ∉ List.replicate count quote := fun member =>
  ne_of_isQuote quoted other (List.eq_of_mem_replicate member).symm

theorem prefix_withReturns_iff {word : List Char} (onLine : '\n' ∉ word)
    (noReturn : '\r' ∉ word) : word <+: withReturns text ↔ word <+: text := by
  constructor
  · rintro ⟨more, whole⟩
    obtain ⟨rest, rfl, -⟩ := exists_rest_of_withReturns onLine noReturn whole.symm
    exact List.prefix_append word rest
  · rintro ⟨rest, rfl⟩
    rw [withReturns_append, withReturns_of_onLine onLine]
    exact List.prefix_append word _

theorem tripleBody_withReturns (quoted : isQuote quote = true) :
    tripleBody quote (withReturns text) = (tripleBody quote text).map returned := by
  have onLine : '\n' ∉ [quote, quote, quote] := notMem_quotes quoted rfl 3
  have noReturn : '\r' ∉ [quote, quote, quote] := notMem_quotes quoted rfl 3
  induction text with
  | nil => rfl
  | cons c rest inductionHypothesis =>
      have same : [quote, quote, quote] <+: withReturns (c :: rest) ↔
          [quote, quote, quote] <+: c :: rest := prefix_withReturns_iff onLine noReturn
      by_cases closing : [quote, quote, quote] <+: c :: rest
      · rw [tripleBody_of_closing closing, tripleBody_of_closing (same.2 closing)]
        obtain ⟨after, whole⟩ := closing
        rw [← whole, withReturns_append, withReturns_of_onLine onLine]
        simp [returned, withReturns_of_onLine onLine]
      · rw [tripleBody_char closing, Option.map_map]
        by_cases isBreak : c = '\n'
        · obtain rfl := isBreak
          have notFirst {d : Char} (other : d ≠ quote) (more : List Char) :
              ¬ [quote, quote, quote] <+: d :: more := fun early =>
            other (List.cons_prefix_cons.1 early).1.symm
          have notReturn : '\r' ≠ quote := (ne_of_isQuote quoted rfl).symm
          have notBreak : '\n' ≠ quote := (ne_of_isQuote quoted rfl).symm
          rw [withReturns_break, tripleBody_char (notFirst notReturn _),
            tripleBody_char (notFirst notBreak _), inductionHypothesis, Option.map_map,
            Option.map_map]
          rfl
        · rw [withReturns_char isBreak] at same ⊢
          rw [tripleBody_char fun early => closing (same.1 early), inductionHypothesis,
            Option.map_map]
          congr 1
          funext found
          simp [returned, withReturns_char isBreak]

theorem tripled_withReturns (quoted : isQuote quote = true) :
    quotedLexeme.tripled quote (withReturns text) =
      (quotedLexeme.tripled quote text).map returned := by
  have notBreak : quote ≠ '\n' := ne_of_isQuote quoted rfl
  have onLine : '\n' ∉ [quote, quote] := notMem_quotes quoted rfl 2
  have noReturn : '\r' ∉ [quote, quote] := notMem_quotes quoted rfl 2
  by_cases pair : ∃ more, text = quote :: quote :: more
  · obtain ⟨more, rfl⟩ := pair
    rw [withReturns_char notBreak, withReturns_char notBreak, tripled_of_pair, tripled_of_pair,
      tripleBody_withReturns quoted, Option.map_map, Option.map_map]
    congr 1
    funext found
    simp [returned, withReturns_char notBreak]
  · rw [tripled_of_noPair fun more same => pair ⟨more, same⟩, tripled_of_noPair]
    · rfl
    · intro more same
      obtain ⟨rest, rfl, -⟩ := exists_rest_of_withReturns onLine noReturn same
      exact pair ⟨rest, rfl⟩

theorem quotedLexeme_withReturns (noReturn : '\r' ∉ text) :
    quotedLexeme (withReturns text) = (quotedLexeme text).map returned := by
  cases text with
  | nil => rfl
  | cons c rest =>
      rw [List.mem_cons, not_or] at noReturn
      cases quoted : isQuote c with
      | false =>
          rw [quotedLexeme_of_noQuote quoted]
          by_cases isBreak : c = '\n'
          · obtain rfl := isBreak
            exact quotedLexeme_of_noQuote rfl
          · rw [withReturns_char isBreak]
            exact quotedLexeme_of_noQuote quoted
      | true =>
          have notBreak : c ≠ '\n' := ne_of_isQuote quoted rfl
          rw [withReturns_char notBreak, quotedLexeme, if_pos (isQuote_iff.1 quoted), quotedLexeme,
            if_pos (isQuote_iff.1 quoted), tripled_withReturns quoted,
            singleBody_withReturns quoted noReturn.2]
          cases quotedLexeme.tripled c rest with
          | some found => rfl
          | none =>
              cases singleBody c rest with
              | none => rfl
              | some found => simp [returned, withReturns_char notBreak]

theorem stringLexeme_withReturns (noReturn : '\r' ∉ text) :
    stringLexeme (withReturns text) = (stringLexeme text).map returned := by
  have plain {letters : List Char} (all : ∀ c ∈ letters, isStringPrefix c = true) :
      '\n' ∉ letters ∧ '\r' ∉ letters :=
    ⟨fun member => absurd (all _ member) (by decide),
      fun member => absurd (all _ member) (by decide)⟩
  cases found : stringLexeme text with
  | some pair =>
      obtain ⟨body, after⟩ := pair
      obtain ⟨letters, quoted, inner, rfl, few, all, rfl, step⟩ := stringLexeme_eq_some_iff.1 found
      have read := quotedLexeme_withReturns fun member =>
        noReturn (List.mem_append_right letters member)
      rw [step] at read
      have onLine := (plain all).1
      refine stringLexeme_eq_some_iff.2 ⟨letters, withReturns quoted, withReturns inner, ?_, few,
        all, ?_, read⟩
      · rw [withReturns_append, withReturns_of_onLine onLine]
      · rw [withReturns_append, withReturns_of_onLine onLine]
  | none =>
      rw [Option.map_none, Option.eq_none_iff_forall_ne_some]
      rintro ⟨body, after⟩ again
      obtain ⟨letters, quoted, inner, whole, few, all, -, step⟩ := stringLexeme_eq_some_iff.1 again
      obtain ⟨rest, rfl, rfl⟩ := exists_rest_of_withReturns (plain all).1 (plain all).2 whole
      rw [quotedLexeme_withReturns fun member => noReturn (List.mem_append_right letters member),
        Option.map_eq_some_iff] at step
      obtain ⟨⟨inner', after'⟩, step, -⟩ := step
      rw [stringLexeme_eq_some_iff.2 ⟨letters, rest, inner', rfl, few, all, rfl, step⟩] at found
      cases found

end

/-! ## Lexemes -/

/-- A lexeme is found in the text with carriage returns as it is without. If it is no string, it
stays on its line. -/
theorem lexeme_withReturns {first : Char} {rest : List Char} (notBreak : first ≠ '\n')
    (noReturn : '\r' ∉ first :: rest) :
    lexeme first (withReturns rest) =
        ((lexeme first rest).1, withReturns (lexeme first rest).2.1,
          withReturns (lexeme first rest).2.2) ∧
      ((lexeme first rest).1 ≠ .string → '\n' ∉ (lexeme first rest).2.1) := by
  have same := stringLexeme_withReturns noReturn
  rw [withReturns_char notBreak] at same
  cases found : stringLexeme (first :: rest) with
  | some pair =>
      obtain ⟨body, after⟩ := pair
      rw [found] at same
      rw [lexeme_of_string same, lexeme_of_string found]
      exact ⟨rfl, fun noString => absurd rfl noString⟩
  | none =>
      rw [found] at same
      obtain ⟨kind, part, stops, -, read⟩ := exists_part_of_noString first
      obtain ⟨taken, left⟩ := takeWhile_withReturns (stops '\n' (by decide) fun _ => by decide)
        (stops '\r' (by decide) fun _ => by decide) rest
      have onLine : '\n' ∉ first :: rest.takeWhile part := by
        rw [List.mem_cons, not_or]
        refine ⟨Ne.symm notBreak, fun member => ?_⟩
        have goesOn := List.mem_takeWhile_imp member
        rw [stops '\n' (by decide) fun _ => by decide] at goesOn
        cases goesOn
      rw [read _ same, read _ found, taken, left]
      exact ⟨by rw [withReturns_of_onLine onLine], fun _ => onLine⟩

/-! ## Continued lines -/

theorem toLineEnd_length_le (text : List Char) : (toLineEnd text).length ≤ text.length :=
  (List.dropWhile_suffix _).length_le

/-- How many continued lines the lexer skips between the tokens of a text. -/
def continuations : List Char → Nat
  | [] => 0
  | '\\' :: '\n' :: rest => continuations rest + 1
  | c :: rest =>
    if isBlank c then continuations rest
    else if c = '#' then continuations (toLineEnd rest)
    else continuations (lexeme c rest).2.2
termination_by text => text.length
decreasing_by
  · simp only [List.length_cons]
    omega
  · simp only [List.length_cons]
    omega
  · exact Nat.lt_succ_of_le (toLineEnd_length_le rest)
  · exact lexeme_length_lt c rest

/-- The second list is the first one with carriage returns, and so many lone backslashes between. -/
inductive Continued : Nat → List Token → List Token → Prop where
  | nil : Continued 0 [] []
  | token {count : Nat} {token token' : Token} {tokens tokens' : List Token}
      (same : token.Alike .lineEnds token') (more : Continued count tokens tokens') :
      Continued count (token :: tokens) (token' :: tokens')
  | backslash {count : Nat} {token : Token} {tokens tokens' : List Token}
      (lone : token.toLexeme = ⟨.other, "\\"⟩) (more : Continued count tokens tokens') :
      Continued (count + 1) tokens (token :: tokens')

section
variable {rest : List Char}

theorem head?_withReturns_ne (text : List Char) : (withReturns text).head? ≠ some '\n' := by
  cases text with
  | nil => simp [withReturns]
  | cons c rest =>
      by_cases isBreak : c = '\n'
      · simp [withReturns, isBreak]
      · simp [withReturns, isBreak]

theorem tokensFrom_blank {c : Char} (white : isBlank c = true) (position : Position) :
    tokensFrom position (c :: rest) = tokensFrom (position.step c) rest :=
  tokensFrom_gap (.blank white .none) position rest

/-- A comment is skipped up to the end of its line. -/
theorem tokensFrom_comment {words : List Char} (onLine : '\n' ∉ words) (position : Position) :
    tokensFrom position ('#' :: (words ++ '\n' :: rest)) =
      tokensFrom (position.advance ('#' :: (words ++ ['\n']))) rest := by
  have skipped := tokensFrom_gap (.comment onLine .none) position rest
  rwa [List.cons_append, List.append_assoc] at skipped

/-- A comment that no line follows is the end. -/
theorem tokensFrom_lastComment {words : List Char} (onLine : '\n' ∉ words) (position : Position) :
    tokensFrom position ('#' :: words) = [] := by
  have within : splitLayoutWithin true words = (words, []) := by
    induction words with
    | nil => rfl
    | cons c others inductionHypothesis =>
        rw [List.mem_cons, not_or] at onLine
        have goesOn : (c != '\n') = true := bne_iff_ne.2 (Ne.symm onLine.1)
        rw [splitLayoutWithin_comment, goesOn, inductionHypothesis onLine.2]
        rfl
  have skipped : splitLayout ('#' :: words) = ('#' :: words, []) := by
    have opened : splitLayout ('#' :: words) =
        splitLayoutWithin.consLayout '#' (splitLayoutWithin true words) := rfl
    rw [opened, within]
    rfl
  exact tokensFrom_of_end skipped

/-- The line of a comment ends, or there is no other line. -/
theorem toLineEnd_cases (text : List Char) :
    '\n' ∉ text ∧ toLineEnd text = [] ∨
      ∃ words more, text = words ++ '\n' :: more ∧ '\n' ∉ words ∧
        toLineEnd text = '\n' :: more := by
  induction text with
  | nil => exact Or.inl ⟨List.not_mem_nil, rfl⟩
  | cons c rest inductionHypothesis =>
      by_cases isBreak : c = '\n'
      · obtain rfl := isBreak
        exact Or.inr ⟨[], rest, rfl, List.not_mem_nil, rfl⟩
      · have goesOn : toLineEnd (c :: rest) = toLineEnd rest := by
          unfold toLineEnd
          rw [List.dropWhile_cons, if_pos (bne_iff_ne.2 isBreak)]
        rw [goesOn]
        rcases inductionHypothesis with ⟨onLine, ended⟩ | ⟨words, more, rfl, onLine, ended⟩
        · exact Or.inl ⟨by simp [Ne.symm isBreak, onLine], ended⟩
        · exact Or.inr ⟨c :: words, more, rfl, by simp [Ne.symm isBreak, onLine], ended⟩

/-- A comment is skipped in both texts, and then both are read from one place on. -/
theorem exists_behind_comment (text : List Char) (position : Position) :
    ∃ behind, tokensFrom position ('#' :: text) = tokensFrom behind (toLineEnd text) ∧
      tokensFrom position ('#' :: withReturns text) =
        tokensFrom behind (withReturns (toLineEnd text)) := by
  rcases toLineEnd_cases text with ⟨onLine, ended⟩ | ⟨words, more, rfl, onLine, ended⟩
  · refine ⟨position, ?_, ?_⟩
    · rw [ended, tokensFrom_lastComment onLine, tokensFrom_nil]
    · rw [ended, withReturns_of_onLine onLine, tokensFrom_lastComment onLine, withReturns,
        tokensFrom_nil]
  · refine ⟨position.advance ('#' :: words), ?_, ?_⟩
    · rw [ended, tokensFrom_comment onLine, tokensFrom_blank (by decide)]
      simp [Position.advance_append]
    · have onLine' : '\n' ∉ words ++ ['\r'] := by simp [onLine]
      have shape : words ++ '\r' :: '\n' :: withReturns more =
          (words ++ ['\r']) ++ '\n' :: withReturns more := by simp
      rw [ended, withReturns_append, withReturns_of_onLine onLine, withReturns_break, shape,
        tokensFrom_comment onLine', tokensFrom_blank (by decide), tokensFrom_blank (by decide)]
      simp [Position.advance_append]

/-- A lexeme becomes a token at the same place, with carriage returns in its text. -/
theorem lexeme_alike {first : Char} (notBreak : first ≠ '\n') (noReturn : '\r' ∉ first :: rest)
    (start : Position) :
    Token.Alike .lineEnds
      ⟨(lexeme first rest).1, String.ofList (lexeme first rest).2.1,
        ⟨start, start.advance (lexeme first rest).2.1⟩⟩
      ⟨(lexeme first rest).1, String.ofList (withReturns (lexeme first rest).2.1),
        ⟨start, start.advance (lexeme first rest).2.1⟩⟩ := by
  have onLine := (lexeme_withReturns notBreak noReturn).2
  have inText : '\r' ∉ (lexeme first rest).2.1 := fun member =>
    noReturn (lexeme_append first rest ▸ List.mem_append_left _ member)
  refine ⟨rfl, ⟨?_, ?_⟩, fun noString => ?_, rfl⟩
  · rwa [String.toList_ofList]
  · rw [String.toList_ofList]
  · rw [withReturns_of_onLine (onLine noString)]

/-- A backslash in front of a carriage return is a token, and the line end behind it is skipped. -/
theorem tokensFrom_brokenContinuation (position : Position) :
    tokensFrom position ('\\' :: '\r' :: '\n' :: rest) =
      ⟨.other, "\\", ⟨position, position.step '\\'⟩⟩ ::
        tokensFrom (position.advance ['\\', '\n']) rest := by
  have code : splitLayout ('\\' :: '\r' :: '\n' :: rest) =
      ([], '\\' :: '\r' :: '\n' :: rest) :=
    splitLayout_of_lexeme rfl (by decide) (by simp)
  have other : lexeme '\\' ('\r' :: '\n' :: rest) = (.other, ['\\'], '\r' :: '\n' :: rest) :=
    lexeme_of_noString (stringLexeme_of_first (by decide) (by decide))
  rw [tokensFrom_of_code code, other]
  dsimp only
  rw [tokensFrom_blank (by decide), tokensFrom_blank (by decide)]
  rfl

/-- **The tokens of a text with carriage returns** are those of the text, and one backslash for each
continued line. -/
theorem tokensFrom_withReturns {text : List Char} (noReturn : '\r' ∉ text)
    (position : Position) :
    Continued (continuations text) (tokensFrom position text)
      (tokensFrom position (withReturns text)) := by
  fun_induction continuations text generalizing position with
  | case1 =>
      rw [withReturns, tokensFrom_nil]
      exact .nil
  | case2 rest inductionHypothesis =>
      simp only [List.mem_cons, not_or] at noReturn
      have skipped : tokensFrom position ('\\' :: '\n' :: rest) =
          tokensFrom (position.advance ['\\', '\n']) rest :=
        tokensFrom_gap (.continuation .none) position rest
      rw [withReturns_char (by decide), withReturns_break, tokensFrom_brokenContinuation, skipped]
      exact .backslash rfl (inductionHypothesis noReturn.2.2 _)
  | case3 c rest notContinued white inductionHypothesis =>
      rw [List.mem_cons, not_or] at noReturn
      rw [tokensFrom_blank white]
      by_cases isBreak : c = '\n'
      · obtain rfl := isBreak
        rw [withReturns_break, tokensFrom_blank (by decide), tokensFrom_blank (by decide)]
        exact inductionHypothesis noReturn.2 _
      · rw [withReturns_char isBreak, tokensFrom_blank white]
        exact inductionHypothesis noReturn.2 _
  | case4 rest notContinued notBlank inductionHypothesis =>
      rw [List.mem_cons, not_or] at noReturn
      obtain ⟨behind, same, same'⟩ := exists_behind_comment rest position
      rw [withReturns_char (by decide), same, same']
      exact inductionHypothesis
        (fun member => noReturn.2 ((List.dropWhile_suffix _).subset member)) behind
  | case5 c rest notContinued notBlank notComment inductionHypothesis =>
      have notBreak : c ≠ '\n' := by
        rintro rfl
        exact notBlank (by decide)
      have code : splitLayout (c :: rest) = ([], c :: rest) := by
        refine splitLayout_of_lexeme (Bool.eq_false_iff.2 notBlank) notComment fun slash first => ?_
        obtain ⟨more, rfl⟩ := List.head?_eq_some_iff.1 first
        exact notContinued more slash rfl
      have code' : splitLayout (c :: withReturns rest) = ([], c :: withReturns rest) :=
        splitLayout_of_lexeme (Bool.eq_false_iff.2 notBlank) notComment fun _ =>
          head?_withReturns_ne rest
      have behind : '\r' ∉ (lexeme c rest).2.2 := fun member =>
        noReturn (lexeme_append c rest ▸ List.mem_append_right _ member)
      have read := (lexeme_withReturns notBreak noReturn).1
      rw [withReturns_char notBreak, tokensFrom_of_code code, tokensFrom_of_code code', read]
      dsimp only
      rw [Position.advance_withReturns]
      exact .token (lexeme_alike notBreak noReturn position) (inductionHypothesis behind _)

end

namespace Continued

variable {count : Nat} {tokens tokens' : List Token}

/-- Moving the tokens of both lists to their places in a file changes nothing. -/
theorem placed (continued : Continued count tokens tokens') (origin : Option Span) :
    Continued count (tokens.map fun token => { token with span := token.span.rebase origin })
      (tokens'.map fun token => { token with span := token.span.rebase origin }) := by
  induction continued with
  | nil => exact .nil
  | token same more inductionHypothesis =>
      refine .token ⟨same.kind, same.texts, same.verbatim, ?_⟩ inductionHypothesis
      exact congrArg (fun span => some (Span.rebase span origin)) (Option.some.inj same.span)
  | backslash lone more inductionHypothesis => exact .backslash lone inductionHypothesis

theorem length_eq (continued : Continued count tokens tokens') :
    tokens'.length = tokens.length + count := by
  induction continued with
  | nil => rfl
  | token same more inductionHypothesis =>
      rw [List.length_cons, List.length_cons, inductionHypothesis]
      omega
  | backslash lone more inductionHypothesis =>
      rw [List.length_cons, inductionHypothesis]
      omega

/-- Without backslashes between them the tokens are the same. -/
theorem forall₂_iff (continued : Continued count tokens tokens') :
    List.Forall₂ (Token.Alike .lineEnds) tokens tokens' ↔ count = 0 := by
  constructor
  · intro alike
    have lengths := continued.length_eq
    rw [alike.length_eq] at lengths
    omega
  · rintro rfl
    generalize none : 0 = count at continued
    induction continued with
    | nil => exact .nil
    | token same more inductionHypothesis => exact .cons same (inductionHypothesis none)
    | backslash lone more inductionHypothesis => cases none

/-- A backslash is a stray token. -/
theorem exists_stray (continued : Continued count tokens tokens') (positive : count ≠ 0) :
    ∃ token ∈ tokens', token.IsStray := by
  induction continued with
  | nil => exact absurd rfl positive
  | token same more inductionHypothesis =>
      obtain ⟨token, member, stray⟩ := inductionHypothesis positive
      exact ⟨token, List.mem_cons_of_mem _ member, stray⟩
  | @backslash count token tokens tokens' lone more inductionHypothesis =>
      exact ⟨token, List.mem_cons_self .., Or.inr (congrArg Lexeme.kind lone)⟩

end Continued

/-! ## Descriptors at the same places -/

theorem eq_of_optionRel {α : Type} {relation : α → α → Prop} {first second : Option α}
    (same : ∀ value value', relation value value' → value = value')
    (related : Option.Rel relation first second) : first = second := by
  cases related with
  | none => rfl
  | some values => rw [same _ _ values]

theorem eq_of_forall₂ {α : Type} {relation : α → α → Prop} {first second : List α}
    (same : ∀ value value', relation value value' → value = value')
    (related : List.Forall₂ relation first second) : first = second := by
  induction related with
  | nil => rfl
  | cons values _ inductionHypothesis => rw [same _ _ values, inductionHypothesis]

theorem Options.eq_of_alike {options options' : Options}
    (alike : options.Alike .lineEnds options') : options = options' := by
  have names : options.name = options'.name := by
    refine eq_of_optionRel (fun name name' same => ?_) alike.name
    obtain ⟨value, span⟩ := name
    obtain ⟨rfl, rfl⟩ := same
    rfl
  have signatures : options.textSignature = options'.textSignature := by
    refine eq_of_optionRel (fun signature signature' same => ?_) alike.textSignature
    obtain ⟨value, span⟩ := signature
    obtain ⟨rfl, rfl⟩ := same
    rfl
  have deprecations : options.deprecations = options'.deprecations := by
    refine eq_of_forall₂ (fun record record' same => ?_) alike.deprecations
    obtain ⟨form, span⟩ := record
    obtain ⟨rfl, rfl⟩ := same
    rfl
  have passModule := alike.passModule
  have specified := alike.specified
  cases options
  cases options'
  simp_all

theorem ExportDescriptor.eq_of_alike {descriptor descriptor' : ExportDescriptor}
    (alike : descriptor.Alike .lineEnds descriptor') : descriptor = descriptor' := by
  have options := Options.eq_of_alike alike.options
  obtain ⟨⟨head, tail, span⟩, _⟩ := descriptor
  obtain ⟨⟨head', tail', span'⟩, _⟩ := descriptor'
  obtain ⟨⟨segments, spans⟩, -⟩ := alike
  obtain ⟨rfl, rfl⟩ := List.cons.inj segments
  cases spans
  cases options
  rfl

/-- **Only continued lines tell one way to end lines from the other.** The tokens of the text with
carriage returns are those of the text, with the same kinds and places and with carriage returns in
their texts, and one backslash for each continued line that the lexer skips in the text. Where there
is none, both texts give the same descriptor, or are refused alike; where there is one, the text
with carriage returns is refused, whatever the other one gives. -/
theorem tokenize_withReturns {text : String} (noReturn : '\r' ∉ text.toList)
    (origin : Option Span) :
    Continued (continuations text.toList) (tokenize text origin)
        (tokenize (String.ofList (withReturns text.toList)) origin) ∧
      (List.Forall₂ (Token.Alike .lineEnds) (tokenize text origin)
          (tokenize (String.ofList (withReturns text.toList)) origin) ↔
        continuations text.toList = 0) ∧
      (continuations text.toList = 0 →
        EndsAlike (Diagnostic.Alike .lineEnds) Eq (ExportDescriptor.parse text origin)
          (ExportDescriptor.parse (String.ofList (withReturns text.toList)) origin)) ∧
      (continuations text.toList ≠ 0 →
        ∃ reason, ExportDescriptor.parse (String.ofList (withReturns text.toList)) origin =
          .error reason) := by
  have continued := (tokensFrom_withReturns noReturn .origin).placed origin
  have tokens : tokenize (String.ofList (withReturns text.toList)) origin =
      (tokensFrom .origin (withReturns text.toList)).map
        fun token => { token with span := token.span.rebase origin } := by
    rw [tokenize, String.toList_ofList]
  rw [← tokens] at continued
  refine ⟨continued, continued.forall₂_iff, fun none => ?_, fun some => ?_⟩
  · have parsed := ExportDescriptor.parse_alike (continued.forall₂_iff.2 none) rfl
    exact parsed.imp fun _ _ => ExportDescriptor.eq_of_alike
  · obtain ⟨token, member, stray⟩ := continued.exists_stray some
    exact ExportDescriptor.parse_of_stray member stray

def signedLines : String := "m, # path\n text_signature = \"\"\"(a,\nb)\"\"\""

theorem tokenize_withReturns_signedLines :
    '\r' ∉ signedLines.toList ∧ continuations signedLines.toList = 0 ∧
      List.Forall₂ (Token.Alike .lineEnds) (tokenize signedLines none)
        (tokenize (String.ofList (withReturns signedLines.toList)) none) ∧
      EndsAlike (Diagnostic.Alike .lineEnds) Eq (ExportDescriptor.parse signedLines none)
        (ExportDescriptor.parse (String.ofList (withReturns signedLines.toList)) none) ∧
      ∃ descriptor, ExportDescriptor.parse signedLines none = .ok descriptor := by
  have noReturn : '\r' ∉ signedLines.toList := by decide +kernel
  have none : continuations signedLines.toList = 0 := by decide +kernel
  have evaluated : succeedsWith (ExportDescriptor.parse signedLines .none) (fun _ => true) =
      true := by
    decide +kernel
  obtain ⟨descriptor, found, -⟩ := exists_of_succeedsWith evaluated
  obtain ⟨-, same, parsed, -⟩ := tokenize_withReturns noReturn .none
  exact ⟨noReturn, none, same.2 none, parsed none, descriptor, found⟩

def continuedOption : String := "m, \\\nname = x"

/-- With a line feed behind the backslash the option is read; with a carriage return between them
the backslash is one token more, and the arguments are refused. -/
theorem continuedOption_refused :
    '\r' ∉ continuedOption.toList ∧
      (tokenize continuedOption none).map Token.toLexeme =
        [⟨.ident, "m"⟩, ⟨.comma, ","⟩, ⟨.ident, "name"⟩, ⟨.equals, "="⟩, ⟨.ident, "x"⟩] ∧
      (tokenize (String.ofList (withReturns continuedOption.toList)) none).map Token.toLexeme =
        [⟨.ident, "m"⟩, ⟨.comma, ","⟩, ⟨.other, "\\"⟩, ⟨.ident, "name"⟩, ⟨.equals, "="⟩,
          ⟨.ident, "x"⟩] ∧
      (∃ descriptor, ExportDescriptor.parse continuedOption none = .ok descriptor ∧
        descriptor.options.externalName = some "x") ∧
      ExportDescriptor.parse (String.ofList (withReturns continuedOption.toList)) none =
        .error (.grammar (.expected "option name" (some "\\")) (some ⟨⟨1, 3⟩, ⟨1, 4⟩⟩)) := by
  refine ⟨by decide +kernel, by decide +kernel, by decide +kernel, ?_, by decide +kernel⟩
  have evaluated : succeedsWith (ExportDescriptor.parse continuedOption none)
      (fun descriptor => descriptor.options.externalName == some "x") = true := by
    decide +kernel
  obtain ⟨descriptor, found, named⟩ := exists_of_succeedsWith evaluated
  exact ⟨descriptor, found, beq_iff_eq.1 named⟩

end Directive

end ModuleGlue
