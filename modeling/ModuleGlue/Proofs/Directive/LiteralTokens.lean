import ModuleGlue.Proofs.Directive.Separation
import ModuleGlue.Proofs.Text.LiteralGrammar

/-!
Contract: string literals of the language as tokens.

The lexer knows strings by fewer rules than the grammar of literals. Between triple quotes it does
not look at backslashes, so a string ends at the first three quotes in a row; between single quotes
a backslash does not take a line feed along. Every other literal is one token, and whatever token
has the text of a literal has its value.

Main statements: `stringLexeme_text_iff` (the literals that the lexer reads to their end),
`literal_isToken_iff`.

Owns: which literals are one token.

Does not own: the grammar of literals and their values.
-/

namespace ModuleGlue

namespace Text

/-- The lexer's rules lead to the end of the literal. Between triple quotes, no three quotes in a
row stand before the closing ones or overlap them; between single quotes, no line is continued by a
backslash and a line feed. -/
def Literal.Unbroken (literal : Literal) : Prop :=
  if literal.opening.triple then
    ¬ [literal.opening.quote, literal.opening.quote, literal.opening.quote] <:+:
      literal.body ++ [literal.opening.quote, literal.opening.quote]
  else '\n' ∉ literal.body

end Text

namespace Directive

open ModuleGlue.Text

/-! ## Bodies -/

section
variable {opening : Opening} {body unified : List Char}

/-- A body of a literal between single quotes that has no line feed is read to its end. A carriage
return may end a line behind a backslash; the lexer takes it for any other character. -/
theorem singleBody_of_body (grammar : opening.Body unified) (single : opening.triple = false)
    (quoted : isQuote opening.quote = true) (same : unifyLineEnds body = unified)
    (onLine : '\n' ∉ body) :
    singleBody opening.quote (body ++ [opening.quote]) = some (body ++ [opening.quote], []) := by
  have notEscape : opening.quote ≠ '\\' := ne_of_isQuote quoted rfl
  induction grammar generalizing body with
  | nothing =>
      rw [unifyLineEnds_eq_nil_iff] at same
      rw [same]
      exact singleBody_quote notEscape []
  | @char c rest notSlash notClosed goesOn more inductionHypothesis =>
      have notBreak : c ≠ '\n' := goesOn.resolve_left (by simp [single])
      have notQuote : c ≠ opening.quote := by
        rintro rfl
        refine notClosed ?_
        rw [Opening.delimiter_of_single single]
        exact ⟨_, rfl⟩
      obtain ⟨front, behind, rfl, sameBehind, ⟨rfl, -⟩ | ⟨isBreak, -⟩⟩ :=
        exists_front_of_unifyLineEnds same
      · rw [List.singleton_append, List.mem_cons, not_or] at onLine
        rw [List.singleton_append, List.cons_append, singleBody_char notSlash notQuote notBreak,
          inductionHypothesis sameBehind onLine.2]
        rfl
      · exact absurd isBreak notBreak
  | @escape c rest more inductionHypothesis =>
      obtain ⟨front, behind, rfl, sameBehind, ⟨rfl, -⟩ | ⟨isBreak, -⟩⟩ :=
        exists_front_of_unifyLineEnds same
      · obtain ⟨front, behind', rfl, sameBehind', shape⟩ :=
          exists_front_of_unifyLineEnds sameBehind
        -- What the backslash takes along is one character, and no line feed.
        obtain ⟨d, rfl, notBreak⟩ : ∃ d, front = [d] ∧ d ≠ '\n' := by
          rcases shape with ⟨rfl, -⟩ | ⟨-, rfl | rfl⟩
          · refine ⟨c, rfl, ?_⟩
            rintro rfl
            exact onLine (by simp)
          · exact ⟨'\r', rfl, by decide⟩
          · exact absurd (by simp) onLine
        have onLine' : '\n' ∉ behind' := fun member => onLine (by simp [member])
        simp only [List.cons_append, List.nil_append]
        rw [singleBody_escape notBreak, inductionHypothesis sameBehind' onLine']
        rfl
      · cases isBreak

/-- A body between single quotes does not begin with a quote, which would make it a pair. -/
theorem noPair_of_body (grammar : opening.Body unified) (single : opening.triple = false)
    (quoted : isQuote opening.quote = true) (same : unifyLineEnds body = unified)
    (more : List Char) : body ++ [opening.quote] ≠ opening.quote :: opening.quote :: more := by
  have first := grammar.head?_ne single (isQuote_iff.1 quoted)
  cases body with
  | nil => simp
  | cons c others =>
      intro pair
      obtain ⟨rfl, -⟩ := List.cons.inj pair
      rw [unifyLineEnds_char (ne_of_isQuote quoted rfl)] at same
      exact first (by rw [← same]; rfl)

theorem quotedLexeme_single_iff (grammar : opening.Body unified) (single : opening.triple = false)
    (quoted : isQuote opening.quote = true) (same : unifyLineEnds body = unified) :
    quotedLexeme (opening.quote :: (body ++ [opening.quote])) =
        some (opening.quote :: (body ++ [opening.quote]), []) ↔ '\n' ∉ body := by
  have noTriple := tripled_of_noPair (noPair_of_body grammar single quoted same)
  constructor
  · intro found
    obtain ⟨quote, rest, -, whole, triple | ⟨-, inner, body', read⟩⟩ :=
      quotedLexeme_eq_some_iff.1 found
    · obtain ⟨rfl, rfl⟩ := List.cons.inj whole
      rw [noTriple] at triple
      cases triple
    · obtain ⟨rfl, rfl⟩ := List.cons.inj whole
      obtain ⟨-, rfl⟩ := List.cons.inj body'
      have onLine := break_notMem_of_singleBody (ne_of_isQuote quoted rfl) read
      exact fun member => onLine (List.mem_append_left _ member)
  · intro onLine
    refine quotedLexeme_eq_some_iff.2 ⟨opening.quote, body ++ [opening.quote], quoted, rfl,
      Or.inr ⟨noTriple, _, rfl, ?_⟩⟩
    exact singleBody_of_body grammar single quoted same onLine

theorem quotedLexeme_triple_iff {quote : Char} (quoted : isQuote quote = true) :
    quotedLexeme (quote :: quote :: quote :: (body ++ [quote, quote, quote])) =
        some (quote :: quote :: quote :: (body ++ [quote, quote, quote]), []) ↔
      ¬ [quote, quote, quote] <:+: body ++ [quote, quote] := by
  constructor
  · intro found
    obtain ⟨quote', rest, -, whole, triple | ⟨-, inner, body', read⟩⟩ :=
      quotedLexeme_eq_some_iff.1 found
    · obtain ⟨rfl, rfl⟩ := List.cons.inj whole
      obtain ⟨more, inner, pair, body', closed⟩ := tripled_eq_some_iff.1 triple
      obtain ⟨inner', rfl, same, first⟩ := tripleBody_eq_some_iff.1 closed
      simp only [List.cons.injEq, true_and] at body'
      rwa [List.append_cancel_right body']
    · -- Between single quotes there would be nothing, and much would be left behind.
      obtain ⟨rfl, rfl⟩ := List.cons.inj whole
      rw [singleBody_quote (ne_of_isQuote quoted rfl)] at read
      cases (Prod.mk.inj (Option.some.inj read)).2
  · intro first
    refine quotedLexeme_eq_some_iff.2 ⟨quote, _, quoted, rfl, Or.inl ?_⟩
    refine tripled_eq_some_iff.2 ⟨_, _, rfl, rfl, ?_⟩
    exact tripleBody_eq_some_iff.2 ⟨body, rfl, by simp, first⟩

end

/-! ## Literals -/

section
variable {literal : Literal}

theorem letters_of_valid (valid : literal.Valid) :
    literal.letters.length ≤ 2 ∧ ∀ letter ∈ literal.letters, isStringPrefix letter = true := by
  rcases valid.letters_cases with none | ⟨letter, single, known⟩
  · rw [none]
    exact ⟨Nat.zero_le 2, fun letter member => absurd member List.not_mem_nil⟩
  · rw [single]
    refine ⟨by simp, fun other member => ?_⟩
    rw [List.mem_singleton.1 member]
    rcases known with rfl | rfl | rfl | rfl <;> decide

/-- The lexer reads a literal to its end exactly if its rules lead there. -/
theorem stringLexeme_text_iff (valid : literal.Valid) :
    stringLexeme literal.text = some (literal.text, []) ↔ literal.Unbroken := by
  have quoted : isQuote literal.opening.quote = true := isQuote_iff.2 valid.quoted
  obtain ⟨few, all⟩ := letters_of_valid valid
  have lettersOff : ∀ rest, rest ≠ [] →
      (stringLexeme (literal.letters ++ literal.opening.quote :: rest) =
          some (literal.letters ++ literal.opening.quote :: rest, []) ↔
        quotedLexeme (literal.opening.quote :: rest) =
          some (literal.opening.quote :: rest, [])) := by
    intro rest behind
    rw [stringLexeme_letters few all quoted behind, Option.map_eq_some_iff]
    constructor
    · rintro ⟨⟨inner, after⟩, read, same⟩
      obtain ⟨same, rfl⟩ := Prod.mk.inj same
      obtain rfl := List.append_cancel_left same
      exact read
    · intro read
      exact ⟨_, read, rfl⟩
  unfold Literal.text Literal.Unbroken
  cases triple : literal.opening.triple with
  | true =>
      rw [Opening.delimiter_of_triple triple, if_pos rfl]
      simp only [List.cons_append, List.nil_append]
      rw [lettersOff _ (List.cons_ne_nil _ _), quotedLexeme_triple_iff quoted]
  | false =>
      rw [Opening.delimiter_of_single triple, if_neg Bool.false_ne_true,
        List.singleton_append, lettersOff _ (by simp),
        quotedLexeme_single_iff valid.body triple quoted rfl]

/-- A text that begins with no layout is one string token exactly if the lexer finds a string that
is all of it. -/
theorem tokenize_eq_singleton_iff {text : String} {first : Char} {rest : List Char}
    (whole : text.toList = first :: rest) (code : ¬ BeginsLayout first) (origin : Option Span) :
    (∃ token, tokenize text origin = [token] ∧ token.kind = .string ∧ token.text = text) ↔
      stringLexeme text.toList = some (text.toList, []) := by
  unfold tokenize
  rw [whole, tokensFrom_of_code (splitLayout_of_code code rest), List.map_cons]
  constructor
  · rintro ⟨token, same, isString, isText⟩
    obtain ⟨rfl, -⟩ := List.cons.inj same
    cases found : stringLexeme (first :: rest) with
    | none => exact absurd isString (kind_ne_string_of_noString found)
    | some pair =>
        obtain ⟨body, after⟩ := pair
        rw [lexeme_of_string found] at isText
        have isAll : body = first :: rest := by
          rw [← whole, ← isText, String.toList_ofList]
        have split := stringLexeme_append found
        rw [isAll] at split ⊢
        rw [List.append_right_eq_self.1 split]
  · intro found
    rw [lexeme_of_string found]
    dsimp only
    rw [tokensFrom_nil]
    refine ⟨_, rfl, rfl, ?_⟩
    rw [← whole, String.ofList_toList]

/-- A literal begins with no layout. -/
theorem notBeginsLayout_of_isMark {first : Char} (mark : Literal.IsMark first) :
    ¬ BeginsLayout first := by
  unfold Literal.IsMark at mark
  simp only [List.mem_cons, List.not_mem_nil, or_false] at mark
  unfold BeginsLayout
  rcases mark with rfl | rfl | rfl | rfl | rfl | rfl <;> decide

/-- A literal that the lexer's rules lead through is one string token, wherever it begins. -/
theorem tokensFrom_literal (valid : literal.Valid) (unbroken : literal.Unbroken)
    (position : Position) :
    ∃ token, tokensFrom position literal.text = [token] ∧ token.kind = .string ∧
      token.text.toList = literal.text := by
  have found := (stringLexeme_text_iff valid).2 unbroken
  obtain ⟨first, rest, whole, mark⟩ := valid.exists_cons
  rw [whole] at found ⊢
  rw [tokensFrom_of_code (splitLayout_of_code (notBeginsLayout_of_isMark mark) _),
    lexeme_of_string found]
  dsimp only
  rw [tokensFrom_nil]
  exact ⟨_, rfl, rfl, String.toList_ofList⟩

/-- **A literal is one token with its value exactly if the lexer's rules lead to its end.** Whatever
token has the text of a literal has the value of the literal. -/
theorem literal_isToken_iff {value : Points} (valid : literal.Valid)
    (denoted : literal.Denotes value) (origin : Option Span) :
    (∀ token : Token, token.text.toList = literal.text → token.stringValue = .ok value) ∧
      ((∃ token, tokenize (String.ofList literal.text) origin = [token] ∧ token.kind = .string ∧
          token.text.toList = literal.text ∧ token.stringValue = .ok value) ↔
        literal.Unbroken) := by
  have hasValue : ∀ token : Token, token.text.toList = literal.text →
      token.stringValue = .ok value := by
    intro token spelled
    rw [Token.stringValue, spelled, Literal.literalValue?_literal valid denoted]
  refine ⟨hasValue, ?_⟩
  obtain ⟨first, rest, whole, mark⟩ := valid.exists_cons
  have code := notBeginsLayout_of_isMark mark
  have alone := tokenize_eq_singleton_iff
    (String.toList_ofList.trans whole : (String.ofList literal.text).toList = first :: rest) code
    origin
  rw [String.toList_ofList, stringLexeme_text_iff valid] at alone
  rw [← alone]
  constructor
  · rintro ⟨token, tokens, isString, spelled, -⟩
    exact ⟨token, tokens, isString, by rw [← spelled, String.ofList_toList]⟩
  · rintro ⟨token, tokens, isString, spelled⟩
    have spelled : token.text.toList = literal.text := by rw [spelled, String.toList_ofList]
    exact ⟨token, tokens, isString, spelled, hasValue token spelled⟩

end

/-- A literal of two lines with an escape and a quote, in a text with carriage returns. -/
def numericLiteral : Literal where
  letters := ['u']
  opening := ⟨'"', true, false⟩
  body := "\\x41\r\n\"b".toList

theorem literal_isToken_iff_numericLiteral :
    numericLiteral.Valid ∧ numericLiteral.Denotes (.ofString "A\n\"b") ∧
      numericLiteral.Unbroken ∧
      ∃ token, tokenize (String.ofList numericLiteral.text) none = [token] ∧
        token.kind = .string ∧ token.text.toList = numericLiteral.text ∧
        token.stringValue = .ok (.ofString "A\n\"b") := by
  have body : unifyLineEnds numericLiteral.body = ['\\', 'x', '4', '1', '\n', '"', 'b'] := by
    decide +kernel
  have valid : numericLiteral.Valid := by
    refine ⟨Or.inl rfl, by decide, by decide +kernel, ?_⟩
    rw [body]
    exact .escape 'x' (.char (by decide) (by decide) (.inl rfl) (.char (by decide) (by decide)
      (.inl rfl) (.char (by decide) (by decide) (.inl rfl) (.char (by decide) (by decide) (.inl rfl)
        (.char (by decide) (by decide) (.inl rfl) .nothing)))))
  have denoted : numericLiteral.Denotes (.ofString "A\n\"b") := by
    have value : Points.ofString "A\n\"b" =
        [.ofChar 'A'] ++ [.ofChar '\n', .ofChar '"', .ofChar 'b'] := by decide +kernel
    unfold Literal.Denotes
    rw [body, value, if_neg (by decide)]
    have digits : List.Forall₂ (fun c value => hexValue? c = some value) ['4', '1'] [4, 1] :=
      .cons rfl (.cons rfl .nil)
    exact .escape (.hexadecimal (by decide) digits rfl) (.char (by decide) (.char (by decide)
      (.char (by decide) .nothing)))
  have unbroken : numericLiteral.Unbroken := by
    unfold Literal.Unbroken
    rw [if_pos (by rfl)]
    decide +kernel
  exact ⟨valid, denoted, unbroken, (literal_isToken_iff valid denoted none).2.2 unbroken⟩

/-- A quote behind a backslash, just before the closing quotes. -/
def escapedQuote : Literal where
  letters := []
  opening := ⟨'"', true, false⟩
  body := ['a', '\\', '"']

def continuedLine : Literal where
  letters := []
  opening := ⟨'"', false, false⟩
  body := ['a', '\\', '\n', 'b']

/-- Both are literals of the language, and neither is one token. -/
theorem escapedQuote_continuedLine_broken :
    (escapedQuote.Valid ∧ escapedQuote.Denotes (.ofString "a\"") ∧
      (tokenize (String.ofList escapedQuote.text) none).map Token.toLexeme =
        [⟨.string, "\"\"\"a\\\"\"\""⟩, ⟨.other, "\""⟩]) ∧
    continuedLine.Valid ∧ continuedLine.Denotes (.ofString "ab") ∧
      (tokenize (String.ofList continuedLine.text) none).map Token.toLexeme =
        [⟨.other, "\""⟩, ⟨.ident, "a"⟩, ⟨.ident, "b"⟩, ⟨.other, "\""⟩] := by
  refine ⟨⟨⟨.inl rfl, by decide, by decide, ?_⟩, ?_, by decide +kernel⟩,
    ⟨.inl rfl, by decide, by decide, ?_⟩, ?_, by decide +kernel⟩
  · exact .char (by decide) (by decide) (.inl rfl) (.escape '"' .nothing)
  · have value : Points.ofString "a\"" = .ofChar 'a' :: ([.ofChar '"'] ++ []) := by
      decide +kernel
    unfold Literal.Denotes
    rw [value, if_neg (by decide)]
    exact .char (by decide) (.escape (.letter (by decide)) .nothing)
  · exact .char (by decide) (by decide) (.inr (by decide)) (.escape '\n' (.char (by decide)
      (by decide) (.inr (by decide)) .nothing))
  · have value : Points.ofString "ab" = .ofChar 'a' :: ([] ++ [.ofChar 'b']) := by
      decide +kernel
    unfold Literal.Denotes
    rw [value, if_neg (by decide)]
    exact .char (by decide) (.escape .lineEnd (.char (by decide) .nothing))

end Directive

end ModuleGlue
