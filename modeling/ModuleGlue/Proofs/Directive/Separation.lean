import Mathlib.Data.List.TakeWhile
import ModuleGlue.Proofs.Directive.StringLexemes

/-!
Contract: tokens that are kept apart by layout.

A gap is layout that may stand in front of any text: blanks, comments with the ends of their lines,
and continued lines. Whatever a lexeme is by itself, it is also in front of what does not go on with
it, such as a gap: no lexeme grows into that, and none is cut short by it.

Main statements: `tokensFrom_gap` (a gap is skipped), `lexeme_of_separable` (a lexeme in front of
what does not go on with it is read as it is read alone), `lexemes_of_laidOut` (a text in which
lexemes are laid out has these lexemes as its tokens).

Owns: gaps, lexemes that can be separated, and texts in which lexemes are laid out.

Does not own: what tokens mean.
-/

namespace ModuleGlue.Directive

open ModuleGlue.Text

/-! ## Classes of characters -/

def blankPoints : List Nat :=
  [9, 10, 11, 12, 13, 28, 29, 30, 31, 32, 0x85, 0xA0, 0x1680, 0x2000, 0x2001, 0x2002, 0x2003,
    0x2004, 0x2005, 0x2006, 0x2007, 0x2008, 0x2009, 0x200A, 0x2028, 0x2029, 0x202F, 0x205F, 0x3000]

/-- What holds of all blanks can be found out one by one. -/
theorem forall_isBlank (property : Char → Prop)
    (each : ∀ point ∈ blankPoints, property (Char.ofNat point)) {c : Char}
    (white : isBlank c = true) : property c := by
  have listed : c.toNat ∈ blankPoints := by
    simp only [isBlank, Bool.or_eq_true, Bool.and_eq_true, decide_eq_true_eq, beq_iff_eq] at white
    simp only [blankPoints, List.mem_cons, List.not_mem_nil, or_false]
    omega
  rw [← Char.ofNat_toNat c]
  exact each _ listed

theorem isWord_of_isBlank {c : Char} (white : isBlank c = true) : isWord c = false := by
  exact forall_isBlank (fun c => isWord c = false) (by decide +kernel) white

theorem isWord_of_isStringPrefix {c : Char} (letter : isStringPrefix c = true) :
    isWord c = true := by
  simp only [isStringPrefix, Bool.or_eq_true, beq_iff_eq] at letter
  rcases letter with ((((((rfl | rfl) | rfl) | rfl) | rfl) | rfl) | rfl) | rfl <;> decide

theorem isQuote_of_isWord {c : Char} (word : isWord c = true) : isQuote c = false := by
  rw [Bool.eq_false_iff, Ne, isQuote_iff]
  rintro (rfl | rfl) <;> revert word <;> decide

def BeginsLayout (c : Char) : Prop := isBlank c = true ∨ c = '#' ∨ c = '\\'

theorem BeginsLayout.notWord {c : Char} (begins : BeginsLayout c) : isWord c = false := by
  rcases begins with white | rfl | rfl
  · exact isWord_of_isBlank white
  · decide
  · decide

theorem BeginsLayout.notQuote {c : Char} (begins : BeginsLayout c) : isQuote c = false := by
  rw [Bool.eq_false_iff, Ne, isQuote_iff]
  rintro (rfl | rfl) <;> revert begins <;> unfold BeginsLayout <;> decide

theorem BeginsLayout.notPoint {c : Char} (begins : BeginsLayout c) : c ≠ '.' := by
  rintro rfl
  revert begins
  unfold BeginsLayout
  decide

/-! ## Gaps -/

/-- Layout that may stand in front of any text: its comments end with their lines. -/
inductive Gap : List Char → Prop where
  | none : Gap []
  | blank {c : Char} {rest : List Char} (white : isBlank c = true) (more : Gap rest) :
      Gap (c :: rest)
  | comment {words rest : List Char} (line : '\n' ∉ words) (more : Gap rest) :
      Gap ('#' :: (words ++ '\n' :: rest))
  | continuation {rest : List Char} (more : Gap rest) : Gap ('\\' :: '\n' :: rest)

def Parted (text : List Char) : Prop := ∀ c ∈ text.head?, BeginsLayout c

theorem Gap.parted {gap : List Char} (laid : Gap gap) : Parted gap := by
  intro c first
  cases laid with
  | none => cases first
  | blank white more => exact Or.inl (Option.some.inj first ▸ white)
  | comment line more => exact Or.inr (Or.inl (Option.some.inj first).symm)
  | continuation more => exact Or.inr (Or.inr (Option.some.inj first).symm)

/-! ## What is skipped -/

open splitLayoutWithin (consLayout)

/-- A character that continues no line is a blank, or begins a comment, or is no layout. -/
theorem splitLayout_cons {c : Char} {rest : List Char}
    (notContinued : c = '\\' → rest.head? ≠ some '\n') :
    splitLayout (c :: rest) =
      if isBlank c then consLayout c (splitLayout rest)
      else if c = '#' then consLayout c (splitLayoutWithin true rest)
      else ([], c :: rest) := by
  unfold splitLayout
  rw [splitLayoutWithin.eq_def]
  split
  · rename_i empty
    cases empty
  · rename_i inComment _
    cases inComment
  · rename_i continued
    obtain ⟨rfl, rfl⟩ := List.cons.inj continued
    exact absurd rfl (notContinued rfl)
  · rename_i same
    obtain ⟨rfl, rfl⟩ := List.cons.inj same
    rfl

theorem splitLayout_blank {c : Char} (white : isBlank c = true) (rest : List Char) :
    splitLayout (c :: rest) = consLayout c (splitLayout rest) := by
  have notSlash : c ≠ '\\' := by
    rintro rfl
    revert white
    decide
  rw [splitLayout_cons fun slash => absurd slash notSlash, if_pos white]

theorem splitLayout_continuation (rest : List Char) :
    splitLayout ('\\' :: '\n' :: rest) = consLayout '\\' (consLayout '\n' (splitLayout rest)) :=
  rfl

theorem splitLayoutWithin_comment (c : Char) (rest : List Char) :
    splitLayoutWithin true (c :: rest) = consLayout c (splitLayoutWithin (c != '\n') rest) :=
  rfl

theorem splitLayoutWithin_words {words : List Char} (line : '\n' ∉ words) (rest : List Char) :
    splitLayoutWithin true (words ++ '\n' :: rest) =
      (words ++ '\n' :: (splitLayout rest).1, (splitLayout rest).2) := by
  induction words with
  | nil => rfl
  | cons c others inductionHypothesis =>
      rw [List.mem_cons, not_or] at line
      have goesOn : (c != '\n') = true := bne_iff_ne.2 (Ne.symm line.1)
      rw [List.cons_append, splitLayoutWithin_comment, goesOn, inductionHypothesis line.2]
      rfl

theorem splitLayout_comment {words : List Char} (line : '\n' ∉ words) (rest : List Char) :
    splitLayout ('#' :: (words ++ '\n' :: rest)) =
      ('#' :: (words ++ '\n' :: (splitLayout rest).1), (splitLayout rest).2) := by
  have opened : splitLayout ('#' :: (words ++ '\n' :: rest)) =
      consLayout '#' (splitLayoutWithin true (words ++ '\n' :: rest)) := rfl
  rw [opened, splitLayoutWithin_words line]
  rfl

/-- A gap is skipped, and then what follows it is looked at. -/
theorem splitLayout_gap {gap : List Char} (laid : Gap gap) (rest : List Char) :
    splitLayout (gap ++ rest) = (gap ++ (splitLayout rest).1, (splitLayout rest).2) := by
  induction laid with
  | none => rfl
  | blank white _ inductionHypothesis =>
      rw [List.cons_append, splitLayout_blank white, inductionHypothesis]
      rfl
  | comment line _ inductionHypothesis =>
      rw [List.cons_append, List.append_assoc, List.cons_append, splitLayout_comment line,
        inductionHypothesis]
      simp
  | continuation _ inductionHypothesis =>
      rw [List.cons_append, List.cons_append, splitLayout_continuation, inductionHypothesis]
      rfl

/-- A lexeme begins at every character that is no blank, no comment and continues no line. -/
theorem splitLayout_of_lexeme {first : Char} {rest : List Char} (notBlank : isBlank first = false)
    (notComment : first ≠ '#') (notContinued : first = '\\' → rest.head? ≠ some '\n') :
    splitLayout (first :: rest) = ([], first :: rest) := by
  rw [splitLayout_cons notContinued, notBlank, if_neg Bool.false_ne_true, if_neg notComment]

/-- Where no layout begins, none is skipped. -/
theorem splitLayout_of_code {c : Char} (code : ¬ BeginsLayout c) (rest : List Char) :
    splitLayout (c :: rest) = ([], c :: rest) := by
  unfold BeginsLayout at code
  rw [not_or, not_or] at code
  obtain ⟨notBlank, notComment, notSlash⟩ := code
  exact splitLayout_of_lexeme (Bool.eq_false_iff.2 notBlank) notComment fun slash =>
    absurd slash notSlash

/-! ## What is read -/

theorem tokensFrom_of_end {position : Position} {text layout : List Char}
    (skipped : splitLayout text = (layout, [])) : tokensFrom position text = [] := by
  rw [tokensFrom]
  split
  · rfl
  · rename_i other first rest division
    rw [skipped] at division
    cases (Prod.mk.inj division).2

theorem tokensFrom_of_code {position : Position} {text layout rest : List Char} {first : Char}
    (skipped : splitLayout text = (layout, first :: rest)) :
    tokensFrom position text =
      ⟨(lexeme first rest).1, String.ofList (lexeme first rest).2.1,
          ⟨position.advance layout, (position.advance layout).advance (lexeme first rest).2.1⟩⟩ ::
        tokensFrom ((position.advance layout).advance (lexeme first rest).2.1)
          (lexeme first rest).2.2 := by
  rw [tokensFrom]
  split
  · rename_i other division
    rw [skipped] at division
    cases (Prod.mk.inj division).2
  · rename_i layout' first' rest' division
    rw [skipped] at division
    obtain ⟨rfl, same⟩ := Prod.mk.inj division
    obtain ⟨rfl, rfl⟩ := List.cons.inj same
    rfl

@[simp] theorem tokensFrom_nil (position : Position) : tokensFrom position [] = [] :=
  tokensFrom_of_end rfl

/-- A gap in front of a text moves its tokens and changes nothing else. -/
theorem tokensFrom_gap {gap : List Char} (laid : Gap gap) (position : Position)
    (text : List Char) :
    tokensFrom position (gap ++ text) = tokensFrom (position.advance gap) text := by
  have skipped := splitLayout_gap laid text
  cases found : splitLayout text with
  | mk layout rest =>
      rw [found] at skipped
      cases rest with
      | nil => rw [tokensFrom_of_end skipped, tokensFrom_of_end found]
      | cons first rest =>
          rw [tokensFrom_of_code skipped, tokensFrom_of_code found, Position.advance_append]

/-! ## Lexemes in front of other text -/

structure Lexeme where
  kind : Kind
  text : String
deriving DecidableEq, Repr

/-- A lexeme of the kind ends in front of the text: the next character goes on with no word and no
number, and does not open a string to which the lexeme would belong. -/
def Kind.EndsBefore (kind : Kind) (text : List Char) : Prop :=
  ∀ c ∈ text.head?, isWord c = false ∧ isQuote c = false ∧ (kind = .number → c ≠ '.')

theorem Parted.endsBefore {text : List Char} (parted : Parted text) (kind : Kind) :
    kind.EndsBefore text := by
  intro c first
  have begins := parted c first
  exact ⟨begins.notWord, begins.notQuote, fun _ => begins.notPoint⟩

def Token.toLexeme (token : Token) : Lexeme := ⟨token.kind, token.text⟩

/-- A lexeme that may stand in a text: by itself it is one token, and it is not one of the
characters that can become part of something else when more text follows. -/
structure Lexeme.Separable (lexeme : Lexeme) : Prop where
  alone : (tokenize lexeme.text none).map Token.toLexeme = [lexeme]
  ordinary : lexeme.kind = .other → lexeme.text ∉ ["\"", "'", "\\"]

theorem map_toLexeme_tokenize (text : String) (origin : Option Span) :
    (tokenize text origin).map Token.toLexeme =
      (tokensFrom .origin text.toList).map Token.toLexeme := by
  unfold tokenize
  rw [List.map_map]
  rfl

section
variable {written : Lexeme} {first : Char} {rest after text : List Char}

theorem lexeme_of_string {body : List Char}
    (found : stringLexeme (first :: rest) = some (body, after)) :
    lexeme first rest = (.string, body, after) := by
  unfold lexeme
  rw [found]

/-- What is no string is told by its first character. -/
theorem lexeme_of_noString (noString : stringLexeme (first :: rest) = none) :
    lexeme first rest =
      if isDecimal first then
        (.number, first :: rest.takeWhile lexeme.numberPart, rest.dropWhile lexeme.numberPart)
      else if isWord first then (.ident, first :: rest.takeWhile isWord, rest.dropWhile isWord)
      else if first = '.' then (.dot, [first], rest)
      else if first = ',' then (.comma, [first], rest)
      else if first = '=' then (.equals, [first], rest)
      else (.other, [first], rest) := by
  unfold lexeme
  rw [noString]

theorem kind_ne_string_of_noString (noString : stringLexeme (first :: rest) = none) :
    (lexeme first rest).1 ≠ .string := by
  rw [lexeme_of_noString noString]
  split_ifs <;> exact Kind.noConfusion

theorem stringLexeme_of_first (noLetter : isStringPrefix first = false)
    (noQuote : isQuote first = false) : stringLexeme (first :: rest) = none := by
  rw [Option.eq_none_iff_forall_ne_some]
  rintro ⟨body, after⟩ found
  obtain ⟨letters, quoted, inner, whole, -, all, -, step⟩ := stringLexeme_eq_some_iff.1 found
  obtain ⟨quote, c, others, rfl, isQuote⟩ := exists_cons_of_quotedLexeme step
  cases letters with
  | nil =>
      rw [(List.cons.inj whole).1, isQuote] at noQuote
      cases noQuote
  | cons letter more =>
      rw [(List.cons.inj whole).1, all letter (by simp)] at noLetter
      cases noLetter

/-- A text that is one token is read as one lexeme, with no layout before it and nothing behind. -/
theorem Lexeme.Separable.exists_cons (separable : written.Separable) :
    ∃ first rest, written.text.toList = first :: rest ∧ ¬ BeginsLayout first ∧
      lexeme first rest = (written.kind, first :: rest, []) := by
  have alone := separable.alone
  rw [map_toLexeme_tokenize] at alone
  have whole := splitLayout_append written.text.toList
  cases found : splitLayout written.text.toList with
  | mk layout code =>
      rw [found] at whole
      cases code with
      | nil =>
          rw [tokensFrom_of_end found] at alone
          cases alone
      | cons first rest =>
          rw [tokensFrom_of_code found, List.map_cons] at alone
          obtain ⟨same, -⟩ := List.cons.inj alone
          obtain ⟨sameKind, sameText⟩ := Lexeme.mk.inj same
          -- The lexeme is as long as the text, so there is nothing before it and nothing behind.
          have split := lexeme_append first rest
          have spelled : (lexeme first rest).2.1 = written.text.toList := by
            rw [← sameText, String.toList_ofList]
          have lengths := congrArg List.length whole
          have lengths' := congrArg List.length split
          rw [spelled] at lengths'
          simp only [List.length_append, List.length_cons] at lengths lengths'
          have noLayout : layout = [] := List.eq_nil_of_length_eq_zero (by omega)
          have nothing : (lexeme first rest).2.2 = [] := List.eq_nil_of_length_eq_zero (by omega)
          rw [nothing, List.append_nil] at split
          have read : lexeme first rest = (written.kind, first :: rest, []) := by
            rw [← split, ← nothing, ← sameKind]
          refine ⟨first, rest, spelled.symm.trans split, ?_, read⟩
          rw [← spelled, split, noLayout] at found
          rintro (white | rfl | rfl)
          · rw [splitLayout_blank white] at found
            cases found
          · have opened : splitLayout ('#' :: rest) =
                consLayout '#' (splitLayoutWithin true rest) := rfl
            rw [opened] at found
            cases found
          · have other : lexeme '\\' rest = (.other, ['\\'], rest) :=
              lexeme_of_noString (stringLexeme_of_first (by decide) (by decide))
            rw [other] at sameKind sameText
            have slash : written.text = String.ofList ['\\'] := sameText.symm
            exact separable.ordinary sameKind.symm (by rw [slash]; decide)

/-- Nothing is taken from a text that goes on with something else. -/
theorem takeWhile_of_stops {part : Char → Bool} (stops : ∀ c ∈ after.head?, part c = false)
    (all : ∀ c ∈ rest, part c = true) :
    (rest ++ after).takeWhile part = rest ∧ (rest ++ after).dropWhile part = after := by
  rw [List.takeWhile_append_of_pos all, List.dropWhile_append_of_pos all]
  cases after with
  | nil => simp
  | cons c others =>
      have stop := stops c rfl
      simp [stop]

/-- A string that is all of a text ends there also if something follows that is no quote. -/
theorem quotedLexeme_ends (found : quotedLexeme text = some (text, []))
    (noQuote : ∀ c ∈ after.head?, isQuote c = false) :
    quotedLexeme (text ++ after) = some (text, after) := by
  obtain ⟨quote, rest, quoted, rfl, outcome⟩ := quotedLexeme_eq_some_iff.1 found
  refine quotedLexeme_eq_some_iff.2 ⟨quote, rest ++ after, quoted, rfl, ?_⟩
  rcases outcome with triple | ⟨noTriple, inner, same, single⟩
  · obtain ⟨more, inner, rfl, same, closed⟩ := tripled_eq_some_iff.1 triple
    exact Or.inl (tripled_eq_some_iff.2 ⟨more ++ after, inner, rfl, same,
      tripleBody_extend after closed⟩)
  · obtain rfl := (List.cons.inj same).2
    refine Or.inr ⟨tripled_of_noPair fun more pair => ?_, rest, rfl, singleBody_extend after single⟩
    -- Two more quotes could only be the end of the text and what is behind it.
    match rest with
    | [] => cases single
    | [c] =>
        have next : after = quote :: more := (List.cons.inj pair).2
        rw [noQuote quote (by rw [next]; rfl)] at quoted
        cases quoted
    | c :: d :: others =>
        obtain ⟨rfl, tail⟩ := List.cons.inj pair
        rw [singleBody_quote (ne_of_isQuote quoted rfl)] at single
        cases (Prod.mk.inj (Option.some.inj single)).2

theorem stringLexeme_ends (found : stringLexeme text = some (text, []))
    (noQuote : ∀ c ∈ after.head?, isQuote c = false) :
    stringLexeme (text ++ after) = some (text, after) := by
  obtain ⟨letters, quoted, inner, rfl, few, all, same, step⟩ := stringLexeme_eq_some_iff.1 found
  obtain rfl := List.append_cancel_left same
  exact stringLexeme_eq_some_iff.2 ⟨letters, quoted ++ after, quoted, List.append_assoc .., few,
    all, rfl, quotedLexeme_ends step noQuote⟩

/-- A text without quotes does not become a string by what follows its end. -/
theorem stringLexeme_of_noQuote {kind : Kind} (noQuote : ∀ c ∈ text, isQuote c = false)
    (ends : kind.EndsBefore after) : stringLexeme (text ++ after) = none := by
  rw [Option.eq_none_iff_forall_ne_some]
  rintro ⟨body, rest⟩ found
  obtain ⟨letters, quoted, inner, whole, -, all, -, step⟩ := stringLexeme_eq_some_iff.1 found
  obtain ⟨quote, c, others, rfl, isQuote⟩ := exists_cons_of_quotedLexeme step
  have notBehind : ∀ others, after ≠ quote :: others := by
    rintro others rfl
    rw [(ends quote rfl).2.1] at isQuote
    cases isQuote
  rcases List.append_eq_append_iff.1 whole with ⟨front, rfl, behind⟩ | ⟨front, rfl, inside⟩
  · cases front with
    | nil => exact notBehind _ behind
    | cons letter more =>
        have word := isWord_of_isStringPrefix (all letter (by simp))
        rw [(ends letter (by rw [behind]; rfl)).1] at word
        cases word
  · cases front with
    | nil => exact notBehind _ inside.symm
    | cons d more =>
        obtain ⟨rfl, -⟩ := List.cons.inj inside
        rw [noQuote quote (by simp)] at isQuote
        cases isQuote

/-- A lexeme that is no string is a character and those behind it that go on with it. Quotes go on
with nothing, and neither does what is not part of words, except for the point in numbers. -/
theorem exists_part_of_noString (first : Char) :
    ∃ (kind : Kind) (part : Char → Bool),
      (∀ c, isWord c = false → (kind = .number → c ≠ '.') → part c = false) ∧
      (∀ c, part c = true → isQuote c = false) ∧
        ∀ rest, stringLexeme (first :: rest) = none →
          lexeme first rest = (kind, first :: rest.takeWhile part, rest.dropWhile part) := by
  by_cases decimal : isDecimal first = true
  · refine ⟨.number, lexeme.numberPart, ?_, ?_, fun rest noString => ?_⟩
    · intro c noWord noPoint
      simp [lexeme.numberPart, noWord, noPoint rfl]
    · intro c part
      rcases Bool.or_eq_true_iff.1 part with word | point
      · exact isQuote_of_isWord word
      · rw [beq_iff_eq.1 point]
        decide
    · rw [lexeme_of_noString noString, if_pos decimal]
  · by_cases word : isWord first = true
    · refine ⟨.ident, isWord, fun c noWord _ => noWord, fun c => isQuote_of_isWord, ?_⟩
      intro rest noString
      rw [lexeme_of_noString noString, if_neg decimal, if_pos word]
    · refine ⟨if first = '.' then .dot else if first = ',' then .comma
        else if first = '=' then .equals else .other, fun _ => false, by simp, by simp, ?_⟩
      intro rest noString
      have none : rest.takeWhile (fun _ => false) = [] := by cases rest <;> rfl
      have all : rest.dropWhile (fun _ => false) = rest := by cases rest <;> rfl
      rw [lexeme_of_noString noString, if_neg decimal, if_neg word, none, all]
      split_ifs <;> rfl

/-- A quote that opens no string stands for itself. -/
theorem lexeme_of_openQuote (quoted : isQuote first = true)
    (noString : stringLexeme (first :: rest) = none) :
    lexeme first rest = (.other, [first], rest) := by
  rw [lexeme_of_noString noString]
  rcases isQuote_iff.1 quoted with rfl | rfl <;> rfl

/-- **A lexeme in front of what does not go on with it is read as it is read alone.** -/
theorem lexeme_of_separable (separable : written.Separable)
    (text : written.text.toList = first :: rest) (ends : written.kind.EndsBefore after) :
    lexeme first (rest ++ after) = (written.kind, first :: rest, after) := by
  obtain ⟨first', rest', text', -, alone⟩ := separable.exists_cons
  obtain ⟨rfl, rfl⟩ := List.cons.inj (text'.symm.trans text)
  cases found : stringLexeme (first' :: rest') with
  | some pair =>
      obtain ⟨body, behind⟩ := pair
      rw [lexeme_of_string found] at alone
      obtain ⟨isString, same⟩ := Prod.mk.inj alone
      obtain ⟨rfl, rfl⟩ := Prod.mk.inj same
      have extended : stringLexeme (first' :: (rest' ++ after)) = some (first' :: rest', after) :=
        stringLexeme_ends found fun c next => (ends c next).2.1
      rw [lexeme_of_string extended, isString]
  | none =>
      obtain ⟨kind, part, stops, noQuote, read⟩ := exists_part_of_noString first'
      have notOpened : isQuote first' = false := by
        rw [Bool.eq_false_iff]
        intro quoted
        rw [lexeme_of_openQuote quoted found] at alone
        obtain ⟨isOther, same⟩ := Prod.mk.inj alone
        have single : written.text = String.ofList [first'] := by
          rw [← String.toList_inj, String.toList_ofList, text, (Prod.mk.inj same).1]
        refine separable.ordinary isOther.symm ?_
        rw [single]
        rcases isQuote_iff.1 quoted with rfl | rfl <;> decide
      rw [read rest' found] at alone
      obtain ⟨rfl, same⟩ := Prod.mk.inj alone
      have parts := List.dropWhile_eq_nil_iff.1 (Prod.mk.inj same).2
      have noQuoteAtAll : ∀ c ∈ first' :: rest', isQuote c = false := by
        intro c member
        rcases List.mem_cons.1 member with rfl | later
        · exact notOpened
        · exact noQuote c (parts c later)
      have extended : stringLexeme (first' :: (rest' ++ after)) = none :=
        stringLexeme_of_noQuote noQuoteAtAll ends
      obtain ⟨taken, left⟩ := takeWhile_of_stops
        (fun c next => stops c (ends c next).1 (ends c next).2.2) parts
      rw [read (rest' ++ after) extended, taken, left]

end

/-! ## Texts in which lexemes are laid out -/

/-- What may follow a lexeme: a gap, which is not empty if more lexemes come behind it. -/
inductive LaidOutBehind : List Lexeme → List Char → Prop where
  | last {gap : List Char} (laid : Gap gap) : LaidOutBehind [] gap
  | next {written : Lexeme} {others : List Lexeme} {gap after : List Char} (laid : Gap gap)
      (apart : gap ≠ []) (more : LaidOutBehind others after) :
      LaidOutBehind (written :: others) (gap ++ (written.text.toList ++ after))

/-- The text is the lexemes in order, with gaps between them, and perhaps before and behind. -/
inductive LaidOut : List Lexeme → List Char → Prop where
  | nothing {gap : List Char} (laid : Gap gap) : LaidOut [] gap
  | lexemes {written : Lexeme} {others : List Lexeme} {gap after : List Char} (laid : Gap gap)
      (more : LaidOutBehind others after) :
      LaidOut (written :: others) (gap ++ (written.text.toList ++ after))

theorem LaidOutBehind.parted {lexemes : List Lexeme} {text : List Char}
    (laidOut : LaidOutBehind lexemes text) : Parted text := by
  cases laidOut with
  | last laid => exact laid.parted
  | @next written others gap after laid apart more =>
      intro c first
      apply laid.parted c
      cases gap with
      | nil => exact absurd rfl apart
      | cons d rest => exact first

section
variable {written : Lexeme} {lexemes : List Lexeme} {text after : List Char}

/-- A lexeme in front of what does not go on with it becomes a token, and what is behind it becomes
the others. -/
theorem tokensFrom_lexeme (separable : written.Separable) (ends : written.kind.EndsBefore after)
    (position : Position) :
    tokensFrom position (written.text.toList ++ after) =
      ⟨written.kind, written.text,
          ⟨position, position.advance written.text.toList⟩⟩ ::
        tokensFrom (position.advance written.text.toList) after := by
  obtain ⟨first, rest, text, code, -⟩ := separable.exists_cons
  have read := lexeme_of_separable separable text ends
  have spelled : String.ofList (first :: rest) = written.text := by
    rw [← text, String.ofList_toList]
  rw [text, List.cons_append, tokensFrom_of_code (splitLayout_of_code code _), read]
  dsimp only [Position.advance_nil]
  rw [spelled]

theorem lexemes_of_laidOutBehind (separable : ∀ written ∈ lexemes, written.Separable)
    (laidOut : LaidOutBehind lexemes text) (position : Position) :
    (tokensFrom position text).map Token.toLexeme = lexemes := by
  induction laidOut generalizing position with
  | @last gap laid =>
      rw [← List.append_nil gap, tokensFrom_gap laid, tokensFrom_nil]
      rfl
  | @next written others gap after laid apart more inductionHypothesis =>
      have behind := inductionHypothesis fun other member =>
        separable other (List.mem_cons_of_mem _ member)
      rw [tokensFrom_gap laid,
        tokensFrom_lexeme (separable written (List.mem_cons_self ..)) (more.parted.endsBefore _),
        List.map_cons, behind]
      rfl

/-- **A text in which lexemes are laid out has these lexemes as its tokens.** -/
theorem lexemes_of_laidOut (separable : ∀ written ∈ lexemes, written.Separable)
    (laidOut : LaidOut lexemes text) (position : Position) :
    (tokensFrom position text).map Token.toLexeme = lexemes := by
  cases laidOut with
  | nothing laid => exact lexemes_of_laidOutBehind separable (.last laid) position
  | @lexemes written others gap after laid more =>
      have behind := lexemes_of_laidOutBehind
        (fun other member => separable other (List.mem_cons_of_mem _ member)) more
      rw [tokensFrom_gap laid,
        tokensFrom_lexeme (separable written (List.mem_cons_self ..)) (more.parted.endsBefore _),
        List.map_cons, behind]
      rfl

end

end ModuleGlue.Directive
