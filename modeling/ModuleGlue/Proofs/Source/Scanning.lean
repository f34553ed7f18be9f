import ModuleGlue.Proofs.Text.Quoted
import ModuleGlue.Source.Line

/-!
Contract: scanning lines of code, token by token.

What a line is scanned to is told from its end: the tokens of a text are those of what stands behind
its first token, with that token in front. So the tokens of generated code follow from its parts.

Main statement: `Scans.lineTree` (a text that is scanned to its end is a file of one line).

Owns: one lemma for each kind of token that generated code holds, and blanks between them.

Does not own: the grammar, and how lines are nested.
-/

namespace ModuleGlue.Source

open ModuleGlue.Text

/-- What a token is, its gap and its place aside. -/
def Token.spelling (token : Token) : TokenKind × String := (token.kind, token.text)

/-- The line ends with nothing but a line feed, or at the end of the text, and `behind` follows it. -/
structure EndsPlainly (context : LineContext) (behind : List Char) (line : ScannedLine) : Prop where
  rest : line.rest = behind
  ending : context.usual = ['\n'] → line.ending = .plain

/-- With the given brackets open, a text is scanned to the end of a line, behind which the text goes
on as given. The tokens up to there have the given spellings. -/
def Scans (behind : List Char) (frames : List Frame) (text : List Char)
    (spelled : List (TokenKind × String)) : Prop :=
  ∀ context position fuel, text.length < fuel →
    ∃ line, scanLine context fuel frames position text = some line ∧
      EndsPlainly context behind line ∧ line.tokens.map Token.spelling = spelled

/-- The end of the text is the end of a line in which nothing is open. -/
theorem Scans.nil : Scans [] [] [] [] := by
  intro context position fuel enough
  obtain ⟨fuel, rfl⟩ := Nat.exists_eq_succ_of_ne_zero (Nat.ne_of_gt enough)
  exact ⟨_, rfl, ⟨rfl, fun _ => rfl⟩, rfl⟩

/-- So is a line feed. -/
theorem Scans.feed (behind : List Char) : Scans behind [] ('\n' :: behind) [] := by
  intro context position fuel enough
  obtain ⟨fuel, rfl⟩ := Nat.exists_eq_succ_of_ne_zero (Nat.ne_of_gt (Nat.zero_lt_of_lt enough))
  refine ⟨_, rfl, ⟨rfl, ?_⟩, rfl⟩
  intro usual
  simp [LineBreak.ofText, usual, LineEnd.plain]

/-! ## One token -/

def isCode (c : Char) : Bool :=
  !(c == ' ' || c == '\t' || c == '\x0c' || isBreak c || c == '#' || c == '\\')

/-- What is layout with the given brackets open. -/
def takeLayout (frames : List Frame) (text : List Char) : List Char × List Char :=
  if frames.isEmpty then takeSpacing text else takeInnerLayout false text

theorem takeLayout_of_code (frames : List Frame) {c : Char} (code : isCode c = true)
    (rest : List Char) : takeLayout frames (c :: rest) = ([], c :: rest) := by
  simp only [isCode, Bool.not_eq_true', Bool.or_eq_false_iff, beq_eq_false_iff_ne] at code
  obtain ⟨⟨⟨⟨⟨noSpace, noTab⟩, noFeed⟩, noBreak⟩, noComment⟩, noBackslash⟩ := code
  unfold takeLayout
  split
  · unfold takeSpacing
    split
    · rename_i same
      exact absurd (List.cons.inj same).1 noBackslash
    · rename_i same
      exact absurd (List.cons.inj same).1 noBackslash
    · rename_i same
      exact absurd (List.cons.inj same).1 noBackslash
    · rename_i same
      obtain ⟨rfl, rfl⟩ := List.cons.inj same
      simp [noSpace, noTab, noFeed]
    · rename_i same
      cases same
  · unfold takeInnerLayout
    simp [noSpace, noTab, noFeed, noBreak, noComment, noBackslash]

/-- A blank is layout. -/
theorem takeLayout_blank (frames : List Frame) {c : Char} (code : isCode c = true)
    (rest : List Char) : takeLayout frames (' ' :: c :: rest) = ([' '], c :: rest) := by
  have behind := takeLayout_of_code frames code rest
  unfold takeLayout at behind ⊢
  split
  · rename_i outside
    rw [if_pos outside] at behind
    show takeSpacing.more [' '] (takeSpacing (c :: rest)) = _
    rw [behind]
    rfl
  · rename_i inside
    rw [if_neg inside] at behind
    unfold takeInnerLayout
    rw [behind]
    rfl

/-- The token that a scanned one becomes behind some layout. -/
def Scanned.behind (found : Scanned) (context : LineContext) (frames : List Frame)
    (layout : List Char) (position : Position) : Token :=
  .place found.kind found.text (.ofText context.usual context.indent (!frames.isEmpty) layout)
    (advanceLines position layout)

/-- Where code stands behind the layout, the line goes on with a token. -/
theorem scanLine_of_code {context : LineContext} {fuel : Nat} {frames : List Frame}
    {position : Position} {text layout rest : List Char} {c : Char}
    (expression : inFormatText frames = false) (code : isCode c = true)
    (separated : takeLayout frames text = (layout, c :: rest)) :
    scanLine context (fuel + 1) frames position text =
      (scanToken frames (c :: rest)).bind fun found =>
        let token := found.behind context frames layout position
        (scanLine context fuel found.frames token.stop found.rest).bind fun line =>
          some { line with tokens := token :: line.tokens } := by
  have layouts : (if (!frames.isEmpty) = true then takeInnerLayout false text
      else takeSpacing text) = (layout, c :: rest) := by
    rw [← separated]
    unfold takeLayout
    cases frames.isEmpty <;> rfl
  have going : (c == '#' || isBreak c) = false := by
    simp only [isCode, Bool.not_eq_true', Bool.or_eq_false_iff] at code
    simp only [code.1.1.2, code.1.2, Bool.or_false]
  conv =>
    lhs
    unfold scanLine
  simp only [expression, layouts, going, Bool.false_eq_true, if_false, Bool.false_and]
  rfl

variable {behind : List Char}

/-- A token in front of a text that is scanned. -/
theorem Scans.token {frames frames' : List Frame} {layout text rest : List Char} {c : Char}
    {kind : TokenKind} {spelled : List (TokenKind × String)} (expression : inFormatText frames = false)
    (code : isCode c = true)
    (separated : takeLayout frames (layout ++ (c :: text ++ rest)) = (layout, c :: text ++ rest))
    (found : scanToken frames (c :: text ++ rest) = some ⟨kind, c :: text, frames', rest⟩)
    (others : Scans behind frames' rest spelled) :
    Scans behind frames (layout ++ (c :: text ++ rest))
      ((kind, String.ofList (c :: text)) :: spelled) := by
  intro context position fuel enough
  obtain ⟨fuel, rfl⟩ := Nat.exists_eq_succ_of_ne_zero (Nat.ne_of_gt (Nat.zero_lt_of_lt enough))
  let token := Scanned.behind ⟨kind, c :: text, frames', rest⟩ context frames layout position
  have enough' : rest.length < fuel := by
    simp only [List.length_append, List.length_cons] at enough
    omega
  obtain ⟨line, scanned, ⟨final, ending⟩, spellings⟩ := others context token.stop fuel enough'
  refine ⟨{ line with tokens := token :: line.tokens }, ?_, ⟨final, ending⟩, ?_⟩
  · rw [scanLine_of_code expression code separated]
    change (scanToken frames (c :: text ++ rest)).bind _ = _
    rw [found, Option.bind_some]
    dsimp only
    rw [scanned]
    rfl
  · rw [List.map_cons, spellings]
    rfl

/-! ## Kinds of token -/

def Blank (layout : List Char) : Prop := layout = [] ∨ layout = [' ']

theorem takeLayout_of_blank (frames : List Frame) {layout : List Char} (blank : Blank layout)
    {c : Char} (code : isCode c = true) (rest : List Char) :
    takeLayout frames (layout ++ c :: rest) = (layout, c :: rest) := by
  rcases blank with rfl | rfl
  · exact takeLayout_of_code frames code rest
  · exact takeLayout_blank frames code rest

/-- A text begins with a character that ends a name and is no quote. -/
def EndsName (text : List Char) : Prop :=
  ∃ c rest, text = c :: rest ∧ continuesName c = false ∧ c ≠ '"' ∧ c ≠ '\''

theorem endsName_cons {c : Char} (ends : (continuesName c || c == '"' || c == '\'') = false)
    (rest : List Char) : EndsName (c :: rest) := by
  simp only [Bool.or_eq_false_iff, beq_eq_false_iff_ne] at ends
  exact ⟨c, rest, rfl, ends.1.1, ends.1.2, ends.2⟩

theorem continuesName_of_continue {c : Char} (continues : isIdentifierContinue c = true) :
    continuesName c = true := by
  unfold isIdentifierContinue at continues
  unfold continuesName
  split at continues
  · simp only [Bool.or_eq_true] at continues ⊢
    exact Or.inl continues
  · rename_i beyond
    simp [Nat.le_of_not_lt beyond]

theorem startsName_of_start {c : Char} (starts : isIdentifierStart c = true) :
    startsName c = true := by
  unfold isIdentifierStart at starts
  unfold startsName
  split at starts
  · simp only [Bool.or_eq_true] at starts ⊢
    exact Or.inl starts
  · rename_i beyond
    simp [Nat.le_of_not_lt beyond]

theorem continuesName_of_starts {c : Char} (starts : startsName c = true) :
    continuesName c = true := by
  unfold startsName at starts
  unfold continuesName
  simp only [Bool.or_eq_true, Char.isAlphanum] at starts ⊢
  rcases starts with (alpha | under) | beyond
  · exact Or.inl (Or.inl (Or.inl alpha))
  · exact Or.inl (Or.inr under)
  · exact Or.inr beyond

/-- No layout begins a name. -/
theorem isCode_of_starts {c : Char} (starts : startsName c = true) : isCode c = true := by
  have silent : [' ', '\t', '\x0c', '\r', '\n', '#', '\\'].all (!startsName ·) = true := by
    decide
  have apart : ∀ d ∈ [' ', '\t', '\x0c', '\r', '\n', '#', '\\'], c ≠ d := by
    rintro d member rfl
    have never : (!startsName c) = true := List.all_eq_true.1 silent c member
    rw [starts] at never
    cases never
  simp only [List.mem_cons, List.not_mem_nil, or_false, forall_eq_or_imp, forall_eq] at apart
  obtain ⟨noSpace, noTab, noForm, noReturn, noFeed, noComment, noBackslash⟩ := apart
  simp [isCode, isBreak, noSpace, noTab, noForm, noReturn, noFeed, noComment, noBackslash]

/-- An identifier begins a name, and goes on with it. -/
theorem exists_cons_of_spells {letters : List Char} (spells : spellsIdentifier letters = true) :
    ∃ c more, letters = c :: more ∧ startsName c = true ∧
      ∀ d ∈ letters, continuesName d = true := by
  cases letters with
  | nil => cases spells
  | cons first more =>
      have parts : isIdentifierStart first = true ∧ more.all isIdentifierContinue = true := by
        simpa [spellsIdentifier] using spells
      have starts := startsName_of_start parts.1
      refine ⟨first, more, rfl, starts, ?_⟩
      intro d member
      rcases List.mem_cons.1 member with rfl | member
      · exact continuesName_of_starts starts
      · exact continuesName_of_continue (List.all_eq_true.1 parts.2 d member)

/-- An identifier is one token, unless the text goes on with it. -/
theorem scanToken_name (frames : List Frame) {letters rest : List Char}
    (spells : spellsIdentifier letters = true) (ends : EndsName rest) :
    scanToken frames (letters ++ rest) = some ⟨.name, letters, frames, rest⟩ := by
  obtain ⟨d, others, rfl, stops, noDouble, noSingle⟩ := ends
  obtain ⟨first, more, rfl, starts, all⟩ := exists_cons_of_spells spells
  have taken : (first :: more ++ d :: others).takeWhile continuesName = first :: more := by
    rw [List.takeWhile_append_of_pos all, List.takeWhile_cons_of_neg (by simp [stops]),
      List.append_nil]
  have left : (first :: more ++ d :: others).dropWhile continuesName = d :: others := by
    rw [List.dropWhile_append_of_pos all, List.dropWhile_cons_of_neg (by simp [stops])]
  have noQuotes : takeQuotes (d :: others) = none := by
    simp [takeQuotes, noDouble, noSingle]
  change (if startsName first then _ else _) = _
  rw [if_pos starts]
  change (let letters := (first :: more ++ d :: others).takeWhile continuesName
    let after := (first :: more ++ d :: others).dropWhile continuesName
    _) = _
  simp only [taken, left, noQuotes, Option.isSome_none, Bool.false_and, Bool.false_eq_true,
    if_false, spells, if_true]

theorem Scans.name {frames : List Frame} {layout rest : List Char} {name : String}
    {spelled : List (TokenKind × String)} (expression : inFormatText frames = false)
    (blank : Blank layout) (spells : spellsIdentifier name.toList = true) (ends : EndsName rest)
    (others : Scans behind frames rest spelled) :
    Scans behind frames (layout ++ (name.toList ++ rest)) ((.name, name) :: spelled) := by
  have found := scanToken_name frames spells ends
  have written : String.ofList name.toList = name := String.ofList_toList
  generalize name.toList = letters at *
  subst written
  obtain ⟨first, more, rfl, starts, -⟩ := exists_cons_of_spells spells
  have code := isCode_of_starts starts
  exact Scans.token expression code (takeLayout_of_blank frames blank code _) found others

/-- The body of a literal ends at the quote behind it. -/
theorem takeBody_of_quoted {delimiter : Char} (isQuote : delimiter = '\'' ∨ delimiter = '"')
    {body : List Char} (quoted : QuotedBody delimiter body) (rest : List Char) {fuel : Nat}
    (enough : body.length < fuel) :
    takeBody delimiter false fuel (body ++ delimiter :: rest) =
      some (body ++ [delimiter], rest) := by
  induction quoted generalizing fuel with
  | nil =>
      obtain ⟨fuel, rfl⟩ := Nat.exists_eq_succ_of_ne_zero (Nat.ne_of_gt enough)
      simp [takeBody, closingQuotes]
  | @plain c others noQuote noBackslash noReturn noFeed follows inductionHypothesis =>
      obtain ⟨fuel, rfl⟩ := Nat.exists_eq_succ_of_ne_zero (Nat.ne_of_gt (Nat.zero_lt_of_lt enough))
      have read := inductionHypothesis (Nat.lt_of_succ_lt_succ enough)
      have apart : delimiter ≠ c := Ne.symm noQuote
      simp [takeBody, closingQuotes, apart, isBreak, noReturn, noFeed, noBackslash, read]
  | @escaped c others noReturn follows inductionHypothesis =>
      obtain ⟨fuel, rfl⟩ := Nat.exists_eq_succ_of_ne_zero (Nat.ne_of_gt (Nat.zero_lt_of_lt enough))
      have enough' : others.length < fuel := by
        simp only [List.length_cons] at enough
        omega
      have read := inductionHypothesis enough'
      have apart : delimiter ≠ '\\' := by
        rcases isQuote with rfl | rfl <;> decide
      simp [takeBody, closingQuotes, apart, isBreak, takeProtected, noReturn, read]

/-- A literal on one line is one token, unless a quote follows it. -/
theorem scanToken_quoted (frames : List Frame) {delimiter : Char}
    (isQuote : delimiter = '\'' ∨ delimiter = '"') {body : List Char}
    (quoted : QuotedBody delimiter body) {c : Char} (others : List Char) (noDouble : c ≠ '"')
    (noSingle : c ≠ '\'') :
    scanToken frames (delimiter :: (body ++ delimiter :: c :: others)) =
      some ⟨.string, delimiter :: (body ++ [delimiter]), frames, c :: others⟩ := by
  have noQuote : delimiter ≠ c := by
    rcases isQuote with rfl | rfl
    · exact Ne.symm noSingle
    · exact Ne.symm noDouble
  have begins : startsName delimiter = false ∧ (delimiter = '"' ∨ delimiter = '\'') := by
    rcases isQuote with rfl | rfl
    · exact ⟨by decide, Or.inr rfl⟩
    · exact ⟨by decide, Or.inl rfl⟩
  have single : [delimiter, delimiter].isPrefixOf (body ++ delimiter :: c :: others) = false := by
    cases quoted with
    | nil => simp [List.isPrefixOf, noQuote]
    | plain apart _ _ _ _ => simp [List.isPrefixOf, Ne.symm apart]
    | escaped _ _ =>
        have apart : delimiter ≠ '\\' := by
          rcases isQuote with rfl | rfl <;> decide
        simp [List.isPrefixOf, apart]
  have quotes : takeQuotes (delimiter :: (body ++ delimiter :: c :: others)) =
      some ([delimiter], delimiter, false, body ++ delimiter :: c :: others) := by
    simp [takeQuotes, begins.2, single]
  have enough : body.length < (body ++ delimiter :: c :: others).length + 1 := by
    rw [List.length_append]
    omega
  have read := takeBody_of_quoted isQuote quoted (c :: others) enough
  have literal : scanLiteral frames [] (delimiter :: (body ++ delimiter :: c :: others)) =
      some ⟨.string, delimiter :: (body ++ [delimiter]), frames, c :: others⟩ := by
    simp only [scanLiteral, literalPrefix?, List.map_nil, Option.bind_eq_bind, Option.bind_some,
      quotes, Bool.false_eq_true, if_false, read, List.nil_append, List.singleton_append]
  unfold scanToken
  dsimp only
  rw [if_neg (by simp [begins.1]), if_pos (by simpa using begins.2), literal]

theorem Scans.quoted {frames : List Frame} {layout rest : List Char} {delimiter : Char}
    (isQuote : delimiter = '\'' ∨ delimiter = '"') {body : List Char}
    (quoted : QuotedBody delimiter body) {c : Char} {spelled : List (TokenKind × String)}
    (expression : inFormatText frames = false) (blank : Blank layout) (noDouble : c ≠ '"')
    (noSingle : c ≠ '\'') (others : Scans behind frames (c :: rest) spelled) :
    Scans behind frames (layout ++ delimiter :: (body ++ delimiter :: c :: rest))
      ((.string, String.ofList (delimiter :: (body ++ [delimiter]))) :: spelled) := by
  have found := scanToken_quoted frames isQuote quoted rest noDouble noSingle
  have code : isCode delimiter = true := by
    rcases isQuote with rfl | rfl <;> decide
  have token := @Scans.token behind frames frames layout (body ++ [delimiter]) (c :: rest) delimiter
    .string spelled expression code (takeLayout_of_blank frames blank code _)
  simp only [List.cons_append, List.append_assoc, List.nil_append] at token
  exact token found others

/-- A text with its quotes is one token. -/
theorem Scans.quote {frames : List Frame} {layout rest : List Char} (points : Points) {c : Char}
    {spelled : List (TokenKind × String)} (expression : inFormatText frames = false)
    (blank : Blank layout) (noDouble : c ≠ '"') (noSingle : c ≠ '\'')
    (others : Scans behind frames (c :: rest) spelled) :
    Scans behind frames (layout ++ (quote points ++ c :: rest))
      ((.string, String.ofList (quote points)) :: spelled) := by
  obtain ⟨delimiter, body, isQuote, quoted, same⟩ := quote_eq points
  have scanned := Scans.quoted isQuote quoted expression blank noDouble noSingle others
  rw [same]
  simpa using scanned

/-- The body of a literal between three quotes ends at them. -/
theorem takeBody_of_documentation {body : List Char} (noQuote : '"' ∉ body)
    (noBackslash : '\\' ∉ body) (rest : List Char) {fuel : Nat} (enough : body.length < fuel) :
    takeBody '"' true fuel (body ++ '"' :: '"' :: '"' :: rest) =
      some (body ++ ['"', '"', '"'], rest) := by
  induction body generalizing fuel with
  | nil =>
      obtain ⟨fuel, rfl⟩ := Nat.exists_eq_succ_of_ne_zero (Nat.ne_of_gt enough)
      simp [takeBody, closingQuotes]
  | cons c others inductionHypothesis =>
      obtain ⟨fuel, rfl⟩ := Nat.exists_eq_succ_of_ne_zero (Nat.ne_of_gt (Nat.zero_lt_of_lt enough))
      rw [List.mem_cons, not_or] at noQuote noBackslash
      have read := inductionHypothesis noQuote.2 noBackslash.2 (Nat.lt_of_succ_lt_succ enough)
      have apart : c ≠ '\\' := Ne.symm noBackslash.1
      simp [takeBody, closingQuotes, noQuote.1, apart, read]

/-- A literal between three quotes is one token. -/
theorem Scans.documentation {frames : List Frame} {body rest : List Char}
    {spelled : List (TokenKind × String)} (expression : inFormatText frames = false)
    (noQuote : '"' ∉ body) (noBackslash : '\\' ∉ body) (others : Scans behind frames rest spelled) :
    Scans behind frames ('"' :: '"' :: '"' :: (body ++ '"' :: '"' :: '"' :: rest))
      ((.string, String.ofList ('"' :: '"' :: '"' :: (body ++ ['"', '"', '"']))) :: spelled) := by
  have literal : scanLiteral frames [] ('"' :: '"' :: '"' :: (body ++ '"' :: '"' :: '"' :: rest)) =
      some ⟨.string, '"' :: '"' :: '"' :: (body ++ ['"', '"', '"']), frames, rest⟩ := by
    simp [scanLiteral, literalPrefix?, takeQuotes]
    rw [takeBody_of_documentation noQuote noBackslash rest (by omega)]
    rfl
  have found : scanToken frames ('"' :: '"' :: '"' :: (body ++ '"' :: '"' :: '"' :: rest)) =
      some ⟨.string, '"' :: '"' :: '"' :: (body ++ ['"', '"', '"']), frames, rest⟩ := by
    unfold scanToken
    dsimp only
    rw [if_neg (by decide), if_pos (by decide), literal]
  have token := @Scans.token behind frames frames [] ('"' :: '"' :: (body ++ ['"', '"', '"'])) rest
    '"' .string spelled expression (by decide) (takeLayout_of_code frames (by decide) _)
  simp only [List.nil_append, List.cons_append, List.append_assoc] at token
  exact token found others

/-! ## Operators -/

theorem operators_eq : operators =
    [['*', '*', '='], ['/', '/', '='], ['>', '>', '='], ['<', '<', '='], ['.', '.', '.'],
      ['=', '='], ['!', '='], ['<', '='], ['>', '='], ['-', '>'], [':', '='], ['*', '*'],
      ['/', '/'], ['>', '>'], ['<', '<'], ['+', '='], ['-', '='], ['*', '='], ['/', '='],
      ['%', '='], ['&', '='], ['|', '='], ['^', '='], ['@', '='], ['+'], ['-'], ['*'], ['/'],
      ['%'], ['&'], ['|'], ['^'], ['~'], ['<'], ['>'], [','], [':'], [';'], ['.'], ['='],
      ['@']] := by
  decide

section
variable {frames frames' : List Frame} {layout rest : List Char} {c d : Char}
  {spelled : List (TokenKind × String)}

/-- An operator of one character in front of a text that is scanned. -/
theorem Scans.operator (expression : inFormatText frames = false) (blank : Blank layout)
    (code : isCode c = true)
    (found : scanToken frames (c :: rest) = some ⟨.operator, [c], frames', rest⟩)
    (others : Scans behind frames' rest spelled) :
    Scans behind frames (layout ++ c :: rest) ((.operator, String.ofList [c]) :: spelled) :=
  @Scans.token behind frames frames' layout [] rest c .operator spelled expression code
    (takeLayout_of_blank frames blank code rest) found others

def Bracketed (frames : List Frame) : Prop :=
  ∀ frame ∈ frames, frame = .bracket ')' ∨ frame = .bracket ']'

theorem bracketed_nil : Bracketed [] := by
  simp [Bracketed]

theorem Bracketed.opened (bracketed : Bracketed frames) {closing : Char}
    (isClosing : closing = ')' ∨ closing = ']') : Bracketed (.bracket closing :: frames) := by
  intro frame member
  rcases List.mem_cons.1 member with rfl | member
  · simpa using isClosing
  · exact bracketed frame member

theorem Bracketed.expression (bracketed : Bracketed frames) : inFormatText frames = false := by
  cases frames with
  | nil => rfl
  | cons frame outer =>
      rcases bracketed frame List.mem_cons_self with rfl | rfl <;> rfl

/-- Outside of replacement fields only brackets depend on what is open. -/
theorem Bracketed.scanPunctuation_eq (bracketed : Bracketed frames)
    (plain : c = ',' ∨ c = '=' ∨ c = ':' ∨ c = '.') (rest : List Char) :
    scanPunctuation frames c rest = none := by
  have noBracket : closingBracket? c = none ∧ c ≠ ')' ∧ c ≠ ']' := by
    rcases plain with rfl | rfl | rfl | rfl <;> exact ⟨rfl, by decide, by decide⟩
  unfold scanPunctuation
  rw [noBracket.1]
  cases frames with
  | nil => rfl
  | cons frame outer =>
      rcases bracketed frame List.mem_cons_self with rfl | rfl
      · exact if_neg noBracket.2.1
      · exact if_neg noBracket.2.2

/-- A comma, an equals sign, a colon or a point, if nothing follows that makes another operator, or
a number, of it. -/
theorem Scans.punctuation (bracketed : Bracketed frames) (blank : Blank layout)
    (plain : c = ',' ∨ c = '=' ∨ c = ':' ∨ c = '.')
    (noNumber : (c = '.' && rest.head?.any Char.isDigit) = false)
    (taken : takeOperator (c :: rest) = some ([c], rest))
    (others : Scans behind frames rest spelled) :
    Scans behind frames (layout ++ c :: rest) ((.operator, String.ofList [c]) :: spelled) := by
  have noMark : isCode c = true ∧ startsName c = false ∧ (c = '"' || c = '\'') = false ∧
      c.isDigit = false := by
    rcases plain with rfl | rfl | rfl | rfl <;> decide
  apply Scans.operator bracketed.expression blank noMark.1 ?_ others
  unfold scanToken
  dsimp only
  rw [noMark.2.1, noMark.2.2.1, noMark.2.2.2, noNumber, bracketed.scanPunctuation_eq plain, taken]
  rfl

theorem Scans.comma (bracketed : Bracketed frames) (others : Scans behind frames rest spelled) :
    Scans behind frames (',' :: rest) ((.operator, ",") :: spelled) := by
  apply @Scans.punctuation behind frames [] rest ',' spelled bracketed (Or.inl rfl) (by decide) rfl
    ?_ others
  simp [takeOperator, operators_eq, List.find?, List.isPrefixOf]

theorem Scans.equals (bracketed : Bracketed frames) (blank : Blank layout) (single : d ≠ '=')
    (others : Scans behind frames (d :: rest) spelled) :
    Scans behind frames (layout ++ '=' :: d :: rest) ((.operator, "=") :: spelled) := by
  have apart : ('=' == d) = false := by simpa using Ne.symm single
  apply Scans.punctuation bracketed blank (by decide) rfl ?_ others
  simp [takeOperator, operators_eq, List.find?, List.isPrefixOf, apart]

theorem Scans.colon (bracketed : Bracketed frames) (single : d ≠ '=')
    (others : Scans behind frames (d :: rest) spelled) :
    Scans behind frames (':' :: d :: rest) ((.operator, ":") :: spelled) := by
  have apart : ('=' == d) = false := by simpa using Ne.symm single
  apply @Scans.punctuation behind frames [] (d :: rest) ':' spelled bracketed (Or.inl rfl)
    (by decide) rfl ?_ others
  simp [takeOperator, operators_eq, List.find?, List.isPrefixOf, apart]

/-- No digit and no point begins a name. -/
theorem apart_of_startsName (starts : startsName d = true) :
    d.isDigit = false ∧ ('.' == d) = false := by
  have range : (65 ≤ d.toNat ∧ d.toNat ≤ 90 ∨ 97 ≤ d.toNat ∧ d.toNat ≤ 122) ∨ d = '_' ∨
      128 ≤ d.toNat := by
    have letter : d.isAlpha = (decide (65 ≤ d.val ∧ d.val ≤ 90) ||
        (decide (97 ≤ d.val) && decide (d.val ≤ 122))) := rfl
    simpa [startsName, letter, UInt32.le_iff_toNat_le, or_assoc] using starts
  constructor
  · rw [Bool.eq_false_iff]
    intro digit
    have low : 48 ≤ d.toNat ∧ d.toNat ≤ 57 := by
      simpa [Char.isDigit, UInt32.le_iff_toNat_le] using digit
    rcases range with range | rfl | range
    · omega
    · exact absurd low (by decide)
    · omega
  · rw [beq_eq_false_iff_ne]
    rintro rfl
    exact absurd starts (by decide)

theorem Scans.point (bracketed : Bracketed frames) (starts : startsName d = true)
    (others : Scans behind frames (d :: rest) spelled) :
    Scans behind frames ('.' :: d :: rest) ((.operator, ".") :: spelled) := by
  obtain ⟨noDigit, apart⟩ := apart_of_startsName starts
  apply @Scans.punctuation behind frames [] (d :: rest) '.' spelled bracketed (Or.inl rfl)
    (by decide) (by simp [noDigit]) ?_ others
  simp [takeOperator, operators_eq, List.find?, List.isPrefixOf, apart]

/-- A bracket opens. -/
theorem Scans.opening {closing : Char} (bracketed : Bracketed frames)
    (opens : c = '(' ∧ closing = ')' ∨ c = '[' ∧ closing = ']')
    (others : Scans behind (.bracket closing :: frames) rest spelled) :
    Scans behind frames (c :: rest) ((.operator, String.ofList [c]) :: spelled) := by
  rcases opens with ⟨rfl, rfl⟩ | ⟨rfl, rfl⟩ <;>
  · apply @Scans.operator behind frames _ [] rest _ spelled bracketed.expression (Or.inl rfl) rfl
      ?_ others
    simp [scanToken, scanPunctuation, closingBracket?, startsName]

/-- The last bracket that is open is closed. -/
theorem Scans.closing (isClosing : c = ')' ∨ c = ']') (others : Scans behind frames rest spelled) :
    Scans behind (.bracket c :: frames) (c :: rest) ((.operator, String.ofList [c]) :: spelled) := by
  rcases isClosing with rfl | rfl <;>
  · apply @Scans.operator behind (.bracket _ :: frames) frames [] rest _ spelled rfl (Or.inl rfl)
      rfl ?_ others
    simp [scanToken, scanPunctuation, closingBracket?, startsName]

end

/-! ## Files of one line -/

/-- No lines without code stand above a line of code. -/
theorem takeAbove_of_line {indent : List Char} (layout : indent.all isIndent = true)
    {c : Char} (code : isCode c = true) (fuel : Nat) (rest : List Char) :
    (indent ++ c :: rest).takeWhile isIndent = indent ∧
      (indent ++ c :: rest).dropWhile isIndent = c :: rest ∧
        takeAbove (fuel + 1) (indent ++ c :: rest) = ([], indent ++ c :: rest) := by
  simp only [isCode, Bool.not_eq_true', Bool.or_eq_false_iff] at code
  obtain ⟨⟨⟨⟨⟨noSpace, noTab⟩, noForm⟩, noBreak⟩, noComment⟩, -⟩ := code
  have noIndent : ¬ isIndent c = true := by simp [isIndent, noSpace, noTab, noForm]
  have noHash : c ≠ '#' := by simpa using noComment
  have taken : (indent ++ c :: rest).takeWhile isIndent = indent := by
    rw [List.takeWhile_append_of_pos (List.all_eq_true.1 layout),
      List.takeWhile_cons_of_neg noIndent, List.append_nil]
  have dropped : (indent ++ c :: rest).dropWhile isIndent = c :: rest := by
    rw [List.dropWhile_append_of_pos (List.all_eq_true.1 layout),
      List.dropWhile_cons_of_neg noIndent]
  refine ⟨taken, dropped, ?_⟩
  unfold takeAbove
  simp only [dropped, noHash, noBreak, decide_false, Bool.or_false, Bool.false_eq_true, if_false]

/-- **A text that is scanned to its end is a file of one line**, unless it begins with layout. -/
theorem Scans.lineTree {c : Char} {rest : List Char} {spelled : List (TokenKind × String)}
    (code : isCode c = true) (scans : Scans [] [] (c :: rest) spelled) :
    ∃ tree tokens ending, LineTree.ofText (c :: rest) = some tree ∧
      tree.lines = [.mk [] tokens ending [] [] []] ∧ tokens.map Token.spelling = spelled := by
  obtain ⟨line, scanned, ⟨final, -⟩, spellings⟩ := scans ⟨usualBreak (c :: rest), []⟩
    (advanceLines .origin []) ((c :: rest).length + 1) (Nat.lt_succ_self _)
  obtain ⟨taken, dropped, above⟩ := @takeAbove_of_line [] rfl c code (c :: rest).length rest
  rw [List.nil_append] at taken dropped above
  have flat : scanLines (usualBreak (c :: rest)) ((c :: rest).length + 1) [] .origin (c :: rest) =
      some ([⟨[], 0, [], line.tokens, line.ending⟩], []) := by
    have levels : adjustLevels [] [] = some [] := rfl
    have behind : scanLines (usualBreak (c :: rest)) (c :: rest).length [] line.position [] =
        some ([], []) := rfl
    unfold scanLines
    simp only [above, taken, dropped, levels, List.isEmpty_cons, Bool.false_eq_true, if_false,
      Option.bind_eq_bind, Option.bind_some, List.head?_nil, Option.map_none, Option.getD_none,
      List.append_nil, List.length_nil]
    rw [scanned]
    simp only [Option.bind_some, final, behind]
  refine ⟨⟨usualBreak (c :: rest), "    ".toList, [.mk [] line.tokens line.ending [] [] []], []⟩,
    line.tokens, line.ending, ?_, rfl, spellings⟩
  unfold LineTree.ofText
  dsimp only
  rw [flat]
  rfl

end ModuleGlue.Source
