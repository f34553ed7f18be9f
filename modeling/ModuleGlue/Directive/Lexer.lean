import ModuleGlue.Directive.Token

/-!
Contract: annotation arguments as tokens.

Owns: the longest lexeme of each kind at the head of a text, the layout between tokens, and the
spans. The lexer accepts every text: what fits no kind is one token of kind `other` per character.

Lexemes are tried in a fixed order, strings first, so that a letter before a quote belongs to the
literal and not to a word. Layout is blanks, comments to the end of their line, and backslashes
that continue a line.

Main statements: `lexeme_append` (a lexeme and its rest are the text), `lexeme_length_lt` (a lexeme
is never empty), `splitLayout_append` (layout and rest are the text).
-/

namespace ModuleGlue.Directive

open ModuleGlue.Text

/-! ## Layout -/

/-- The layout at the head of a text, and the rest. Inside a comment everything up to the end of
the line is layout. -/
def splitLayoutWithin : (inComment : Bool) → List Char → List Char × List Char
  | _, [] => ([], [])
  | true, c :: rest => consLayout c (splitLayoutWithin (c != '\n') rest)
  | false, '\\' :: '\n' :: rest => consLayout '\\' (consLayout '\n' (splitLayoutWithin false rest))
  | false, c :: rest =>
    if isBlank c then consLayout c (splitLayoutWithin false rest)
    else if c = '#' then consLayout c (splitLayoutWithin true rest)
    else ([], c :: rest)
where
  /-- One more character of layout. -/
  consLayout (c : Char) (found : List Char × List Char) : List Char × List Char :=
    (c :: found.1, found.2)

def splitLayout (text : List Char) : List Char × List Char := splitLayoutWithin false text

/-! ## Lexemes -/

def isStringPrefix (c : Char) : Bool :=
  c == 'r' || c == 'R' || c == 'b' || c == 'B' || c == 'u' || c == 'U' || c == 'f' || c == 'F'

/-- The body of a string between triple quotes, up to the first closing delimiter. -/
def tripleBody (quote : Char) : List Char → Option (List Char × List Char)
  | [] => none
  | a :: rest =>
    if [quote, quote, quote].isPrefixOf (a :: rest) then
      some ([quote, quote, quote], (a :: rest).drop 3)
    else (tripleBody quote rest).map fun (body, after) => (a :: body, after)

/-- The body of a string between single delimiters. It stays on its line, and a backslash takes
the character after it along. -/
def singleBody (quote : Char) : List Char → Option (List Char × List Char)
  | [] => none
  | '\\' :: [] => none
  | '\\' :: c :: rest =>
    if c = '\n' then none
    else (singleBody quote rest).map fun (body, after) => ('\\' :: c :: body, after)
  | c :: rest =>
    if c = quote then some ([c], rest)
    else if c = '\n' then none
    else (singleBody quote rest).map fun (body, after) => (c :: body, after)

/-- A string at the head of a text that starts with its opening quote. Triple quotes that are
never closed open an empty string instead. -/
def quotedLexeme : List Char → Option (List Char × List Char)
  | [] => none
  | quote :: rest =>
    if quote = '"' ∨ quote = '\'' then
      match tripled quote rest with
      | some found => some found
      | none => (singleBody quote rest).map fun (body, after) => (quote :: body, after)
    else none
where
  tripled (quote : Char) (rest : List Char) : Option (List Char × List Char) :=
    if [quote, quote].isPrefixOf rest then
      (tripleBody quote (rest.drop 2)).map fun (body, after) =>
        (quote :: quote :: quote :: body, after)
    else none

/-- A string at the head of a text, with at most two letters before its quote. -/
def stringLexeme : List Char → Option (List Char × List Char)
  | first :: second :: rest =>
    if isStringPrefix first then
      if isStringPrefix second then
        (quotedLexeme rest).map fun (body, after) => (first :: second :: body, after)
      else (quotedLexeme (second :: rest)).map fun (body, after) => (first :: body, after)
    else quotedLexeme (first :: second :: rest)
  | _ => none

/-- The first lexeme of a text that starts with no layout: its kind, its characters, and the
rest. -/
def lexeme (first : Char) (rest : List Char) : Kind × List Char × List Char :=
  match stringLexeme (first :: rest) with
  | some (text, after) => (.string, text, after)
  | none =>
    if isDecimal first then
      (.number, first :: rest.takeWhile numberPart, rest.dropWhile numberPart)
    else if isWord first then (.ident, first :: rest.takeWhile isWord, rest.dropWhile isWord)
    else if first = '.' then (.dot, [first], rest)
    else if first = ',' then (.comma, [first], rest)
    else if first = '=' then (.equals, [first], rest)
    else (.other, [first], rest)
where
  numberPart (c : Char) : Bool := isWord c || c == '.'

/-! ## Nothing is lost, and every step advances -/

theorem splitLayoutWithin_append (inComment : Bool) (text : List Char) :
    (splitLayoutWithin inComment text).1 ++ (splitLayoutWithin inComment text).2 = text := by
  fun_induction splitLayoutWithin inComment text <;>
    simp_all [splitLayoutWithin.consLayout]

theorem splitLayout_append (text : List Char) :
    (splitLayout text).1 ++ (splitLayout text).2 = text :=
  splitLayoutWithin_append false text

theorem splitLayout_length_le (text : List Char) :
    (splitLayout text).2.length ≤ text.length := by
  have whole := congrArg List.length (splitLayout_append text)
  simp only [List.length_append] at whole
  omega

theorem tripleBody_append {quote : Char} {text body after : List Char}
    (found : tripleBody quote text = some (body, after)) : body ++ after = text := by
  induction text generalizing body after with
  | nil => simp [tripleBody] at found
  | cons a rest inductionHypothesis =>
    unfold tripleBody at found
    split at found
    · rename_i closing
      obtain ⟨rfl, rfl⟩ := Prod.mk.inj (Option.some.inj found)
      obtain ⟨tail, whole⟩ := List.isPrefixOf_iff_prefix.1 closing
      rw [← whole]
      rfl
    · obtain ⟨⟨inner, rest'⟩, step, same⟩ := Option.map_eq_some_iff.1 found
      obtain ⟨rfl, rfl⟩ := Prod.mk.inj same
      simp [inductionHypothesis step]

theorem singleBody_append {quote : Char} {text body after : List Char}
    (found : singleBody quote text = some (body, after)) : body ++ after = text := by
  fun_induction singleBody quote text generalizing body after with
  | case1 => simp at found
  | case2 => simp at found
  | case3 => simp at found
  | case4 c rest _ inductionHypothesis =>
    obtain ⟨⟨inner, rest'⟩, step, same⟩ := Option.map_eq_some_iff.1 found
    obtain ⟨rfl, rfl⟩ := Prod.mk.inj same
    simp [inductionHypothesis step]
  | case5 =>
    obtain ⟨rfl, rfl⟩ := Prod.mk.inj (Option.some.inj found)
    rfl
  | case6 => simp at found
  | case7 c rest _ _ _ _ inductionHypothesis =>
    obtain ⟨⟨inner, rest'⟩, step, same⟩ := Option.map_eq_some_iff.1 found
    obtain ⟨rfl, rfl⟩ := Prod.mk.inj same
    simp [inductionHypothesis step]

theorem quotedLexeme_append {text body after : List Char}
    (found : quotedLexeme text = some (body, after)) : body ++ after = text := by
  unfold quotedLexeme at found
  split at found
  · simp at found
  · rename_i quote rest
    split at found
    · split at found
      · rename_i pair triple
        obtain ⟨rfl⟩ := Option.some.inj found
        unfold quotedLexeme.tripled at triple
        split at triple
        · rename_i opening
          obtain ⟨⟨inner, rest'⟩, step, same⟩ := Option.map_eq_some_iff.1 triple
          obtain ⟨rfl, rfl⟩ := Prod.mk.inj same
          obtain ⟨tail, whole⟩ := List.isPrefixOf_iff_prefix.1 opening
          subst whole
          have inside := tripleBody_append step
          simp at inside
          simp [inside]
        · simp at triple
      · obtain ⟨⟨inner, rest'⟩, step, same⟩ := Option.map_eq_some_iff.1 found
        obtain ⟨rfl, rfl⟩ := Prod.mk.inj same
        simp [singleBody_append step]
    · simp at found

theorem quotedLexeme_ne_nil {text body after : List Char}
    (found : quotedLexeme text = some (body, after)) : body ≠ [] := by
  unfold quotedLexeme at found
  split at found
  · simp at found
  · rename_i quote rest
    split at found
    · split at found
      · rename_i pair triple
        obtain ⟨rfl⟩ := Option.some.inj found
        unfold quotedLexeme.tripled at triple
        split at triple
        · obtain ⟨⟨inner, rest'⟩, step, same⟩ := Option.map_eq_some_iff.1 triple
          obtain ⟨rfl, rfl⟩ := Prod.mk.inj same
          simp
        · simp at triple
      · obtain ⟨⟨inner, rest'⟩, step, same⟩ := Option.map_eq_some_iff.1 found
        obtain ⟨rfl, rfl⟩ := Prod.mk.inj same
        simp
    · simp at found

theorem stringLexeme_append {text body after : List Char}
    (found : stringLexeme text = some (body, after)) : body ++ after = text := by
  unfold stringLexeme at found
  split at found
  · split at found
    · split at found
      all_goals
        obtain ⟨⟨inner, rest'⟩, step, same⟩ := Option.map_eq_some_iff.1 found
        obtain ⟨rfl, rfl⟩ := Prod.mk.inj same
        simp [quotedLexeme_append step]
    · exact quotedLexeme_append found
  · simp at found

theorem stringLexeme_ne_nil {text body after : List Char}
    (found : stringLexeme text = some (body, after)) : body ≠ [] := by
  unfold stringLexeme at found
  split at found
  · split at found
    · split at found
      all_goals
        obtain ⟨⟨inner, rest'⟩, step, same⟩ := Option.map_eq_some_iff.1 found
        obtain ⟨rfl, rfl⟩ := Prod.mk.inj same
        simp
    · exact quotedLexeme_ne_nil found
  · simp at found

/-- A lexeme and what follows it are the text it was read from. -/
theorem lexeme_append (first : Char) (rest : List Char) :
    (lexeme first rest).2.1 ++ (lexeme first rest).2.2 = first :: rest := by
  unfold lexeme
  split
  · rename_i text after found
    exact stringLexeme_append found
  · repeat' split
    all_goals simp [List.takeWhile_append_dropWhile]

theorem lexeme_ne_nil (first : Char) (rest : List Char) : (lexeme first rest).2.1 ≠ [] := by
  unfold lexeme
  split
  · rename_i text after found
    exact stringLexeme_ne_nil found
  · repeat' split
    all_goals simp

/-- A lexeme is not empty, so what follows it is shorter than the text. -/
theorem lexeme_length_lt (first : Char) (rest : List Char) :
    (lexeme first rest).2.2.length < rest.length + 1 := by
  have whole := congrArg List.length (lexeme_append first rest)
  have positive := List.length_pos_iff.2 (lexeme_ne_nil first rest)
  simp only [List.length_append, List.length_cons] at whole
  omega

/-! ## Tokens -/

/-- The tokens of a text that begins at a position. Spans are measured in the text itself. -/
def tokensFrom (position : Position) (text : List Char) : List Token :=
  match _division : splitLayout text with
  | (_, []) => []
  | (layout, first :: rest) =>
    let start := position.advance layout
    let found := lexeme first rest
    let stop := start.advance found.2.1
    ⟨found.1, String.ofList found.2.1, ⟨start, stop⟩⟩ :: tokensFrom stop found.2.2
termination_by text.length
decreasing_by
  have shorter := splitLayout_length_le text
  rw [_division] at shorter
  have advances := lexeme_length_lt first rest
  simp only [List.length_cons] at shorter
  omega

/-- The tokens of an argument list. With an origin the spans are places in the file in which the
list begins there. -/
def tokenize (text : String) (origin : Option Span) : List Token :=
  (tokensFrom .origin text.toList).map fun token => { token with span := token.span.rebase origin }

end ModuleGlue.Directive
