import ModuleGlue.Proofs.Directive.NameSpellings

/-!
Contract: texts that are put together of a path, separators, and other texts.

The lexer reads a text piece by piece: the tokens of a path, of a separator, of a lexeme are the
same whatever follows, and what follows is read as it is read alone, only at another place.

Main statements: `tokensFrom_path` (a path in front of a text is read as its segments),
`tokensFrom_separator` and `map_toLexeme_tokensFrom` (places make no difference to lexemes).

Owns: the texts of paths.

Does not own: what is written behind a path.
-/

namespace ModuleGlue.Directive

open ModuleGlue.Text

/-! ## Places -/

/-- Where a text begins makes no difference to its lexemes. -/
theorem map_toLexeme_tokensFrom (position position' : Position) (text : List Char) :
    (tokensFrom position text).map Token.toLexeme =
      (tokensFrom position' text).map Token.toLexeme := by
  induction measured : text.length using Nat.strongRecOn generalizing position position' text with
  | ind size inductionHypothesis =>
      have whole := splitLayout_append text
      cases division : splitLayout text with
      | mk layout code =>
          rw [division] at whole
          cases code with
          | nil => rw [tokensFrom_of_end division, tokensFrom_of_end division]
          | cons first rest =>
              have advances := lexeme_length_lt first rest
              have lengths := congrArg List.length whole
              rw [List.length_append, List.length_cons] at lengths
              rw [tokensFrom_of_code division, tokensFrom_of_code division, List.map_cons,
                List.map_cons, inductionHypothesis _ (by omega) _ _ _ rfl]
              rfl

/-! ## Marks -/

theorem tokensFrom_dot (position : Position) (rest : List Char) :
    tokensFrom position ('.' :: rest) =
      ⟨.dot, ".", ⟨position, position.advance ['.']⟩⟩ ::
        tokensFrom (position.advance ['.']) rest := by
  have read : lexeme '.' rest = (.dot, ['.'], rest) :=
    lexeme_of_noString (stringLexeme_of_first (by decide) (by decide))
  rw [tokensFrom_of_code (splitLayout_of_code (by unfold BeginsLayout; decide) rest), read]
  rfl

theorem tokensFrom_comma (position : Position) (rest : List Char) :
    tokensFrom position (',' :: rest) =
      ⟨.comma, ",", ⟨position, position.advance [',']⟩⟩ ::
        tokensFrom (position.advance [',']) rest := by
  have read : lexeme ',' rest = (.comma, [','], rest) :=
    lexeme_of_noString (stringLexeme_of_first (by decide) (by decide))
  rw [tokensFrom_of_code (splitLayout_of_code (by unfold BeginsLayout; decide) rest), read]
  rfl

/-- What is written between two parts of arguments. -/
def separator : String := ", "

theorem tokensFrom_separator (position : Position) (rest : List Char) :
    tokensFrom position (separator.toList ++ rest) =
      ⟨.comma, ",", ⟨position, position.advance [',']⟩⟩ ::
        tokensFrom (position.advance separator.toList) rest := by
  have spelled : separator.toList = [','] ++ [' '] := by decide +kernel
  have space : Gap [' '] := .blank (by decide) .none
  have comma := tokensFrom_comma position ([' '] ++ rest)
  rw [tokensFrom_gap space] at comma
  rw [spelled, List.append_assoc, Position.advance_append]
  exact comma

/-! ## Paths -/

/-- Layout may stand between a lexeme and what it ends in front of. -/
theorem Gap.endsBefore {gap after : List Char} (laid : Gap gap) {kind : Kind}
    (ends : kind.EndsBefore after) : kind.EndsBefore (gap ++ after) := by
  cases gap with
  | nil => exact ends
  | cons c rest => exact laid.parted.endsBefore kind

/-- The text is a path: identifiers with dots between them, and layout around each of them. The
identifiers are words, as the lexer does not know others. -/
inductive PathText : List String → List Char → Prop where
  | last {name : String} {before behind : List Char} (identifier : isIdentifier name = true)
      (word : ∀ c ∈ name.toList, isWord c = true) (front : Gap before) (back : Gap behind) :
      PathText [name] (before ++ (name.toList ++ behind))
  | more {name : String} {names : List String} {before behind rest : List Char}
      (identifier : isIdentifier name = true) (word : ∀ c ∈ name.toList, isWord c = true)
      (front : Gap before) (back : Gap behind) (others : PathText names rest) :
      PathText (name :: names) (before ++ (name.toList ++ (behind ++ '.' :: rest)))

/-- An identifier that is a word is one token, in front of whatever it ends at. -/
theorem tokensFrom_name {name : String} {after : List Char} (identifier : isIdentifier name = true)
    (word : ∀ c ∈ name.toList, isWord c = true) (ends : Kind.ident.EndsBefore after)
    (position : Position) :
    tokensFrom position (name.toList ++ after) =
      ⟨.ident, name, ⟨position, position.advance name.toList⟩⟩ ::
        tokensFrom (position.advance name.toList) after := by
  have alone : (tokenize name none).map Token.toLexeme = [⟨.ident, name⟩] := by
    rw [map_toLexeme_tokenize, tokensFrom_bareName identifier word]
    rfl
  have separable : Lexeme.Separable ⟨.ident, name⟩ := ⟨alone, fun other => Kind.noConfusion other⟩
  exact tokensFrom_lexeme separable ends position

/-- **A path in front of a text is read as its segments**, whatever the text is. -/
theorem tokensFrom_path {names : List String} {path : List Char} (written : PathText names path)
    (position : Position) :
    ∃ segments tokens, PathTokens segments tokens ∧ segments.map Token.text = names ∧
      ∀ after, Kind.ident.EndsBefore after → tokensFrom position (path ++ after) =
        tokens ++ tokensFrom (position.advance path) after := by
  induction written generalizing position with
  | @last name before behind identifier word front back =>
      let start := position.advance before
      let segment : Token := ⟨.ident, name, ⟨start, start.advance name.toList⟩⟩
      refine ⟨[segment], [segment], .last ⟨rfl, identifier⟩, rfl, fun after ends => ?_⟩
      simp only [List.append_assoc, Position.advance_append]
      rw [tokensFrom_gap front, tokensFrom_name identifier word (back.endsBefore ends),
        tokensFrom_gap back]
      rfl
  | @more name names before behind rest identifier word front back others inductionHypothesis =>
      let start := position.advance before
      let stop := start.advance name.toList
      let segment : Token := ⟨.ident, name, ⟨start, stop⟩⟩
      let dot : Token := ⟨.dot, ".", ⟨stop.advance behind, (stop.advance behind).advance ['.']⟩⟩
      obtain ⟨segments, tokens, path, rfl, lexed⟩ := inductionHypothesis dot.span.stop
      refine ⟨segment :: segments, segment :: dot :: tokens, .more ⟨rfl, identifier⟩ rfl path, rfl,
        fun after ends => ?_⟩
      have point : Kind.ident.EndsBefore ('.' :: (rest ++ after)) := by
        intro c first
        obtain rfl := Option.some.inj first
        exact ⟨by decide, by decide, by decide⟩
      have reached : position.advance (before ++ (name.toList ++ (behind ++ '.' :: rest))) =
          dot.span.stop.advance rest := by
        rw [show '.' :: rest = ['.'] ++ rest from rfl]
        simp only [Position.advance_append]
        rfl
      rw [reached]
      simp only [List.append_assoc, List.cons_append]
      rw [tokensFrom_gap front, tokensFrom_name identifier word (back.endsBefore point),
        tokensFrom_gap back, tokensFrom_dot, lexed after ends]

end ModuleGlue.Directive
