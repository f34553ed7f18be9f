import ModuleGlue.Proofs.Directive.LiteralTokens
import ModuleGlue.Proofs.Directive.Strays

/-!
Contract: the ways in which a name can be written.

A name between quotes can be any identifier. A name that stands bare, and likewise the segment of a
path, is found by the lexer, which knows words and not identifiers: characters that may occur in an
identifier, and are neither letters nor numeric, end a word. So a bare name is read if it is a word
throughout, and is refused otherwise, whatever its quoted spelling would give.

Main statement: `name_spellings`.

Owns: the tokens of an identifier, bare and between quotes.

Does not own: option lists and paths of more than one part.
-/

namespace ModuleGlue.Directive

open ModuleGlue.Text

/-! ## Characters of identifiers -/

/-- Do two sets of code points have no point in common? -/
def disjointRanges (first second : Ranges) : Bool :=
  first.all fun a => second.all fun b => Nat.blt a.2 b.1 || Nat.blt b.2 a.1

theorem not_contains_of_disjointRanges {first second : Ranges}
    (disjoint : disjointRanges first second = true) {point : Nat}
    (inFirst : first.contains point = true) : second.contains point = false := by
  obtain ⟨a, memberA, lowA, highA⟩ := Ranges.contains_iff.1 inFirst
  rw [Bool.eq_false_iff]
  intro inSecond
  obtain ⟨b, memberB, lowB, highB⟩ := Ranges.contains_iff.1 inSecond
  have apart := List.all_eq_true.1 (List.all_eq_true.1 disjoint a memberA) b memberB
  simp only [Bool.or_eq_true, Nat.blt_eq] at apart
  omega

/-- What holds of all characters below U+0080 can be found out one by one. -/
theorem forall_ascii (property : Char → Prop)
    (each : ∀ point < 128, property (Char.ofNat point)) {c : Char} (ascii : c.toNat < 128) :
    property c := by
  rw [← Char.ofNat_toNat c]
  exact each c.toNat ascii

/-- An identifier does not begin with a digit. -/
theorem isDecimal_of_isIdentifierStart {c : Char} (start : isIdentifierStart c = true) :
    isDecimal c = false := by
  have disjoint : disjointRanges identifierStartTable decimalTable = true := by decide +kernel
  by_cases ascii : c.toNat < 128
  · exact forall_ascii (fun c => isIdentifierStart c = true → isDecimal c = false)
      (by decide +kernel) ascii start
  · unfold isIdentifierStart at start
    unfold isDecimal
    rw [if_neg ascii] at start ⊢
    exact not_contains_of_disjointRanges disjoint start

/-- A character that can occur in an identifier. -/
def IsNameChar (c : Char) : Prop := isIdentifierStart c = true ∨ isIdentifierContinue c = true

instance (c : Char) : Decidable (IsNameChar c) := inferInstanceAs (Decidable (_ ∨ _))

section
variable {c : Char}

theorem IsNameChar.notBlank (named : IsNameChar c) : isBlank c = false := by
  rw [Bool.eq_false_iff]
  exact fun white => forall_isBlank (fun c => ¬ IsNameChar c) (by decide +kernel) white named

/-- Below U+0080 the characters of identifiers are those of words. -/
theorem IsNameChar.isWord_of_ascii (named : IsNameChar c) (ascii : c.toNat < 128) :
    isWord c = true :=
  forall_ascii (fun c => IsNameChar c → isWord c = true) (by decide +kernel) ascii named

/-- A character of identifiers is none of the characters with a meaning of their own. -/
theorem IsNameChar.ne_of_ascii (named : IsNameChar c) {special : Char}
    (ascii : special.toNat < 128) (noWord : isWord special = false) : c ≠ special := by
  rintro rfl
  rw [named.isWord_of_ascii ascii] at noWord
  cases noWord

theorem IsNameChar.notBeginsLayout (named : IsNameChar c) : ¬ BeginsLayout c := by
  rintro (white | rfl | rfl)
  · rw [named.notBlank] at white
    cases white
  · exact named.ne_of_ascii (by decide) (by decide) rfl
  · exact named.ne_of_ascii (by decide) (by decide) rfl

theorem IsNameChar.notQuote (named : IsNameChar c) : isQuote c = false := by
  rw [Bool.eq_false_iff, Ne, isQuote_iff]
  rintro (rfl | rfl)
  · exact named.ne_of_ascii (by decide) (by decide) rfl
  · exact named.ne_of_ascii (by decide) (by decide) rfl

end

/-- An identifier is one character that begins identifiers, and characters that go on with them. -/
theorem exists_cons_of_isIdentifier {text : String} (identifier : isIdentifier text = true) :
    ∃ first rest, text.toList = first :: rest ∧ isIdentifierStart first = true ∧
      ∀ c ∈ first :: rest, IsNameChar c := by
  unfold isIdentifier at identifier
  rw [Bool.and_eq_true] at identifier
  have spelled := identifier.1
  cases whole : text.toList with
  | nil =>
      rw [whole] at spelled
      cases spelled
  | cons first rest =>
      rw [whole, spellsIdentifier, Bool.and_eq_true, List.all_eq_true] at spelled
      refine ⟨first, rest, rfl, spelled.1, ?_⟩
      intro c member
      rcases List.mem_cons.1 member with rfl | later
      · exact Or.inl spelled.1
      · exact Or.inr (spelled.2 c later)

/-! ## Tokens of identifiers -/

section
variable {text : String}

/-- The spelling of an identifier is no string. -/
theorem stringLexeme_of_nameChars {characters : List Char}
    (named : ∀ c ∈ characters, IsNameChar c) : stringLexeme characters = none := by
  have noQuote : ∀ c ∈ characters, isQuote c = false := fun c member => (named c member).notQuote
  have alone := stringLexeme_of_noQuote noQuote (Gap.none.parted.endsBefore .ident)
  rwa [List.append_nil] at alone

/-- An identifier that is a word is one token. -/
theorem tokensFrom_bareName (identifier : isIdentifier text = true)
    (word : ∀ c ∈ text.toList, isWord c = true) (position : Position) :
    tokensFrom position text.toList =
      [⟨.ident, text, ⟨position, position.advance text.toList⟩⟩] := by
  obtain ⟨first, rest, whole, start, named⟩ := exists_cons_of_isIdentifier identifier
  have spelled : String.ofList (first :: rest) = text := by rw [← whole, String.ofList_toList]
  rw [whole] at word ⊢
  have code := (named first (List.mem_cons_self ..)).notBeginsLayout
  have words : ∀ c ∈ rest, isWord c = true := fun c member =>
    word c (List.mem_cons_of_mem _ member)
  have read : lexeme first rest = (.ident, first :: rest, []) := by
    rw [lexeme_of_noString (stringLexeme_of_nameChars named),
      isDecimal_of_isIdentifierStart start, if_neg Bool.false_ne_true,
      if_pos (word first (List.mem_cons_self ..)), List.takeWhile_eq_self_iff.2 words,
      List.dropWhile_eq_nil_iff.2 words]
  rw [tokensFrom_of_code (splitLayout_of_code code rest), read]
  dsimp only [Position.advance_nil]
  rw [tokensFrom_nil, spelled]

/-- A character of identifiers that is no part of words begins a stray token. -/
theorem exists_stray_of_head {c : Char} (named : IsNameChar c) (noWord : isWord c = false)
    (rest : List Char) (position : Position) :
    ∃ token ∈ tokensFrom position (c :: rest), token.IsStray := by
  have noLetter : isStringPrefix c = false := by
    rw [Bool.eq_false_iff]
    intro letter
    rw [isWord_of_isStringPrefix letter] at noWord
    cases noWord
  have noString : stringLexeme (c :: rest) = none := stringLexeme_of_first noLetter named.notQuote
  have read := lexeme_of_noString noString
  rw [noWord, if_neg Bool.false_ne_true, if_neg (named.ne_of_ascii (by decide) (by decide)),
    if_neg (named.ne_of_ascii (by decide) (by decide)),
    if_neg (named.ne_of_ascii (by decide) (by decide))] at read
  rw [tokensFrom_of_code (splitLayout_of_code named.notBeginsLayout rest)]
  refine ⟨_, List.mem_cons_self .., ?_⟩
  unfold Token.IsStray
  dsimp only
  rw [read]
  cases isDecimal c with
  | true => exact Or.inl rfl
  | false => exact Or.inr rfl

/-- An identifier that is no word has a stray among its tokens: the word that it begins with, if
any, is cut off at the first character that does not belong to words. -/
theorem exists_stray_of_noWord (identifier : isIdentifier text = true)
    (noWord : ¬ ∀ c ∈ text.toList, isWord c = true) (position : Position) :
    ∃ token ∈ tokensFrom position text.toList, token.IsStray := by
  obtain ⟨first, rest, whole, start, named⟩ := exists_cons_of_isIdentifier identifier
  rw [whole] at noWord ⊢
  have here := named first (List.mem_cons_self ..)
  by_cases begins : isWord first = true
  · have read := lexeme_of_noString (stringLexeme_of_nameChars named)
    rw [isDecimal_of_isIdentifierStart start, if_neg Bool.false_ne_true, if_pos begins] at read
    rw [tokensFrom_of_code (splitLayout_of_code here.notBeginsLayout rest), read]
    cases cut : rest.dropWhile isWord with
    | nil =>
        have words := List.dropWhile_eq_nil_iff.1 cut
        refine absurd (fun c member => ?_) noWord
        rcases List.mem_cons.1 member with rfl | later
        · exact begins
        · exact words c later
    | cons c behind =>
        have member : c ∈ rest := by
          refine (List.dropWhile_suffix isWord).subset ?_
          rw [cut]
          exact List.mem_cons_self ..
        have stops : isWord c = false := by
          have head := List.head_dropWhile_not isWord (l := rest) (by simp [cut])
          simpa [cut] using head
        obtain ⟨token, found, stray⟩ := exists_stray_of_head
          (named c (List.mem_cons_of_mem _ member)) stops behind _
        exact ⟨token, List.mem_cons_of_mem _ found, stray⟩
  · exact exists_stray_of_head here (Bool.eq_false_iff.2 begins) rest position

def quotedName (text : String) : Literal where
  letters := []
  opening := ⟨'"', false, false⟩
  body := text.toList

/-- It is a literal of the language, denotes the identifier, and is read to its end. -/
theorem quotedName_literal (named : ∀ c ∈ text.toList, IsNameChar c) :
    (quotedName text).Valid ∧ (quotedName text).Denotes (.ofString text) ∧
      (quotedName text).Unbroken := by
  have absent (special : Char) (ascii : special.toNat < 128) (noWord : isWord special = false) :
      ∀ c ∈ text.toList, c ≠ special := fun c member => (named c member).ne_of_ascii ascii noWord
  have unified : unifyLineEnds (quotedName text).body = text.toList := by
    have noReturn : '\r' ∉ text.toList := fun member =>
      absent '\r' (by decide) (by decide) _ member rfl
    exact unifyLineEnds_of_noReturn noReturn
  refine ⟨⟨Or.inl rfl, by simp [quotedName], ?_, ?_⟩, ?_, ?_⟩
  · exact fun member => absent '\x00' (by decide) (by decide) _ member rfl
  · rw [unified]
    refine body_of_plain rfl fun c member => ⟨?_, ?_, ?_⟩
    · exact absent '\\' (by decide) (by decide) c member
    · exact absent '"' (by decide) (by decide) c member
    · exact absent '\n' (by decide) (by decide) c member
  · unfold Literal.Denotes
    rw [unified, if_neg (by simp [quotedName])]
    exact unescaped_of_plain (absent '\\' (by decide) (by decide))
  · unfold Literal.Unbroken
    rw [if_neg (by simp [quotedName])]
    exact fun member => absent '\n' (by decide) (by decide) _ member rfl

/-- Between quotes an identifier is one string token, which denotes it. -/
theorem tokensFrom_quotedName (identifier : isIdentifier text = true) (position : Position) :
    ∃ token, tokensFrom position (quotedName text).text = [token] ∧ token.Names text := by
  obtain ⟨first, rest, whole, -, named⟩ := exists_cons_of_isIdentifier identifier
  rw [← whole] at named
  obtain ⟨valid, denoted, unbroken⟩ := quotedName_literal named
  obtain ⟨token, tokens, isString, spelled⟩ := tokensFrom_literal valid unbroken position
  refine ⟨token, tokens, identifier, Or.inr ⟨isString, ?_⟩⟩
  rw [spelled]
  exact Literal.literalValue?_literal valid denoted

end

/-! ## Names in option lists and paths -/

section
variable {text : String}

/-- What stands in front of the value of the option. -/
def nameKey : String := "name = "

/-- A key and the sign behind it are tokens of their own, whatever follows. -/
theorem tokensFrom_signed {word : String} (separable : Lexeme.Separable ⟨.ident, word⟩)
    (position : Position) (rest : List Char) :
    ∃ key sign behind, tokensFrom position (word.toList ++ ([' ', '=', ' '] ++ rest)) =
        key :: sign :: tokensFrom behind rest ∧ key.IsWord word ∧ sign.kind = .equals := by
  have spelled : [' ', '=', ' '] ++ rest = [' '] ++ ("=".toList ++ ([' '] ++ rest)) := rfl
  have sign : Lexeme.Separable ⟨.equals, "="⟩ :=
    ⟨by decide +kernel, fun other => Kind.noConfusion other⟩
  have space : Gap [' '] := .blank (by decide) .none
  have parted (more : List Char) : Parted ([' '] ++ more) := by
    intro c first
    exact Or.inl (Option.some.inj first ▸ by decide)
  rw [spelled, tokensFrom_lexeme separable ((parted _).endsBefore _), tokensFrom_gap space,
    tokensFrom_lexeme sign ((parted _).endsBefore _), tokensFrom_gap space]
  exact ⟨_, _, _, rfl, ⟨rfl, rfl⟩, rfl⟩

theorem tokensFrom_nameKey (position : Position) (rest : List Char) :
    ∃ key sign behind, tokensFrom position (nameKey.toList ++ rest) =
        key :: sign :: tokensFrom behind rest ∧ key.IsWord "name" ∧ sign.kind = .equals := by
  have spelled : nameKey.toList = "name".toList ++ [' ', '=', ' '] := by decide +kernel
  rw [spelled, List.append_assoc]
  exact tokensFrom_signed ⟨by decide +kernel, fun other => Kind.noConfusion other⟩ position rest

theorem Options.parse_name {key sign value : Token} (word : key.IsWord "name")
    (equals : sign.kind = .equals) (named : value.Names text) (origin : Option Span) :
    ∃ options, Options.parse (.ofTokens [key, sign, value] origin) = .ok options ∧
      options.externalName = some text := by
  have written : WritesOptions [.name ⟨text, value.span⟩] [key, sign, value] :=
    Or.inr (.last (.mk word (.name equals named)))
  exact ⟨_, Options.parse_eq_ok_iff.2 ⟨_, written, by simp, rfl⟩, rfl⟩

theorem ExportDescriptor.parse_segment {segment : Token} {origin : Option Span}
    (tokens : tokenize text origin = [segment]) (named : segment.IsSegment) :
    ∃ descriptor, ExportDescriptor.parse text origin = .ok descriptor ∧
      descriptor.path.segments = [segment.text] := by
  have written : Sentence.IsWrittenAs ⟨segment, [], none, []⟩
      (Cursor.ofSource text origin).remaining := by
    change Sentence.IsWrittenAs _ (tokenize text origin)
    rw [tokens]
    exact ⟨[segment], [], rfl, .last named, .nothing, List.nodup_nil⟩
  obtain ⟨final, read⟩ := ExportArguments.read_complete written
  unfold ExportDescriptor.parse
  rw [ExportArguments.parse_eq_ok_iff.2 ⟨final, read⟩]
  exact ⟨_, rfl, rfl⟩

/-- An option list in which a value follows the key is read by that value. -/
theorem Options.parse_nameKey {written : String} {origin : Option Span}
    (value : ∀ position, ∃ token, tokensFrom position written.toList = [token] ∧
      token.Names text) :
    ∃ options, Options.parse (.ofSource (nameKey ++ written) origin) = .ok options ∧
      options.externalName = some text := by
  obtain ⟨key, sign, behind, tokens, word, equals⟩ := tokensFrom_nameKey .origin written.toList
  obtain ⟨token, single, named⟩ := value behind
  rw [single] at tokens
  unfold Cursor.ofSource tokenize
  rw [String.toList_append, tokens]
  -- Moving tokens to their places in the file leaves them the words that they are.
  let placed (token : Token) : Token := { token with span := token.span.rebase origin }
  have word : (placed key).IsWord "name" := word
  have equals : (placed sign).kind = .equals := equals
  have named : (placed token).Names text := named
  exact Options.parse_name word equals named origin

/-- **The spellings of a name agree where the name is a word.** Between quotes every identifier is
read as a name. Bare, and as a path of one segment, it is read as such if all its characters are
those of words, and is refused otherwise. -/
theorem name_spellings (identifier : isIdentifier text = true) (origin : Option Span) :
    (∃ options, Options.parse (.ofSource (nameKey ++ ("\"" ++ text ++ "\"")) origin) = .ok options ∧
        options.externalName = some text) ∧
      ((∀ c ∈ text.toList, isWord c = true) →
        (∃ options, Options.parse (.ofSource (nameKey ++ text) origin) = .ok options ∧
          options.externalName = some text) ∧
        ∃ descriptor, ExportDescriptor.parse text origin = .ok descriptor ∧
          descriptor.path.segments = [text]) ∧
      ((¬ ∀ c ∈ text.toList, isWord c = true) →
        (∃ reason, Options.parse (.ofSource (nameKey ++ text) origin) = .error reason) ∧
        ∃ reason, ExportDescriptor.parse text origin = .error reason) := by
  refine ⟨?_, fun word => ?_, fun noWord => ?_⟩
  · refine Options.parse_nameKey fun position => ?_
    have spelled : ("\"" ++ text ++ "\"").toList = (quotedName text).text := by
      rw [String.toList_append, String.toList_append]
      rfl
    rw [spelled]
    exact tokensFrom_quotedName identifier position
  · have single := tokensFrom_bareName identifier word
    constructor
    · exact Options.parse_nameKey fun position =>
        ⟨_, single position, identifier, Or.inl ⟨rfl, rfl⟩⟩
    · have tokens : tokenize text origin = [⟨.ident, text,
          (⟨.origin, Position.origin.advance text.toList⟩ : Span).rebase origin⟩] := by
        rw [tokenize, single]
        rfl
      exact ExportDescriptor.parse_segment tokens ⟨rfl, identifier⟩
  · have stray := exists_stray_of_noWord identifier noWord
    constructor
    · obtain ⟨key, sign, behind, tokens, -, -⟩ := tokensFrom_nameKey .origin text.toList
      obtain ⟨token, member, isStray⟩ := stray behind
      have inList : { token with span := token.span.rebase origin } ∈
          tokenize (nameKey ++ text) origin := by
        rw [tokenize, String.toList_append, tokens]
        exact List.mem_map_of_mem (List.mem_cons_of_mem _ (List.mem_cons_of_mem _ member))
      exact Options.parse_of_stray inList isStray
    · obtain ⟨token, member, isStray⟩ := stray .origin
      exact ExportDescriptor.parse_of_stray (List.mem_map_of_mem member) isStray

def composed : String := "\u00e9"

/-- The same letter and its accent, as two characters. -/
def decomposed : String := "e\u0301"

theorem name_spellings_composed :
    isIdentifier composed = true ∧ (∀ c ∈ composed.toList, isWord c = true) ∧
      (∃ options, Options.parse (.ofSource (nameKey ++ ("\"" ++ composed ++ "\"")) none) =
          .ok options ∧ options.externalName = some composed) ∧
      (∃ options, Options.parse (.ofSource (nameKey ++ composed) none) = .ok options ∧
        options.externalName = some composed) ∧
      ∃ descriptor, ExportDescriptor.parse composed none = .ok descriptor ∧
        descriptor.path.segments = [composed] := by
  have identifier : isIdentifier composed = true := by decide +kernel
  have all : composed.toList.all isWord = true := by decide +kernel
  have word := List.all_eq_true.1 all
  obtain ⟨quoted, spelled, -⟩ := name_spellings identifier none
  exact ⟨identifier, word, quoted, spelled word⟩

/-- The name with two characters is an identifier, and is read between quotes. Bare, it is cut off
before the accent, which is no part of words. -/
theorem decomposed_refused :
    isIdentifier decomposed = true ∧
      (∃ options, Options.parse (.ofSource (nameKey ++ ("\"" ++ decomposed ++ "\"")) none) =
          .ok options ∧ options.externalName = some decomposed) ∧
      Options.parse (.ofSource (nameKey ++ decomposed) none) =
        .error (.grammar (.expected "`,`" (some "\u0301")) (some ⟨⟨1, 8⟩, ⟨1, 9⟩⟩)) ∧
      ∃ reason, ExportDescriptor.parse decomposed none = .error reason := by
  refine ⟨by decide +kernel, ?_, by decide +kernel, ?_⟩
  · have evaluated : succeedsWith
        (Options.parse (.ofSource (nameKey ++ ("\"" ++ decomposed ++ "\"")) none))
        (fun options => options.externalName == some decomposed) = true := by decide +kernel
    obtain ⟨options, found, named⟩ := exists_of_succeedsWith evaluated
    exact ⟨options, found, beq_iff_eq.1 named⟩
  · have evaluated : failsWith (ExportDescriptor.parse decomposed none) (fun _ => true) = true := by
      decide +kernel
    obtain ⟨reason, failed, -⟩ := exists_of_failsWith evaluated
    exact ⟨reason, failed⟩

end

end ModuleGlue.Directive
