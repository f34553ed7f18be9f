import ModuleGlue.Proofs.Directive.Acceptance
import ModuleGlue.Proofs.Directive.Chunks
import ModuleGlue.Proofs.Directive.PathTexts

/-!
Contract: the two forms in which an external name is given.

The legacy form has the name as a literal behind the path; the other one has it as an option. They
go different ways: the literal is kept until all options are read, and merged then, while the option
is read like all others. As long as the other options give no name the two forms come to the same.

Main statement: `ExportDescriptor.parse_forms`.

Owns: both forms as texts, and what is read from each of them.

Does not own: option decorators.
-/

namespace ModuleGlue.Directive

open ModuleGlue.Text

/-! ## What is behind a path -/

section
variable {settings : List Setting} {key sign value comma literal : Token} {behind : List Token}

/-- What is behind a name is behind it also at another place. -/
theorem WritesBehind.moved {others : List Token} (written : WritesBehind settings behind)
    (same : others.map Token.toLexeme = behind.map Token.toLexeme) :
    ∃ settings', WritesBehind settings' others ∧
      settings'.map Setting.unplaced = settings.map Setting.unplaced := by
  rcases written with ⟨rfl, rfl⟩ | ⟨comma, rest, rfl, isComma, written⟩
  · exact ⟨[], Or.inl ⟨rfl, List.map_eq_nil_iff.1 same⟩, rfl⟩
  · obtain ⟨mark, more, rfl, sameMark, sameRest⟩ := List.map_eq_cons_iff.1 same
    obtain ⟨settings', written', unplaced⟩ := written.moved sameRest
    have isComma' : mark.kind = .comma := by
      rw [Token.eq_of_toLexeme sameMark]
      exact isComma
    exact ⟨settings', Or.inr ⟨mark, more, rfl, isComma', written'⟩, unplaced⟩

/-- Behind the comma of a path a literal is the legacy name. -/
theorem tailTokens_literal_iff {legacyName : Option Token} (isComma : comma.kind = .comma)
    (quoted : literal.kind = .string) :
    TailTokens legacyName settings (comma :: literal :: behind) ↔
      legacyName = some literal ∧ WritesBehind settings behind := by
  rw [tailTokens_iff]
  constructor
  · rintro (⟨impossible, -⟩ | ⟨mark, rest, shape, -, outcome⟩)
    · cases impossible
    · obtain ⟨rfl, rfl⟩ := List.cons.inj shape
      rcases outcome with ⟨-, ⟨-, impossible⟩ | written⟩ |
        ⟨other, rfl, -, ⟨same, rfl⟩ | ⟨second, others, same, isSecond, written⟩⟩
      · cases impossible
      · obtain ⟨key, rest, same, isKey⟩ := written.exists_cons
        rw [(List.cons.inj same).1, isKey] at quoted
        cases quoted
      · obtain ⟨rfl, rfl⟩ := List.cons.inj same
        exact ⟨rfl, Or.inl ⟨rfl, rfl⟩⟩
      · obtain ⟨rfl, rfl⟩ := List.cons.inj same
        exact ⟨rfl, Or.inr ⟨second, others, rfl, isSecond, written⟩⟩
  · rintro ⟨rfl, ⟨rfl, rfl⟩ | ⟨second, others, rfl, isSecond, written⟩⟩
    · exact Or.inr ⟨comma, _, rfl, isComma, Or.inr ⟨literal, rfl, quoted, Or.inl ⟨rfl, rfl⟩⟩⟩
    · exact Or.inr ⟨comma, _, rfl, isComma,
        Or.inr ⟨literal, rfl, quoted, Or.inr ⟨second, others, rfl, isSecond, written⟩⟩⟩

/-- Behind the comma of a path a key begins the options. -/
theorem tailTokens_key_iff {legacyName : Option Token} (isComma : comma.kind = .comma)
    (isKey : key.kind = .ident) :
    TailTokens legacyName settings (comma :: key :: behind) ↔
      legacyName = none ∧ WritesOptions settings (key :: behind) := by
  rw [tailTokens_iff]
  constructor
  · rintro (⟨impossible, -⟩ | ⟨mark, rest, shape, -, outcome⟩)
    · cases impossible
    · obtain ⟨rfl, rfl⟩ := List.cons.inj shape
      rcases outcome with written | ⟨literal, -, quoted, outcome⟩
      · exact written
      · have same : key = literal := by
          rcases outcome with ⟨same, -⟩ | ⟨second, others, same, -⟩
          · exact (List.cons.inj same).1
          · exact (List.cons.inj same).1
        rw [← same, isKey] at quoted
        cases quoted
  · intro written
    exact Or.inr ⟨comma, _, rfl, isComma, Or.inl written⟩

/-- An option that begins with the key is the name that follows the sign. -/
theorem OptionTokens.of_name {setting : Setting} {tokens others : List Token}
    (option : OptionTokens setting tokens) (word : key.IsWord "name")
    (whole : key :: sign :: value :: behind = tokens ++ others) :
    ∃ text, setting = .name ⟨text, value.span⟩ ∧ value.Names text ∧ behind = others := by
  cases option with
  | mk word' follows =>
      obtain ⟨rfl, behindKey⟩ := List.cons.inj whole
      have same : setting.key = .name := OptionKey.word_injective (word'.2.symm.trans word.2)
      cases follows with
      | name sign named =>
          obtain ⟨rfl, behindSign⟩ := List.cons.inj behindKey
          obtain ⟨rfl, rfl⟩ := List.cons.inj behindSign
          exact ⟨_, rfl, named, rfl⟩
      | textSignature | passModule | alone => cases same

/-- A list that begins with the key gives the name that follows the sign, and more behind it. -/
theorem writesOptions_name_iff (word : key.IsWord "name") (isSign : sign.kind = .equals) :
    WritesOptions settings (key :: sign :: value :: behind) ↔
      ∃ text rest, settings = .name ⟨text, value.span⟩ :: rest ∧ value.Names text ∧
        WritesBehind rest behind := by
  constructor
  · rintro (⟨-, impossible⟩ | written)
    · cases impossible
    · obtain ⟨setting, rest, tokens, others, rfl, whole, option, follows⟩ :=
        optionsTokens_iff.1 written
      obtain ⟨text, rfl, named, rfl⟩ := option.of_name word whole
      exact ⟨text, rest, rfl, named, follows⟩
  · rintro ⟨text, rest, rfl, named, follows⟩
    have option : OptionTokens (.name ⟨text, value.span⟩) [key, sign, value] :=
      .mk word (.name isSign named)
    exact Or.inr (optionsTokens_iff.2 ⟨_, rest, _, behind, rfl, rfl, option, follows⟩)

end

/-! ## Merging -/

def Options.withLegacyName (options : Options) (text : String) (literal : Token) : Options :=
  let record : Deprecation := ⟨.positionalName, literal.span⟩
  { options with deprecations := options.deprecations ++ [record] }.setName ⟨text, literal.span⟩

/-- A literal is merged exactly if it denotes an identifier. -/
theorem merge_eq_ok_iff {path : ModulePath} {options : Options} {literal : Token}
    {descriptor : ExportDescriptor} :
    (⟨path, options, some literal⟩ : ExportArguments).merge = .ok descriptor ↔
      ∃ text, literal.Names text ∧ descriptor = ⟨path, options.withLegacyName text literal⟩ := by
  unfold ExportArguments.merge
  dsimp only
  cases named : Name.ofToken literal with
  | ok name =>
      obtain ⟨text, names, rfl⟩ := Name.ofToken_eq_ok_iff.1 named
      constructor
      · intro merged
        exact ⟨text, names, (Except.ok.inj merged).symm⟩
      · rintro ⟨text', names', rfl⟩
        have same := named.symm.trans (Name.ofToken_eq_ok_iff.2 ⟨text', names', rfl⟩)
        rw [Except.ok.inj same]
        rfl
  | error reason =>
      constructor
      · intro merged
        cases merged
      · rintro ⟨text, names, -⟩
        rw [Name.ofToken_eq_ok_iff.2 ⟨text, names, rfl⟩] at named
        cases named

/-- Merging a name is storing it like an option, apart from the record of the legacy form. -/
theorem Options.withLegacyName_eq (options : Options) (text : String) (literal : Token) :
    options.withLegacyName text literal =
      { options.store (.name ⟨text, literal.span⟩) with
        deprecations := options.deprecations ++ [⟨.positionalName, literal.span⟩] } := by
  unfold Options.withLegacyName Options.setName Options.store Options.mark
  by_cases counted : options.specified.contains .name = true
  · simp only [Setting.key, counted, if_true, Options.apply]
  · simp only [Setting.key, counted, if_false, Options.apply, Bool.false_eq_true]

/-- Records of legacy forms make no difference to the function. -/
theorem Options.Equivalent.of_deprecations {first second : Options}
    (equivalent : first.Equivalent second) (deprecations : List Deprecation) :
    ({ first with deprecations } : Options).Equivalent second :=
  ⟨equivalent.externalName, equivalent.textSignature, equivalent.passModule, equivalent.specified⟩

/-- A name that is merged and one that is given as an option are the same to the function. -/
theorem Options.withLegacyName_equivalent {settings settings' : List Setting} {text : String}
    {literal literal' : Token}
    (same : settings'.map Setting.unplaced = settings.map Setting.unplaced)
    (distinct : (settings.map Setting.key).Nodup) (unnamed : .name ∉ settings.map Setting.key) :
    ((Options.empty.extend settings).withLegacyName text literal).Equivalent
      (Options.empty.extend (.name ⟨text, literal'.span⟩ :: settings')) := by
  let setting : Setting := .name ⟨text, literal.span⟩
  have admitted : Options.empty.Admits (settings ++ [setting]) := by
    rw [Options.admits_empty_iff, List.map_append, List.perm_append_comm.nodup_iff]
    exact List.nodup_cons.2 ⟨unnamed, distinct⟩
  have stored : (Options.empty.extend settings).store setting =
      Options.empty.extend (settings ++ [setting]) := by
    rw [← Options.foldl_store admitted, List.foldl_append,
      Options.foldl_store (Options.admits_append_iff.1 admitted).1]
    rfl
  rw [Options.withLegacyName_eq, stored]
  apply Options.Equivalent.of_deprecations
  refine Options.extend_equivalent _ ?_ admitted.distinct
  rw [List.map_append, ← same]
  exact List.perm_append_comm

/-! ## Tokens of both forms -/

section
variable {text : String} {origin : Option Span} {segments path behind : List Token} {first : Token}
  {others : List Token} {comma key sign literal : Token} {descriptor : ExportDescriptor}

/-- The legacy form is read where its literal denotes a name and options follow. -/
theorem ExportDescriptor.parse_legacy_iff
    (tokens : tokenize text origin = path ++ comma :: literal :: behind)
    (written : PathTokens (first :: others) path) (isComma : comma.kind = .comma)
    (quoted : literal.kind = .string) :
    ExportDescriptor.parse text origin = .ok descriptor ↔
      ∃ settings name, WritesBehind settings behind ∧ (settings.map Setting.key).Nodup ∧
        literal.Names name ∧ descriptor = ⟨(⟨first, others, none, []⟩ : Sentence).path,
          (Options.empty.extend settings).withLegacyName name literal⟩ := by
  have pending : (Cursor.ofSource text origin).remaining = _ := tokens
  have maximal : ∀ token ∈ (comma :: literal :: behind).head?, token.kind ≠ .dot := by
    simp [isComma]
  unfold ExportDescriptor.parse
  simp only [bind_eq_ok_iff, ExportArguments.parse_append_iff pending written maximal,
    tailTokens_literal_iff isComma quoted]
  constructor
  · rintro ⟨arguments, ⟨legacyName, settings, ⟨rfl, follows⟩, distinct, rfl⟩, merged⟩
    obtain ⟨name, named, rfl⟩ := merge_eq_ok_iff.1 merged
    exact ⟨settings, name, follows, distinct, named, rfl⟩
  · rintro ⟨settings, name, follows, distinct, named, rfl⟩
    exact ⟨_, ⟨some literal, settings, ⟨rfl, follows⟩, distinct, rfl⟩,
      merge_eq_ok_iff.2 ⟨name, named, rfl⟩⟩

/-- The form with an option is read where its value denotes a name and other options follow. -/
theorem ExportDescriptor.parse_keyword_iff
    (tokens : tokenize text origin = path ++ comma :: key :: sign :: literal :: behind)
    (written : PathTokens (first :: others) path) (isComma : comma.kind = .comma)
    (word : key.IsWord "name") (isSign : sign.kind = .equals) :
    ExportDescriptor.parse text origin = .ok descriptor ↔
      ∃ settings name, WritesBehind settings behind ∧
        ((settings.map Setting.key).Nodup ∧ .name ∉ settings.map Setting.key) ∧
        literal.Names name ∧ descriptor = ⟨(⟨first, others, none, []⟩ : Sentence).path,
          Options.empty.extend (.name ⟨name, literal.span⟩ :: settings)⟩ := by
  have pending : (Cursor.ofSource text origin).remaining = _ := tokens
  have maximal : ∀ token ∈ (comma :: key :: sign :: literal :: behind).head?,
      token.kind ≠ .dot := by
    simp [isComma]
  unfold ExportDescriptor.parse
  simp only [bind_eq_ok_iff, ExportArguments.parse_append_iff pending written maximal,
    tailTokens_key_iff isComma word.1, writesOptions_name_iff word isSign]
  constructor
  · rintro ⟨arguments,
      ⟨legacyName, settings, ⟨rfl, name, rest, rfl, named, follows⟩, distinct, rfl⟩, merged⟩
    rw [List.map_cons, List.nodup_cons] at distinct
    exact ⟨rest, name, follows, distinct.symm, named, (Except.ok.inj merged).symm⟩
  · rintro ⟨settings, name, follows, ⟨distinct, unnamed⟩, named, rfl⟩
    exact ⟨_, ⟨none, _, ⟨rfl, name, settings, rfl, named, follows⟩,
      List.nodup_cons.2 ⟨unnamed, distinct⟩, rfl⟩, rfl⟩

end

/-! ## Both forms as texts -/

/-- What is written behind a name: nothing, or options behind a separator. -/
def optionTail : Option String → String
  | none => ""
  | some rest => separator ++ rest

def legacyForm (path literal : String) (tail : Option String) : String :=
  path ++ separator ++ literal ++ optionTail tail

def keywordForm (path literal : String) (tail : Option String) : String :=
  path ++ separator ++ nameKey ++ literal ++ optionTail tail

/-- The place of the literal in the legacy form, where it stands behind the path and a separator. -/
def literalPlace (path literal : String) (origin : Option Span) : Span :=
  let start := (Position.origin.advance path.toList).advance separator.toList
  (⟨start, start.advance literal.toList⟩ : Span).rebase origin

/-- The lexemes of what is written behind a name. -/
def tailLexemes : Option String → List Lexeme
  | none => []
  | some rest => ⟨.comma, ","⟩ :: (tokenize rest none).map Token.toLexeme

theorem endsBefore_separator (kind : Kind) (rest : List Char) :
    kind.EndsBefore (separator.toList ++ rest) := by
  have spelled : separator.toList = [',', ' '] := by decide +kernel
  intro c first
  rw [spelled] at first
  obtain rfl := Option.some.inj first
  exact ⟨by decide, by decide, fun _ => by decide⟩

theorem endsBefore_optionTail (kind : Kind) (tail : Option String) :
    kind.EndsBefore (optionTail tail).toList := by
  cases tail with
  | none => exact fun c first => nomatch first
  | some rest =>
      unfold optionTail
      rw [String.toList_append]
      exact endsBefore_separator kind rest.toList

theorem map_toLexeme_optionTail (position : Position) (tail : Option String) :
    (tokensFrom position (optionTail tail).toList).map Token.toLexeme = tailLexemes tail := by
  cases tail with
  | none => exact congrArg (List.map Token.toLexeme) (tokensFrom_nil position)
  | some rest =>
      dsimp only [optionTail, tailLexemes]
      rw [String.toList_append, tokensFrom_separator, List.map_cons, map_toLexeme_tokenize,
        map_toLexeme_tokensFrom _ .origin]
      rfl

theorem PathTokens.rebase {segments tokens : List Token} (written : PathTokens segments tokens)
    (origin : Option Span) :
    PathTokens (segments.map fun token => { token with span := token.span.rebase origin })
      (tokens.map fun token => { token with span := token.span.rebase origin }) := by
  induction written with
  | last named => exact .last named
  | more named joined _ inductionHypothesis => exact .more named joined inductionHypothesis

section
variable {names : List String} {path literal : String}

/-- The tokens of both forms. Their paths are the same, and so are the literals and what follows
them, but for their places. -/
theorem tokenize_forms (written : PathText names path.toList)
    (quoted : (tokenize literal none).map Token.toLexeme = [⟨.string, literal⟩])
    (tail : Option String) (origin : Option Span) :
    ∃ first others tokens, PathTokens (first :: others) tokens ∧
      (first :: others).map Token.text = names ∧
      (∃ comma behind, comma.kind = .comma ∧ behind.map Token.toLexeme = tailLexemes tail ∧
        tokenize (legacyForm path literal tail) origin =
          tokens ++ comma :: ⟨.string, literal, literalPlace path literal origin⟩ :: behind) ∧
      ∃ comma key sign place behind, comma.kind = .comma ∧ key.IsWord "name" ∧
        sign.kind = .equals ∧ behind.map Token.toLexeme = tailLexemes tail ∧
        tokenize (keywordForm path literal tail) origin =
          tokens ++ comma :: key :: sign :: ⟨.string, literal, place⟩ :: behind := by
  have separable : Lexeme.Separable ⟨.string, literal⟩ :=
    ⟨quoted, fun other => Kind.noConfusion other⟩
  let place (token : Token) : Token := { token with span := token.span.rebase origin }
  have read (position : Position) :=
    tokensFrom_lexeme separable (endsBefore_optionTail _ tail) position
  obtain ⟨segments, tokens, segmented, rfl, lexed⟩ := tokensFrom_path written .origin
  obtain ⟨first, others, same⟩ := (segmented.rebase origin).exists_cons
  have lexemes (position : Position) :
      ((tokensFrom position (optionTail tail).toList).map place).map Token.toLexeme =
        tailLexemes tail := by
    rw [List.map_map]
    exact map_toLexeme_optionTail position tail
  refine ⟨first, others, tokens.map place, same ▸ segmented.rebase origin, ?_, ?_, ?_⟩
  · rw [← same, List.map_map]
    rfl
  · have laid : (legacyForm path literal tail).toList =
        path.toList ++ (separator.toList ++ (literal.toList ++ (optionTail tail).toList)) := by
      simp only [legacyForm, String.toList_append, List.append_assoc]
    unfold tokenize
    rw [laid, lexed _ (endsBefore_separator _ _), tokensFrom_separator, read, List.map_append]
    exact ⟨_, _, rfl, lexemes _, rfl⟩
  · have laid : (keywordForm path literal tail).toList = path.toList ++ (separator.toList ++
        (nameKey.toList ++ (literal.toList ++ (optionTail tail).toList))) := by
      simp only [keywordForm, String.toList_append, List.append_assoc]
    obtain ⟨key, sign, behind, keyed, word, isSign⟩ := tokensFrom_nameKey _ _
    unfold tokenize
    rw [laid, lexed _ (endsBefore_separator _ _), tokensFrom_separator, keyed, read,
      List.map_append]
    exact ⟨_, place key, place sign, _, _, rfl, word, isSign, lexemes _, rfl⟩

/-- The tail gives no name, if it is a list of options at all. -/
def Unnamed (tail : Option String) : Prop :=
  ∀ rest ∈ tail, ∀ options, Options.parse (.ofSource rest none) = .ok options →
    .name ∉ options.specified

/-- Options behind a name are those of the tail. -/
theorem WritesBehind.unnamed {tail : Option String} (unnamed : Unnamed tail)
    {settings : List Setting} {behind : List Token} (written : WritesBehind settings behind)
    (lexemes : behind.map Token.toLexeme = tailLexemes tail)
    (distinct : (settings.map Setting.key).Nodup) : .name ∉ settings.map Setting.key := by
  rcases written with ⟨rfl, -⟩ | ⟨comma, others, rfl, -, written⟩
  · exact List.not_mem_nil
  · cases tail with
    | none => cases lexemes
    | some rest =>
        obtain ⟨settings', written', unplaced⟩ := written.moved (List.cons.inj lexemes).2.symm
        rw [← map_key_of_unplaced unplaced] at distinct ⊢
        exact unnamed rest rfl _ (Options.parse_eq_ok_iff.2 ⟨settings', written', distinct, rfl⟩)

theorem exists_writesBehind {tail : Option String}
    (accepted : ∀ rest ∈ tail, ∃ options, Options.parse (.ofSource rest none) = .ok options)
    {behind : List Token} (lexemes : behind.map Token.toLexeme = tailLexemes tail) :
    ∃ settings, WritesBehind settings behind ∧ (settings.map Setting.key).Nodup := by
  cases tail with
  | none => exact ⟨[], Or.inl ⟨rfl, List.map_eq_nil_iff.1 lexemes⟩, List.nodup_nil⟩
  | some rest =>
      obtain ⟨options, parsed⟩ := accepted rest rfl
      obtain ⟨settings, written, distinct, -⟩ := Options.parse_eq_ok_iff.1 parsed
      obtain ⟨comma, others, rfl, isComma, same⟩ := List.map_eq_cons_iff.1 lexemes
      obtain ⟨settings', written', unplaced⟩ := written.moved same
      exact ⟨settings', Or.inr ⟨comma, others, rfl, congrArg Lexeme.kind isComma, written'⟩,
        map_key_of_unplaced unplaced ▸ distinct⟩

/-! ## The forms compared -/

/-- Two descriptors of one function, of which the first comes from the legacy form: they have the
same path and configure the function in the same way; the first has a record of the form, at the
place of its literal, and the second has none. -/
structure ExportDescriptor.Migrates (names : List String) (place : Span)
    (legacy keyword : ExportDescriptor) : Prop where
  segments : legacy.path.segments = names
  path : legacy.path = keyword.path
  options : legacy.options.Equivalent keyword.options
  recorded : legacy.options.deprecations = [⟨.positionalName, place⟩]
  unrecorded : keyword.options.deprecations = []

/-- **The legacy form and its replacement come to the same.** If the options behind the name do not
give another one, both forms are refused, or both are read, and then they differ in the record of
the legacy form only. If they are options for themselves and give a name, the legacy form is still
read, and the name is that of its literal. -/
theorem ExportDescriptor.parse_forms (written : PathText names path.toList)
    (quoted : (tokenize literal none).map Token.toLexeme = [⟨.string, literal⟩])
    (tail : Option String) (origin : Option Span) :
    (Unnamed tail → EndsAlike (fun _ _ => True)
        (ExportDescriptor.Migrates names (literalPlace path literal origin))
        (ExportDescriptor.parse (legacyForm path literal tail) origin)
        (ExportDescriptor.parse (keywordForm path literal tail) origin)) ∧
      ∀ text, isIdentifier text = true → literalValue? literal.toList = some (.ofString text) →
        (∀ rest ∈ tail, ∃ options, Options.parse (.ofSource rest none) = .ok options) →
        ∃ descriptor, ExportDescriptor.parse (legacyForm path literal tail) origin =
          .ok descriptor ∧ descriptor.options.externalName = some text := by
  obtain ⟨first, others, tokens, segmented, texts, ⟨comma, behind, isComma, lexemes, legacy⟩,
    mark, key, sign, place, behind', isMark, word, isSign, lexemes', keyword⟩ :=
      tokenize_forms written quoted tail origin
  constructor
  · intro unnamed
    apply endsAlike_of_values
    · intro descriptor read
      obtain ⟨settings, name, follows, distinct, named, rfl⟩ :=
        (ExportDescriptor.parse_legacy_iff legacy segmented isComma rfl).1 read
      have absent := follows.unnamed unnamed lexemes distinct
      obtain ⟨settings', follows', unplaced⟩ := follows.moved (lexemes'.trans lexemes.symm)
      refine ⟨_, (ExportDescriptor.parse_keyword_iff keyword segmented isMark word isSign).2
        ⟨settings', name, follows', map_key_of_unplaced unplaced ▸ ⟨distinct, absent⟩, named, rfl⟩,
        texts, rfl, ?_, ?_, rfl⟩
      · exact Options.withLegacyName_equivalent unplaced distinct absent
      · rw [Options.withLegacyName_eq]
        rfl
    · intro descriptor read
      obtain ⟨settings, name, follows, ⟨distinct, -⟩, named, rfl⟩ :=
        (ExportDescriptor.parse_keyword_iff keyword segmented isMark word isSign).1 read
      obtain ⟨settings', follows', unplaced⟩ := follows.moved (lexemes.trans lexemes'.symm)
      exact ⟨_, (ExportDescriptor.parse_legacy_iff legacy segmented isComma rfl).2
        ⟨settings', name, follows', map_key_of_unplaced unplaced ▸ distinct, named, rfl⟩⟩
  · intro text identifier value accepted
    obtain ⟨settings, follows, distinct⟩ := exists_writesBehind accepted lexemes
    refine ⟨_, (ExportDescriptor.parse_legacy_iff legacy segmented isComma rfl).2
      ⟨settings, text, follows, distinct, ⟨identifier, Or.inr ⟨rfl, value⟩⟩, rfl⟩, ?_⟩
    rw [Options.withLegacyName_eq]
    rfl

end

theorem dotted_pathText : PathText ["m", "sub"] "m.sub".toList := by
  have spelled : "m.sub".toList =
      [] ++ ("m".toList ++ ([] ++ '.' :: ([] ++ ("sub".toList ++ [])))) := by decide +kernel
  rw [spelled]
  exact .more (by decide +kernel) (List.all_eq_true.1 (by decide +kernel)) .none .none
    (.last (by decide +kernel) (List.all_eq_true.1 (by decide +kernel)) .none .none)

/-- A legacy name in front of a flag, and one in front of another name. -/
theorem ExportDescriptor.parse_forms_dotted :
    PathText ["m", "sub"] "m.sub".toList ∧
      (tokenize "'go'" none).map Token.toLexeme = [⟨.string, "'go'"⟩] ∧
      Unnamed (some "pass_module") ∧
      (∃ legacy keyword,
        ExportDescriptor.parse (legacyForm "m.sub" "'go'" (some "pass_module")) none = .ok legacy ∧
        ExportDescriptor.parse (keywordForm "m.sub" "'go'" (some "pass_module")) none =
          .ok keyword ∧
        ExportDescriptor.Migrates ["m", "sub"] ⟨⟨1, 7⟩, ⟨1, 11⟩⟩ legacy keyword) ∧
      ∃ descriptor,
        ExportDescriptor.parse (legacyForm "m.sub" "'go'" (some "name = stop")) none =
          .ok descriptor ∧ descriptor.options.externalName = some "go" := by
  have quoted : (tokenize "'go'" none).map Token.toLexeme = [⟨.string, "'go'"⟩] := by
    decide +kernel
  have unnamed : Unnamed (some "pass_module") := by
    intro rest member options parsed
    obtain rfl := Option.some.inj member
    have evaluated : succeedsWith (Options.parse (.ofSource "pass_module" none))
        (fun options => decide (.name ∉ options.specified)) = true := by decide +kernel
    rw [parsed] at evaluated
    exact of_decide_eq_true evaluated
  refine ⟨dotted_pathText, quoted, unnamed, ?_, ?_⟩
  · have place : literalPlace "m.sub" "'go'" none = ⟨⟨1, 7⟩, ⟨1, 11⟩⟩ := by decide +kernel
    have alike := (ExportDescriptor.parse_forms dotted_pathText quoted (some "pass_module") none).1
      unnamed
    have evaluated : succeedsWith (ExportDescriptor.parse
        (legacyForm "m.sub" "'go'" (some "pass_module")) none) (fun _ => true) = true := by
      decide +kernel
    obtain ⟨legacy, read, -⟩ := exists_of_succeedsWith evaluated
    rw [read, place] at alike
    generalize ExportDescriptor.parse (keywordForm "m.sub" "'go'" (some "pass_module")) none =
      outcome at alike ⊢
    cases alike with
    | ok migrates => exact ⟨legacy, _, read, rfl, migrates⟩
  · have value : literalValue? "'go'".toList = some (.ofString "go") := by decide +kernel
    have accepted : ∀ rest ∈ some "name = stop",
        ∃ options, Options.parse (.ofSource rest none) = .ok options := by
      intro rest member
      obtain rfl := Option.some.inj member
      have evaluated : succeedsWith (Options.parse (.ofSource "name = stop" none))
          (fun _ => true) = true := by decide +kernel
      obtain ⟨options, parsed, -⟩ := exists_of_succeedsWith evaluated
      exact ⟨options, parsed⟩
    exact (ExportDescriptor.parse_forms dotted_pathText quoted (some "name = stop") none).2 "go"
      (by decide +kernel) value accepted

end ModuleGlue.Directive
