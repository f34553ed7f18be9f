import ModuleGlue.Proofs.Directive.Sentences

/-!
Contract: lists that are accepted, token by token.

The grammar says of whole lists what they write. Here it is said how a list that is accepted begins,
and what may stand behind each of its parts: a segment, a path, a comma, a literal, a key with its
value.

Main statements: `Options.accepts_append_iff` and `ExportArguments.accepts_append_iff` (behind an
option, and behind a path, the rest of a list is accepted or not for itself).

Owns: what is accepted behind each part of a list.

Does not own: errors.
-/

namespace ModuleGlue.Directive

open ModuleGlue.Text

/-! ## Option lists -/

/-- The tokens write options that the record admits. -/
def Options.Accepts (options : Options) (tokens : List Token) : Prop :=
  ∃ settings, WritesOptions settings tokens ∧ options.Admits settings

/-- The tokens may follow an option: nothing, or a comma and more options. -/
def Options.AcceptsBehind (options : Options) (tokens : List Token) : Prop :=
  tokens = [] ∨
    ∃ comma rest, tokens = comma :: rest ∧ comma.kind = .comma ∧ options.Accepts rest

section
variable {options : Options} {setting : Setting} {key : Token} {tokens rest : List Token}

theorem Options.accepts_nil (options : Options) : options.Accepts [] :=
  ⟨[], Or.inl ⟨rfl, rfl⟩, .nil⟩

/-- A list is accepted exactly if it is read. -/
theorem Options.accepts_iff {cursor : Cursor} :
    options.Accepts cursor.remaining ↔
      ∃ options' next, options.readInto cursor = (options', .ok next) := by
  constructor
  · rintro ⟨settings, written, admitted⟩
    obtain ⟨next, -, found⟩ := Options.readInto_complete written admitted
    exact ⟨_, next, found⟩
  · rintro ⟨options', next, found⟩
    obtain ⟨-, settings, written, admitted, -⟩ := Options.readInto_sound found
    exact ⟨settings, written, admitted⟩

/-- Behind an option that is read to its end, a list goes on or ends. -/
theorem Options.accepts_append_iff (option : OptionTokens setting tokens)
    (fresh : setting.key ∉ options.specified)
    (maximal : tokens.length = 1 → ∀ token ∈ rest.head?, token.kind ≠ .equals) :
    options.Accepts (tokens ++ rest) ↔ (options.store setting).AcceptsBehind rest := by
  obtain ⟨after, moved, left⟩ := Cursor.exists_passes tokens rest
    (rfl : (Cursor.ofTokens (tokens ++ rest) none).remaining = _)
  have read := Options.readOption_eq_ok_iff.2 ⟨setting, tokens, moved, option, fresh, rfl,
    fun alone => Cursor.startsWith_eq_false_iff.2 (left ▸ maximal alone)⟩
  have shorter := Options.readOption_remaining_lt read
  rw [show tokens ++ rest = (Cursor.ofTokens (tokens ++ rest) none).remaining from rfl,
    Options.accepts_iff]
  constructor
  · rintro ⟨options', next, found⟩
    rcases Options.readInto_eq_ok_iff_round.1 found with
      ⟨empty, -, -⟩ | ⟨middle, after', read', outcome⟩
    · rw [empty] at shorter
      exact absurd shorter (Nat.not_lt_zero _)
    · obtain ⟨rfl, same⟩ := Prod.mk.inj (read.symm.trans read')
      obtain rfl := Except.ok.inj same
      rcases outcome with ⟨ended, -, -⟩ | ⟨comma, behind, taken, found⟩
      · exact Or.inl (left.symm.trans ended)
      · obtain ⟨movedComma, isComma⟩ := Cursor.take_eq_ok_iff.1 taken
        exact Or.inr ⟨comma, behind.remaining, left.symm.trans movedComma.remaining,
          Cursor.requires_iff.1 isComma, Options.accepts_iff.2 ⟨_, _, found⟩⟩
  · rintro (rfl | ⟨comma, more, rfl, isComma, accepted⟩)
    · exact ⟨_, _, Options.readInto_eq_ok_iff_round.2
        (Or.inr ⟨_, after, read, Or.inl ⟨left, rfl, rfl⟩⟩)⟩
    · obtain ⟨behind, movedComma, left'⟩ := Cursor.exists_passes [comma] more left
      rw [← left'] at accepted
      obtain ⟨options', next, found⟩ := Options.accepts_iff.1 accepted
      have taken : after.take (some .comma) "`,`" = .ok (comma, behind) :=
        Cursor.take_eq_ok_iff.2 ⟨movedComma, Cursor.requires_iff.2 isComma⟩
      exact ⟨options', next, Options.readInto_eq_ok_iff_round.2
        (Or.inr ⟨_, after, read, Or.inr ⟨comma, behind, taken, found⟩⟩)⟩

/-- A list that is accepted begins with an option whose key is new. -/
theorem Options.exists_option_of_accepts (accepted : options.Accepts (key :: rest)) :
    ∃ setting value others, key.IsWord setting.key.word ∧ setting.key ∉ options.specified ∧
      ValueTokens setting value ∧ rest = value ++ others ∧
        ∀ token ∈ others.head?, token.kind = .comma := by
  obtain ⟨settings, ⟨-, empty⟩ | written, admitted⟩ := accepted
  · cases empty
  · obtain ⟨setting, _, tokens, others, rfl, whole, option, behind⟩ := optionsTokens_iff.1 written
    obtain ⟨word, value⟩ := option
    obtain ⟨rfl, rfl⟩ := List.cons.inj whole
    exact ⟨setting, _, others, word, admitted.fresh setting (List.mem_cons_self ..), value, rfl,
      behind.head?⟩

/-! ## Keys and their values -/

theorem OptionKey.word_injective {first second : OptionKey} (same : first.word = second.word) :
    first = second := by
  cases first <;> cases second <;> first | rfl | exact absurd same (by decide)

/-- A key that is known and new can be given a value. -/
theorem exists_accepts_key {known : OptionKey} (word : key.IsWord known.word)
    (fresh : known ∉ options.specified) (sign : Token) (isSign : sign.kind = .equals) :
    ∃ value, options.Accepts [key, sign, value] := by
  have accepted {setting : Setting} {value : Token} (same : setting.key = known)
      (written : ValueTokens setting [sign, value]) : options.Accepts [key, sign, value] := by
    have option : OptionTokens setting [key, sign, value] := .mk (same ▸ word) written
    exact ⟨[setting], Or.inr (.last option), Options.admits_cons_iff.2 ⟨same ▸ fresh, .nil⟩⟩
  cases known with
  | name =>
      have named : (⟨.ident, "f", key.span⟩ : Token).Names "f" :=
        ⟨by decide, Or.inl ⟨rfl, rfl⟩⟩
      exact ⟨_, accepted rfl (.name isSign named)⟩
  | textSignature =>
      have signed : (⟨.ident, "None", key.span⟩ : Token).Signs none := ⟨rfl, rfl⟩
      exact ⟨_, accepted rfl (.textSignature isSign signed)⟩
  | passModule =>
      have truth : (⟨.ident, "True", key.span⟩ : Token).IsWord (truthWord true) := ⟨rfl, rfl⟩
      exact ⟨_, accepted rfl (.passModule isSign truth)⟩

/-- What follows a key and a sign in a list that is accepted is a value of that key. -/
theorem Options.value_of_accepts {known : OptionKey} {sign value : Token} {others : List Token}
    (word : key.IsWord known.word) (isSign : sign.kind = .equals)
    (accepted : options.Accepts (key :: sign :: value :: others)) :
    ∃ setting, setting.key = known ∧ ValueTokens setting [sign, value] := by
  obtain ⟨setting, tokens, rest, word', -, written, whole, comma⟩ :=
    Options.exists_option_of_accepts accepted
  refine ⟨setting, OptionKey.word_injective (word'.2.symm.trans word.2), ?_⟩
  have pair {equals token : Token} (shape : sign :: value :: others = [equals, token] ++ rest) :
      [equals, token] = [sign, value] := by
    obtain ⟨rfl, same⟩ := List.cons.inj shape
    obtain ⟨rfl, -⟩ := List.cons.inj same
    rfl
  cases written with
  | name _ _ => exact pair whole ▸ .name ‹_› ‹_›
  | textSignature _ _ => exact pair whole ▸ .textSignature ‹_› ‹_›
  | passModule _ _ => exact pair whole ▸ .passModule ‹_› ‹_›
  | alone =>
      rw [List.nil_append] at whole
      rw [← whole] at comma
      have isComma : sign.kind = .comma := comma sign rfl
      rw [isSign] at isComma
      cases isComma

end

/-! ## Arguments -/

def ExportArguments.Accepts (tokens : List Token) : Prop :=
  ∃ sentence : Sentence, sentence.IsWrittenAs tokens

def ExportArguments.AcceptsTail (tokens : List Token) : Prop :=
  ∃ legacyName settings, TailTokens legacyName settings tokens ∧
    (settings.map Setting.key).Nodup

/-- The tokens may follow the comma behind a path. -/
def ExportArguments.AcceptsBehindComma (tokens : List Token) : Prop :=
  Options.empty.Accepts tokens ∨ ∃ literal rest, tokens = literal :: rest ∧
    literal.kind = .string ∧ Options.empty.AcceptsBehind rest

section
variable {segment token : Token} {rest : List Token}

/-- Arguments are accepted exactly if they are read. -/
theorem ExportArguments.accepts_iff {cursor : Cursor} :
    ExportArguments.Accepts cursor.remaining ↔
      ∃ arguments, ExportArguments.parse cursor = .ok arguments := by
  simp only [ExportArguments.parse_eq_ok_iff]
  constructor
  · rintro ⟨sentence, written⟩
    obtain ⟨final, read⟩ := ExportArguments.read_complete written
    exact ⟨_, final, read⟩
  · rintro ⟨arguments, final, read⟩
    obtain ⟨-, sentence, written, -⟩ := ExportArguments.read_sound read
    exact ⟨sentence, written⟩

/-- What is accepted begins with a segment, and goes on behind it: with a dot and more segments, or
with what may follow a path. -/
theorem ExportArguments.accepts_cons_iff :
    ExportArguments.Accepts (segment :: rest) ↔ segment.IsSegment ∧
      (ExportArguments.AcceptsTail rest ∨
        ∃ dot more, rest = dot :: more ∧ dot.kind = .dot ∧ ExportArguments.Accepts more) := by
  constructor
  · rintro ⟨⟨first, others, legacyName, settings⟩, path, tail, whole, segments, follows, distinct⟩
    dsimp only at segments follows distinct
    cases segments with
    | last named =>
        obtain ⟨rfl, rfl⟩ := List.cons.inj whole
        exact ⟨named, Or.inl ⟨legacyName, settings, follows, distinct⟩⟩
    | @more _ dot segments tokens named joined path =>
        obtain ⟨rfl, rfl⟩ := List.cons.inj whole
        refine ⟨named, Or.inr ⟨dot, tokens ++ tail, rfl, joined, ?_⟩⟩
        cases path with
        | last named' =>
            exact ⟨⟨_, [], legacyName, settings⟩, _, tail, rfl, .last named', follows, distinct⟩
        | more named' joined' path' =>
            exact ⟨⟨_, _, legacyName, settings⟩, _, tail, rfl, .more named' joined' path', follows,
              distinct⟩
  · rintro ⟨named, ⟨legacyName, settings, follows, distinct⟩ |
      ⟨dot, more, rfl, joined, ⟨first, others, legacyName, settings⟩, path, tail, rfl, segments,
        follows, distinct⟩⟩
    · exact ⟨⟨segment, [], legacyName, settings⟩, [segment], rest, rfl, .last named, follows,
        distinct⟩
    · exact ⟨⟨segment, first :: others, legacyName, settings⟩, segment :: dot :: path, tail, rfl,
        .more named joined segments, follows, distinct⟩

/-- What may follow a path is nothing, or begins with a comma. -/
theorem ExportArguments.AcceptsTail.head? (accepted : ExportArguments.AcceptsTail rest) :
    ∀ token ∈ rest.head?, token.kind = .comma := by
  obtain ⟨legacyName, settings, follows, -⟩ := accepted
  cases follows <;> simp_all

theorem ExportArguments.acceptsTail_nil : ExportArguments.AcceptsTail [] :=
  ⟨none, [], .nothing, List.nodup_nil⟩

/-- A segment with nothing behind it is accepted. -/
theorem ExportArguments.exists_accepts : ∃ tokens, ExportArguments.Accepts tokens := by
  have named : (⟨.ident, "m", ⟨.origin, .origin⟩⟩ : Token).IsSegment := ⟨rfl, by decide⟩
  exact ⟨[_], ExportArguments.accepts_cons_iff.2 ⟨named, Or.inl ExportArguments.acceptsTail_nil⟩⟩

/-- Behind a path that is read to its end stands what may follow a path. -/
theorem ExportArguments.accepts_append_iff {segments path : List Token}
    (written : PathTokens segments path) (maximal : ∀ token ∈ rest.head?, token.kind ≠ .dot) :
    ExportArguments.Accepts (path ++ rest) ↔ ExportArguments.AcceptsTail rest := by
  induction written with
  | @last segment named =>
      rw [List.singleton_append, ExportArguments.accepts_cons_iff]
      constructor
      · rintro ⟨-, follows | ⟨dot, more, rfl, isDot, -⟩⟩
        · exact follows
        · exact absurd isDot (maximal dot rfl)
      · intro follows
        exact ⟨named, Or.inl follows⟩
  | @more segment dot segments tokens named isDot _ inductionHypothesis =>
      rw [List.cons_append, List.cons_append, ExportArguments.accepts_cons_iff,
        ← inductionHypothesis]
      constructor
      · rintro ⟨-, follows | ⟨_, _, same, -, accepted⟩⟩
        · have isComma := follows.head? dot rfl
          rw [isDot] at isComma
          cases isComma
        · obtain ⟨-, rfl⟩ := List.cons.inj same
          exact accepted
      · intro accepted
        exact ⟨named, Or.inr ⟨dot, _, rfl, isDot, accepted⟩⟩

/-- Behind a path that is read to its end, arguments are read as the grammar has what follows. -/
theorem ExportArguments.parse_append_iff {cursor : Cursor} {arguments : ExportArguments}
    {first : Token} {others path : List Token} (pending : cursor.remaining = path ++ rest)
    (written : PathTokens (first :: others) path)
    (maximal : ∀ token ∈ rest.head?, token.kind ≠ .dot) :
    ExportArguments.parse cursor = .ok arguments ↔
      ∃ legacyName settings, TailTokens legacyName settings rest ∧
        (settings.map Setting.key).Nodup ∧
          arguments = Sentence.denotation ⟨first, others, legacyName, settings⟩ := by
  have complete {legacyName : Option Token} {settings : List Setting}
      (follows : TailTokens legacyName settings rest)
      (distinct : (settings.map Setting.key).Nodup) :
      ExportArguments.parse cursor =
        .ok (Sentence.denotation ⟨first, others, legacyName, settings⟩) := by
    have whole : Sentence.IsWrittenAs ⟨first, others, legacyName, settings⟩ cursor.remaining :=
      ⟨path, rest, pending, written, follows, distinct⟩
    obtain ⟨final, read⟩ := ExportArguments.read_complete whole
    exact ExportArguments.parse_eq_ok_iff.2 ⟨final, read⟩
  constructor
  · intro found
    have accepted := ExportArguments.accepts_iff.2 ⟨arguments, found⟩
    rw [pending, ExportArguments.accepts_append_iff written maximal] at accepted
    obtain ⟨legacyName, settings, follows, distinct⟩ := accepted
    exact ⟨legacyName, settings, follows, distinct,
      Except.ok.inj (found.symm.trans (complete follows distinct))⟩
  · rintro ⟨legacyName, settings, follows, distinct, rfl⟩
    exact complete follows distinct

theorem ExportArguments.acceptsTail_cons_iff :
    ExportArguments.AcceptsTail (token :: rest) ↔
      token.kind = .comma ∧ ExportArguments.AcceptsBehindComma rest := by
  unfold ExportArguments.AcceptsTail
  simp only [← Options.admits_empty_iff]
  constructor
  · rintro ⟨legacyName, settings, follows, distinct⟩
    rcases tailTokens_iff.1 follows with
      ⟨impossible, -⟩ | ⟨comma, tokens, shape, separator, outcome⟩
    · cases impossible
    · obtain ⟨rfl, rfl⟩ := List.cons.inj shape
      refine ⟨separator, ?_⟩
      rcases outcome with ⟨-, written⟩ | ⟨literal, -, quoted, ⟨rfl, -⟩ |
        ⟨second, others, rfl, isComma, written⟩⟩
      · exact Or.inl ⟨settings, written, distinct⟩
      · exact Or.inr ⟨literal, [], rfl, quoted, Or.inl rfl⟩
      · exact Or.inr ⟨literal, _, rfl, quoted,
          Or.inr ⟨second, others, rfl, isComma, settings, written, distinct⟩⟩
  · rintro ⟨separator, ⟨settings, written, distinct⟩ | ⟨literal, others, rfl, quoted, rfl |
      ⟨second, others, rfl, isComma, settings, written, distinct⟩⟩⟩
    · exact ⟨none, settings, tailTokens_iff.2
        (Or.inr ⟨token, _, rfl, separator, Or.inl ⟨rfl, written⟩⟩), distinct⟩
    · exact ⟨some literal, [], .legacy separator quoted, .nil⟩
    · exact ⟨some literal, settings, tailTokens_iff.2 (Or.inr ⟨token, _, rfl, separator,
        Or.inr ⟨literal, rfl, quoted, Or.inr ⟨second, others, rfl, isComma, written⟩⟩⟩), distinct⟩

/-- A literal begins no option, so that behind a comma it is the legacy name. -/
theorem ExportArguments.acceptsBehindComma_of_literal (quoted : token.kind = .string) :
    ExportArguments.AcceptsBehindComma (token :: rest) ↔ Options.empty.AcceptsBehind rest := by
  constructor
  · rintro (accepted | ⟨literal, others, shape, -, accepted⟩)
    · obtain ⟨setting, value, others, word, -⟩ := Options.exists_option_of_accepts accepted
      rw [word.1] at quoted
      cases quoted
    · exact (List.cons.inj shape).2 ▸ accepted
  · intro accepted
    exact Or.inr ⟨token, rest, rfl, quoted, accepted⟩

end

end ModuleGlue.Directive
