import ModuleGlue.Proofs.Directive.Sentences

/-!
Contract: tokens that no sentence has.

Numbers, and characters that belong to no other kind, occur nowhere in the grammar of export
arguments and of options. Wherever one of them stands, the whole list is refused.

Main statements: `Options.parse_of_stray`, `ExportDescriptor.parse_of_stray`.

Owns: which tokens these are, and that they are refused.

Does not own: which texts have them.
-/

namespace ModuleGlue.Directive

open ModuleGlue.Text

/-- The token is of a kind that the grammar does not have. -/
def Token.IsStray (token : Token) : Prop := token.kind = .number ∨ token.kind = .other

theorem Token.not_isStray_of_kind {token : Token} {kind : Kind} (known : token.kind = kind)
    (ordinary : kind ≠ .number ∧ kind ≠ .other) : ¬ token.IsStray := by
  rintro (stray | stray)
  · exact ordinary.1 (known.symm.trans stray)
  · exact ordinary.2 (known.symm.trans stray)

theorem Token.Evaluates.not_isStray {token : Token} {value : Points}
    (evaluates : token.Evaluates value) : ¬ token.IsStray :=
  Token.not_isStray_of_kind evaluates.1 (by decide)

theorem Token.IsWord.not_isStray {token : Token} {word : String} (isWord : token.IsWord word) :
    ¬ token.IsStray :=
  Token.not_isStray_of_kind isWord.1 (by decide)

/-! ## The grammar has no strays -/

def NoStrays (tokens : List Token) : Prop := ∀ token ∈ tokens, ¬ token.IsStray

theorem NoStrays.nil : NoStrays [] := fun _ member => absurd member List.not_mem_nil

theorem NoStrays.cons {token : Token} {tokens : List Token} (first : ¬ token.IsStray)
    (others : NoStrays tokens) : NoStrays (token :: tokens) :=
  List.forall_mem_cons.2 ⟨first, others⟩

theorem NoStrays.append {first second : List Token} (front : NoStrays first)
    (behind : NoStrays second) : NoStrays (first ++ second) :=
  List.forall_mem_append.2 ⟨front, behind⟩

section
variable {tokens : List Token} {settings : List Setting}

theorem ValueTokens.noStrays {setting : Setting} (value : ValueTokens setting tokens) :
    NoStrays tokens := by
  cases value with
  | name sign named =>
      have value := named.2.elim Token.IsWord.not_isStray Token.Evaluates.not_isStray
      exact .cons (Token.not_isStray_of_kind sign (by decide)) (.cons value .nil)
  | @textSignature equals value text sign signed =>
      have value : ¬ value.IsStray := by
        cases text with
        | none => exact Token.IsWord.not_isStray signed
        | some denoted => exact Token.Evaluates.not_isStray signed
      exact .cons (Token.not_isStray_of_kind sign (by decide)) (.cons value .nil)
  | passModule sign truth =>
      exact .cons (Token.not_isStray_of_kind sign (by decide)) (.cons truth.not_isStray .nil)
  | alone => exact .nil

theorem OptionTokens.noStrays {setting : Setting} (option : OptionTokens setting tokens) :
    NoStrays tokens := by
  cases option with
  | mk word follows => exact .cons word.not_isStray follows.noStrays

theorem OptionsTokens.noStrays (written : OptionsTokens settings tokens) : NoStrays tokens := by
  induction written with
  | last option => exact option.noStrays
  | trailing option separator =>
      exact option.noStrays.append (.cons (Token.not_isStray_of_kind separator (by decide)) .nil)
  | more option separator rest inductionHypothesis =>
      exact option.noStrays.append
        (.cons (Token.not_isStray_of_kind separator (by decide)) inductionHypothesis)

theorem PathTokens.noStrays {segments : List Token} (path : PathTokens segments tokens) :
    NoStrays tokens := by
  induction path with
  | last named => exact .cons (Token.not_isStray_of_kind named.1 (by decide)) .nil
  | more named joined rest inductionHypothesis =>
      exact .cons (Token.not_isStray_of_kind named.1 (by decide))
        (.cons (Token.not_isStray_of_kind joined (by decide)) inductionHypothesis)

theorem TailTokens.noStrays {legacyName : Option Token}
    (tail : TailTokens legacyName settings tokens) : NoStrays tokens := by
  have comma {token : Token} (separator : token.kind = .comma) : ¬ token.IsStray :=
    Token.not_isStray_of_kind separator (by decide)
  have string {token : Token} (quoted : token.kind = .string) : ¬ token.IsStray :=
    Token.not_isStray_of_kind quoted (by decide)
  cases tail with
  | nothing => exact .nil
  | comma separator => exact .cons (comma separator) .nil
  | legacy separator quoted => exact .cons (comma separator) (.cons (string quoted) .nil)
  | legacyComma separator quoted trailing =>
      exact .cons (comma separator) (.cons (string quoted) (.cons (comma trailing) .nil))
  | legacyOptions separator quoted trailing options =>
      exact .cons (comma separator) (.cons (string quoted)
        (.cons (comma trailing) options.noStrays))
  | options separator options => exact .cons (comma separator) options.noStrays

theorem Sentence.IsWrittenAs.noStrays {sentence : Sentence}
    (written : sentence.IsWrittenAs tokens) : NoStrays tokens := by
  obtain ⟨path, tail, rfl, pathTokens, tailTokens, -⟩ := written
  exact pathTokens.noStrays.append tailTokens.noStrays

end

/-! ## Strays are refused -/

section
variable {text : String} {origin : Option Span} {token : Token}

/-- **Where a stray token stands, a list of options is refused.** -/
theorem Options.parse_of_stray (member : token ∈ tokenize text origin) (stray : token.IsStray) :
    ∃ reason, Options.parse (.ofSource text origin) = .error reason := by
  unfold Options.parse
  cases read : Options.read (.ofSource text origin) with
  | error reason => exact ⟨reason, rfl⟩
  | ok pair =>
      obtain ⟨-, settings, written, -⟩ := Options.read_eq_ok_iff.1 read
      rcases written with ⟨-, empty⟩ | written
      · have inEmpty : token ∈ (Cursor.ofSource text origin).remaining := member
        rw [empty] at inEmpty
        cases inEmpty
      · exact absurd stray (written.noStrays token member)

/-- **Where a stray token stands, the arguments of an export are refused.** -/
theorem ExportDescriptor.parse_of_stray (member : token ∈ tokenize text origin)
    (stray : token.IsStray) : ∃ reason, ExportDescriptor.parse text origin = .error reason := by
  unfold ExportDescriptor.parse ExportArguments.parse
  cases read : ExportArguments.read (.ofSource text origin) with
  | error reason => exact ⟨reason, rfl⟩
  | ok pair =>
      obtain ⟨-, sentence, written, -⟩ := ExportArguments.read_eq_ok_iff.1 read
      exact absurd stray (written.noStrays token member)

end

end ModuleGlue.Directive
