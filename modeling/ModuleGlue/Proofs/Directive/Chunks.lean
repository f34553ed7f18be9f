import Mathlib.Data.List.Forall2
import ModuleGlue.Proofs.Directive.Equivalence
import ModuleGlue.Proofs.Directive.Separation

/-!
Contract: the chunks of an option list.

A chunk is what stands between two commas of a list, whether or not it is an option. No option
reaches over a comma, so that each chunk expresses something for itself or makes the list wrong.

Main statements: `writesOptions_of_joined` and `expresses_of_joined` (a list of chunks is one of
options exactly if each chunk expresses a setting, and then writes these settings).

Owns: chunks, how they are joined, and what a single one expresses.

Does not own: the record that the settings are read into.
-/

namespace ModuleGlue.Directive

open ModuleGlue.Text

/-! ## Chunks -/

/-- Some lexemes between commas. They do not begin with a string, which would be the legacy name if
they were the first ones behind a path. -/
structure IsChunk (chunk : List Lexeme) : Prop where
  nonempty : chunk ≠ []
  unseparated : ∀ lexeme ∈ chunk, lexeme.kind ≠ .comma
  unquoted : ∀ lexeme ∈ chunk.head?, lexeme.kind ≠ .string

/-- The lexemes are chunks with commas between them; one comma may trail. -/
inductive JoinedChunks : List (List Lexeme) → List Lexeme → Prop where
  | nothing : JoinedChunks [] []
  | last (chunk : List Lexeme) : JoinedChunks [chunk] chunk
  | more {chunk lexemes : List Lexeme} {comma : Lexeme} {chunks : List (List Lexeme)}
      (separator : comma.kind = .comma) (rest : JoinedChunks chunks lexemes) :
      JoinedChunks (chunk :: chunks) (chunk ++ comma :: lexemes)

/-- The chunk expresses a setting, wherever it stands. -/
def Expresses (setting : Setting) (chunk : List Lexeme) : Prop :=
  ∃ written tokens, OptionTokens written tokens ∧ written.unplaced = setting ∧
    tokens.map Token.toLexeme = chunk

/-! ## Options as chunks -/

section
variable {setting : Setting} {settings : List Setting} {tokens : List Token}

theorem OptionTokens.kind_ne_comma (option : OptionTokens setting tokens) :
    ∀ token ∈ tokens, token.kind ≠ .comma := by
  obtain ⟨word, follows⟩ := option
  have named {token : Token} {text : String} (names : token.Names text) : token.kind ≠ .comma := by
    rcases names.2 with bare | literal
    · simp [bare.1]
    · simp [literal.1]
  have signed {token : Token} {text : Option Points} (signs : token.Signs text) :
      token.kind ≠ .comma := by
    cases text with
    | none => simp [signs.1]
    | some value => simp [signs.1]
  intro token member
  rcases List.mem_cons.1 member with rfl | later
  · simp [word.1]
  · cases follows with
    | name sign names =>
        rcases List.mem_pair.1 later with rfl | rfl
        · simp [sign]
        · exact named names
    | textSignature sign signs =>
        rcases List.mem_pair.1 later with rfl | rfl
        · simp [sign]
        · exact signed signs
    | passModule sign truth =>
        rcases List.mem_pair.1 later with rfl | rfl
        · simp [sign]
        · simp [truth.1]
    | alone => cases later

theorem OptionTokens.expresses (option : OptionTokens setting tokens) :
    Expresses setting.unplaced (tokens.map Token.toLexeme) :=
  ⟨setting, tokens, option, rfl, rfl⟩

/-- Tokens of the same lexeme differ in their places only. -/
theorem Token.eq_of_toLexeme {first second : Token} (same : first.toLexeme = second.toLexeme) :
    first = { second with span := first.span } := by
  obtain ⟨kind, text, span⟩ := first
  obtain ⟨rfl, rfl⟩ := Lexeme.mk.inj same
  rfl

/-- A value at one place is a value at every other. -/
theorem ValueTokens.moved {others : List Token} (follows : ValueTokens setting tokens)
    (same : others.map Token.toLexeme = tokens.map Token.toLexeme) :
    ∃ written, ValueTokens written others ∧ written.unplaced = setting.unplaced := by
  rw [← List.forall₂_eq_eq_eq, List.forall₂_map_left_iff, List.forall₂_map_right_iff] at same
  cases follows with
  | name sign named =>
      rcases same with _ | ⟨sameSign, _ | ⟨sameValue, _ | _⟩⟩
      rw [Token.eq_of_toLexeme sameSign, Token.eq_of_toLexeme sameValue]
      refine ⟨_, .name ?_ ?_, rfl⟩
      · exact sign
      · exact named
  | @textSignature _ _ text sign signed =>
      rcases same with _ | ⟨sameSign, _ | ⟨sameValue, _ | _⟩⟩
      rw [Token.eq_of_toLexeme sameSign, Token.eq_of_toLexeme sameValue]
      refine ⟨.textSignature ⟨text, _⟩, .textSignature ?_ ?_, rfl⟩
      · exact sign
      · cases text with
        | none => exact signed
        | some value => exact signed
  | passModule sign truth =>
      rcases same with _ | ⟨sameSign, _ | ⟨sameValue, _ | _⟩⟩
      rw [Token.eq_of_toLexeme sameSign, Token.eq_of_toLexeme sameValue]
      refine ⟨_, .passModule ?_ ?_, rfl⟩
      · exact sign
      · exact truth
  | alone =>
      cases same
      exact ⟨_, .alone, rfl⟩

/-- What lexemes express at one place they express at every other. -/
theorem OptionTokens.moved {others : List Token} (option : OptionTokens setting tokens)
    (same : others.map Token.toLexeme = tokens.map Token.toLexeme) :
    ∃ written, OptionTokens written others ∧ written.unplaced = setting.unplaced := by
  obtain ⟨word, follows⟩ := option
  obtain ⟨key, values, rfl, sameKey, sameValues⟩ := List.map_eq_cons_iff.1 same
  obtain ⟨written, follows', unplaced⟩ := follows.moved sameValues
  have keys : written.key = setting.key := by
    rw [← written.key_unplaced, unplaced, setting.key_unplaced]
  rw [Token.eq_of_toLexeme sameKey]
  refine ⟨written, .mk ?_ follows', unplaced⟩
  rw [keys]
  exact word

/-- So do whole lists. -/
theorem WritesOptions.moved {others : List Token} (written : WritesOptions settings tokens)
    (same : others.map Token.toLexeme = tokens.map Token.toLexeme) :
    ∃ settings', WritesOptions settings' others ∧
      settings'.map Setting.unplaced = settings.map Setting.unplaced := by
  rcases written with ⟨rfl, rfl⟩ | written
  · exact ⟨[], Or.inl ⟨rfl, List.map_eq_nil_iff.1 same⟩, rfl⟩
  · suffices ∃ settings', OptionsTokens settings' others ∧
        settings'.map Setting.unplaced = settings.map Setting.unplaced by
      obtain ⟨settings', written', unplaced⟩ := this
      exact ⟨settings', Or.inr written', unplaced⟩
    induction written generalizing others with
    | last option =>
        obtain ⟨setting, option', unplaced⟩ := option.moved same
        exact ⟨[setting], .last option', by rw [List.map_singleton, unplaced]; rfl⟩
    | trailing option separator =>
        rw [List.map_append] at same
        obtain ⟨front, behind, rfl, sameFront, sameBehind⟩ := List.map_eq_append_iff.1 same
        obtain ⟨mark, rest, rfl, sameMark, sameRest⟩ := List.map_eq_cons_iff.1 sameBehind
        obtain rfl := List.map_eq_nil_iff.1 sameRest
        obtain ⟨setting, option', unplaced⟩ := option.moved sameFront
        refine ⟨[setting], .trailing option' ?_, by rw [List.map_singleton, unplaced]; rfl⟩
        rw [Token.eq_of_toLexeme sameMark]
        exact separator
    | more option separator _ inductionHypothesis =>
        rw [List.map_append] at same
        obtain ⟨front, behind, rfl, sameFront, sameBehind⟩ := List.map_eq_append_iff.1 same
        obtain ⟨mark, rest, rfl, sameMark, sameRest⟩ := List.map_eq_cons_iff.1 sameBehind
        obtain ⟨setting, option', unplaced⟩ := option.moved sameFront
        obtain ⟨more, written', unplacedRest⟩ := inductionHypothesis sameRest
        refine ⟨setting :: more, .more option' ?_ written', ?_⟩
        · rw [Token.eq_of_toLexeme sameMark]
          exact separator
        · rw [List.map_cons, List.map_cons, unplaced, unplacedRest]

/-! ## Lists of chunks -/

/-- A list that begins with a chunk and a comma begins with an option, and others follow. -/
theorem WritesOptions.split {chunk others : List Token} {comma : Token}
    (written : WritesOptions settings (chunk ++ comma :: others))
    (unseparated : ∀ token ∈ chunk, token.kind ≠ .comma) (separator : comma.kind = .comma) :
    ∃ first rest, settings = first :: rest ∧ OptionTokens first chunk ∧
      WritesOptions rest others := by
  have cut (behind : List Token) {front : List Token} {mark : Token}
      (all : ∀ token ∈ front, token.kind ≠ .comma) (isComma : mark.kind = .comma) :
      (front ++ mark :: behind).takeWhile (·.kind != .comma) = front ∧
        (front ++ mark :: behind).dropWhile (·.kind != .comma) = mark :: behind := by
    have goesOn : ∀ token ∈ front, (token.kind != .comma) = true := fun token member =>
      bne_iff_ne.2 (all token member)
    rw [List.takeWhile_append_of_pos goesOn, List.dropWhile_append_of_pos goesOn,
      List.takeWhile_cons, List.dropWhile_cons, isComma]
    simp
  obtain ⟨taken, dropped⟩ := cut others unseparated separator
  rcases written with ⟨-, empty⟩ | written
  · cases chunk <;> cases empty
  · obtain ⟨first, rest, tokens, behind, rfl, whole, option, follows⟩ :=
      optionsTokens_iff.1 written
    rcases follows with ⟨-, rfl⟩ | ⟨mark, more, rfl, isComma, writtenRest⟩
    · refine absurd separator (option.kind_ne_comma comma ?_)
      rw [← List.append_nil tokens, ← whole]
      exact List.mem_append_right _ (List.mem_cons_self ..)
    · obtain ⟨taken', dropped'⟩ := cut more option.kind_ne_comma isComma
      rw [whole] at taken dropped
      obtain rfl := taken'.symm.trans taken
      obtain ⟨-, rfl⟩ := List.cons.inj (dropped'.symm.trans dropped)
      exact ⟨first, rest, rfl, option, writtenRest⟩

/-- Chunks that are joined do not begin with a string. -/
theorem JoinedChunks.head?_ne_string {chunks : List (List Lexeme)} {lexemes : List Lexeme}
    (joined : JoinedChunks chunks lexemes) (all : ∀ chunk ∈ chunks, IsChunk chunk) :
    ∀ lexeme ∈ lexemes.head?, lexeme.kind ≠ .string := by
  cases joined with
  | nothing => exact fun lexeme member => nomatch member
  | last => exact (all _ (List.mem_singleton_self _)).unquoted
  | more separator rest =>
      have here := all _ (List.mem_cons_self ..)
      rw [List.head?_append_of_ne_nil _ here.nonempty]
      exact here.unquoted

/-- **Every chunk of an option list expresses one of its settings.** -/
theorem expresses_of_joined {chunks : List (List Lexeme)} (all : ∀ chunk ∈ chunks, IsChunk chunk)
    (joined : JoinedChunks chunks (tokens.map Token.toLexeme))
    (written : WritesOptions settings tokens) :
    List.Forall₂ Expresses (settings.map Setting.unplaced) chunks := by
  generalize spelled : tokens.map Token.toLexeme = lexemes at joined
  induction joined generalizing tokens settings with
  | nothing =>
      obtain rfl := List.map_eq_nil_iff.1 spelled
      rcases written with ⟨rfl, -⟩ | written
      · exact .nil
      · obtain ⟨key, rest, impossible, -⟩ := written.exists_cons
        cases impossible
  | last chunk =>
      have here := all chunk (List.mem_singleton_self chunk)
      have unseparated : ∀ token ∈ tokens, token.kind ≠ .comma := fun token member =>
        here.unseparated _ (spelled ▸ List.mem_map_of_mem member)
      rcases written with ⟨-, rfl⟩ | written
      · exact absurd spelled.symm here.nonempty
      · cases written with
        | last option => exact .cons (spelled ▸ option.expresses) .nil
        | trailing _ separator | more _ separator _ =>
            exact absurd separator (unseparated _ (by simp))
  | @more chunk lexemes comma chunks separator rest inductionHypothesis =>
      obtain ⟨front, behind, rfl, rfl, tail⟩ := List.map_eq_append_iff.1 spelled
      obtain ⟨mark, others, rfl, rfl, rfl⟩ := List.map_eq_cons_iff.1 tail
      have here := all _ (List.mem_cons_self ..)
      obtain ⟨first, more, rfl, option, writtenRest⟩ := written.split
        (fun token member => here.unseparated _ (List.mem_map_of_mem member)) separator
      exact .cons option.expresses (inductionHypothesis
        (fun other member => all other (List.mem_cons_of_mem _ member)) writtenRest rfl)

/-- **Where every chunk expresses a setting, the list is one of options that write these.** -/
theorem writesOptions_of_joined {chunks : List (List Lexeme)}
    (joined : JoinedChunks chunks (tokens.map Token.toLexeme))
    (expresses : List.Forall₂ Expresses settings chunks) :
    ∃ written, WritesOptions written tokens ∧ written.map Setting.unplaced = settings := by
  generalize spelled : tokens.map Token.toLexeme = lexemes at joined
  induction joined generalizing tokens settings with
  | nothing =>
      cases expresses
      exact ⟨[], Or.inl ⟨rfl, List.map_eq_nil_iff.1 spelled⟩, rfl⟩
  | last chunk =>
      rcases expresses with _ | ⟨⟨original, source, option, rfl, rfl⟩, _ | _⟩
      obtain ⟨written, option', same⟩ := option.moved spelled
      exact ⟨[written], Or.inr (.last option'), by rw [List.map_singleton, same]⟩
  | @more chunk lexemes comma chunks separator rest inductionHypothesis =>
      obtain ⟨front, behind, rfl, sameFront, tail⟩ := List.map_eq_append_iff.1 spelled
      obtain ⟨mark, others, rfl, rfl, rfl⟩ := List.map_eq_cons_iff.1 tail
      rcases expresses with _ | ⟨⟨original, source, option, rfl, rfl⟩, expressesRest⟩
      obtain ⟨written, option', same⟩ := option.moved sameFront
      obtain ⟨more, writtenRest, sameRest⟩ := inductionHypothesis expressesRest rfl
      have whole := optionsTokens_iff.2 ⟨written, more, front, _, rfl, rfl, option',
        Or.inr ⟨mark, others, rfl, separator, writtenRest⟩⟩
      exact ⟨written :: more, Or.inr whole, by rw [List.map_cons, same, sameRest]⟩

end

end ModuleGlue.Directive
