import ModuleGlue.Source.Docstring
import ModuleGlue.Proofs.Outcome

/-!
Contract: why code is refused, and why documentation has no value.

Main statements: `Module.reason_of_error` (a text that is no file is malformed, or joins literals of
text and of bytes) and `Suite.reason_of_documentation` (documentation without a value has an
ill-formed literal).

Owns: the reasons of reading a file and of evaluating documentation.

Does not own: which texts are refused.
-/

namespace ModuleGlue.Source

/-! ## Files -/

/-- A text that cannot be read is no code, or joins literals of text and of bytes. -/
theorem Module.reason_of_error {text : String} {error : SourceError}
    (refused : Module.ofText text = .error error) :
    error = .malformed ∨ error = .mixedLiterals := by
  rcases bind_eq_error_iff.1 refused with unread | ⟨tree, -, refused⟩
  · unfold linesOf at unread
    split at unread
    · exact Or.inl (Except.error.inj unread).symm
    · cases unread
  · rcases bind_eq_error_iff.1 refused with unchecked | ⟨statements, -, impossible⟩
    · unfold checked at unchecked
      split at unchecked
      · exact Or.inl (Except.error.inj unchecked).symm
      · split at unchecked
        · exact Or.inr (Except.error.inj unchecked).symm
        · cases unchecked
    · cases statements <;> cases impossible

/-! ## Documentation -/

theorem reason_of_literalValue {literal : String} {error : SourceError}
    (failed : literalValue literal = .error error) : error = .illFormedLiteral := by
  unfold literalValue at failed
  dsimp only at failed
  split at failed
  · split at failed
    · cases failed
    · exact (Except.error.inj failed).symm
  · split at failed
    · cases failed
    · exact (Except.error.inj failed).symm

theorem reason_of_joined {first : LiteralPiece} {others : List LiteralPiece} {error : SourceError}
    (behind : runValue others = .error error → error = .illFormedLiteral)
    (failed : runValue.joined first others = .error error) : error = .illFormedLiteral := by
  unfold runValue.joined at failed
  rcases bind_eq_error_iff.1 failed with here | ⟨value, -, failed⟩
  · exact reason_of_literalValue here
  · rcases bind_eq_error_iff.1 failed with there | ⟨others, -, impossible⟩
    · exact behind there
    · split at impossible <;> cases impossible

/-- A run of literals without a value has an ill-formed one. -/
theorem reason_of_runValue {error : SourceError} : ∀ pieces : List LiteralPiece,
    runValue pieces = .error error → error = .illFormedLiteral
  | [], failed => by
      unfold runValue at failed
      cases failed
  | [piece], failed => by
      unfold runValue at failed
      split at failed
      · cases failed
      · cases value : literalValue piece.text with
        | ok value =>
            rw [value] at failed
            cases failed
        | error reason =>
            rw [value] at failed
            obtain rfl := Except.error.inj failed
            exact reason_of_literalValue value
  | [first, second], failed => by
      unfold runValue at failed
      split at failed
      · cases failed
      · exact reason_of_joined (reason_of_runValue [second]) failed
  | first :: second :: third :: rest, failed => by
      unfold runValue at failed
      split at failed
      · cases failed
      · exact reason_of_joined (reason_of_runValue (second :: third :: rest)) failed

/-- Documentation without a value has an ill-formed literal. -/
theorem Suite.reason_of_documentation {suite : Suite} {error : SourceError}
    (failed : suite.documentation = .error error) : error = .illFormedLiteral := by
  unfold Suite.documentation at failed
  split at failed
  · rcases bind_eq_error_iff.1 failed with here | ⟨value, -, impossible⟩
    · exact reason_of_runValue _ here
    · split at impossible <;> cases impossible
  · cases failed

end ModuleGlue.Source
