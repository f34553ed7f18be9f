import ModuleGlue.Proofs.Directive.NameSpellings
import ModuleGlue.Proofs.Text.QuotedValue

/-!
Contract: quoted texts in annotation arguments.

Main statements: `tokenize_quoteString` (a quoted text is one string token, which denotes the text),
`Options.parse_textSignature`.

Owns: quoted texts as tokens and as values of options.

Does not own: how texts are quoted.
-/

namespace ModuleGlue.Directive

open ModuleGlue.Text

variable {text : String}

/-- The lexer's rules lead to the end of a quoted literal: it has no line feed. -/
theorem quotedLiteral_unbroken (points : Points) : (quotedLiteral points).Unbroken :=
  notMem_body points (by decide)

/-- **A quoted text is one string token, which denotes the text.** -/
theorem tokenize_quoteString (text : String) (origin : Option Span) :
    ∃ token, tokenize (quoteString text) origin = [token] ∧ token.kind = .string ∧
      token.text = quoteString text ∧ token.stringValue = .ok (.ofString text) := by
  have single := (literal_isToken_iff (quotedLiteral_valid (.ofString text))
    (quotedLiteral_denotes _) origin).2.2 (quotedLiteral_unbroken _)
  obtain ⟨token, tokens, isString, spelled, value⟩ := single
  refine ⟨token, tokens, isString, ?_, value⟩
  rw [← String.ofList_toList (s := token.text), spelled, text_quotedLiteral]
  rfl

/-! ## Text signatures -/

/-- What stands in front of the value of the option. -/
def textSignatureKey : String := "text_signature = "

/-- **A quoted text is the value of the option that it is given as.** -/
theorem Options.parse_textSignature (text : String) (origin : Option Span) :
    ∃ options, Options.parse (.ofSource (textSignatureKey ++ quoteString text) origin) = .ok options ∧
      options.textSignature.map TextSignature.value = some (some (.ofString text)) := by
  have spelled : textSignatureKey.toList = "text_signature".toList ++ [' ', '=', ' '] := by
    decide +kernel
  obtain ⟨key, sign, behind, tokens, word, equals⟩ :=
    @tokensFrom_signed "text_signature" ⟨by decide +kernel, fun other => Kind.noConfusion other⟩
      .origin (quoteString text).toList
  obtain ⟨value, single, isString, written⟩ :=
    tokensFrom_literal (quotedLiteral_valid (.ofString text)) (quotedLiteral_unbroken _) behind
  have quoted : (quoteString text).toList = (quotedLiteral (.ofString text)).text :=
    String.toList_ofList
  rw [quoted, single] at tokens
  -- Moving tokens to their places in the file leaves them what they are.
  let placed (token : Token) : Token := { token with span := token.span.rebase origin }
  have denotes : (placed value).Evaluates (.ofString text) := by
    refine ⟨isString, ?_⟩
    show literalValue? value.text.toList = _
    rw [written, text_quotedLiteral, literalValue?_quote]
  have setting : WritesOptions [.textSignature ⟨some (.ofString text), (placed value).span⟩]
      [placed key, placed sign, placed value] :=
    Or.inr (.last (.mk word (.textSignature equals denotes)))
  have remaining : tokenize (textSignatureKey ++ quoteString text) origin =
      [placed key, placed sign, placed value] := by
    unfold tokenize
    rw [String.toList_append, spelled, List.append_assoc, quoted, tokens]
    rfl
  unfold Cursor.ofSource
  rw [remaining]
  exact ⟨_, Options.parse_eq_ok_iff.2 ⟨_, setting, by simp, rfl⟩, rfl⟩

end ModuleGlue.Directive
