import ModuleGlue.Proofs.Directive.Likeness
import ModuleGlue.Proofs.Directive.Separation

/-!
Contract: layout does not matter.

A list of lexemes can be laid out in many ways: with blanks, comments and continued lines between
them, before and behind. The tokens of each such text are the lexemes in order, and so all of them
are read as the same descriptor, or are refused for the same cause. Only places differ.

Main statement: `tokenize_laidOut`.

Owns: what two layouts of one list have in common.

Does not own: layout itself, and which lexemes can be separated.
-/

namespace ModuleGlue

def Likeness.anywhere : Likeness where
  texts := Eq
  spans _ _ := True
  value alike := by rw [alike]
  between _ _ := trivial

namespace Directive

/-- Tokens with the same kinds and texts differ in their places only. -/
theorem alike_of_toLexeme {first second : List Token}
    (same : first.map Token.toLexeme = second.map Token.toLexeme) :
    List.Forall₂ (Token.Alike .anywhere) first second := by
  rw [← List.forall₂_eq_eq_eq, List.forall₂_map_left_iff, List.forall₂_map_right_iff] at same
  refine same.imp fun token token' lexemes => ?_
  obtain ⟨kinds, texts⟩ := Lexeme.mk.inj lexemes
  exact ⟨kinds, texts, fun _ => texts, trivial⟩

/-- **Lexing undoes rendering.** However lexemes that can be separated are laid out, the tokens of
the text have their kinds and texts, in order; and any two such texts, wherever they begin, give the
same descriptor up to places, or are refused for the same cause. -/
theorem tokenize_laidOut {lexemes : List Lexeme}
    (separable : ∀ written ∈ lexemes, written.Separable) :
    (∀ (text : String) (origin : Option Span), LaidOut lexemes text.toList →
      (tokenize text origin).map Token.toLexeme = lexemes) ∧
    ∀ (text text' : String) (origin origin' : Option Span),
      LaidOut lexemes text.toList → LaidOut lexemes text'.toList →
        EndsAlike (Diagnostic.Alike .anywhere) (ExportDescriptor.Alike .anywhere)
          (ExportDescriptor.parse text origin) (ExportDescriptor.parse text' origin') := by
  have lexed : ∀ (text : String) (origin : Option Span), LaidOut lexemes text.toList →
      (tokenize text origin).map Token.toLexeme = lexemes := by
    intro text origin laidOut
    rw [map_toLexeme_tokenize]
    exact lexemes_of_laidOut separable laidOut .origin
  refine ⟨lexed, fun text text' origin origin' laidOut laidOut' => ?_⟩
  refine ExportDescriptor.parse_alike (alike_of_toLexeme ?_) trivial
  rw [lexed text origin laidOut, lexed text' origin' laidOut']

/-- The lexemes of arguments with a legacy name and an option. -/
def registeredLexemes : List Lexeme :=
  [⟨.ident, "m"⟩, ⟨.comma, ","⟩, ⟨.string, "u\"go\""⟩, ⟨.comma, ","⟩, ⟨.ident, "pass_module"⟩]

def registeredLine : String := "m , u\"go\" , pass_module"

/-- They are laid out on several lines, with a comment and a continued line. -/
def registeredLines : String := "\n m # path\n,\\\nu\"go\"\t, pass_module#!\n"

theorem tokenize_laidOut_registeredLexemes :
    (∀ written ∈ registeredLexemes, written.Separable) ∧
      LaidOut registeredLexemes registeredLine.toList ∧
      LaidOut registeredLexemes registeredLines.toList ∧
      (tokenize registeredLines none).map Token.toLexeme = registeredLexemes ∧
      EndsAlike (Diagnostic.Alike .anywhere) (ExportDescriptor.Alike .anywhere)
        (ExportDescriptor.parse registeredLine none)
        (ExportDescriptor.parse registeredLines none) := by
  have separable : ∀ written ∈ registeredLexemes, written.Separable := by
    intro written member
    have alone : ∀ written ∈ registeredLexemes,
        (tokenize written.text none).map Token.toLexeme = [written] := by decide +kernel
    have ordinary : ∀ written ∈ registeredLexemes, written.kind ≠ .other := by decide
    exact ⟨alone written member, fun other => absurd other (ordinary written member)⟩
  have space : Gap [' '] := .blank (by decide) .none
  have onLine : LaidOut registeredLexemes registeredLine.toList := by
    have whole : registeredLine.toList =
        [] ++ ("m".toList ++ ([' '] ++ (",".toList ++ ([' '] ++ ("u\"go\"".toList ++
          ([' '] ++ (",".toList ++ ([' '] ++ ("pass_module".toList ++ []))))))))) := by
      decide +kernel
    rw [whole]
    exact .lexemes .none (.next space (by decide) (.next space (by decide)
      (.next space (by decide) (.next space (by decide) (.last .none)))))
  have onLines : LaidOut registeredLexemes registeredLines.toList := by
    have whole : registeredLines.toList =
        ['\n', ' '] ++ ("m".toList ++ ((' ' :: '#' :: (" path".toList ++ ['\n'])) ++ (",".toList ++
          (['\\', '\n'] ++ ("u\"go\"".toList ++ (['\t'] ++ (",".toList ++ ([' '] ++
            ("pass_module".toList ++ ('#' :: (['!'] ++ ['\n']))))))))))) := by
      decide +kernel
    rw [whole]
    have tab : Gap ['\t'] := .blank (by decide) .none
    have lineBreak : Gap ['\n', ' '] := .blank (by decide) space
    have path : Gap (' ' :: '#' :: (" path".toList ++ ['\n'])) :=
      .blank (by decide) (.comment (by decide) .none)
    exact .lexemes lineBreak (.next path (by decide) (.next (.continuation .none) (by decide)
      (.next tab (by decide) (.next space (by decide) (.last (.comment (by decide) .none))))))
  have both := tokenize_laidOut separable
  exact ⟨separable, onLine, onLines, both.1 registeredLines none onLines,
    both.2 registeredLine registeredLines none none onLine onLines⟩

end Directive

end ModuleGlue
