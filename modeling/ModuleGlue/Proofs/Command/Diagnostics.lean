import ModuleGlue.Command.Session
import ModuleGlue.Proofs.Console.Verbatim

/-!
Contract: the record that is shown of a diagnostic.

Main statement: `run_logDiagnostic`.

Owns: the step of a run that shows a diagnostic.

Does not own: which diagnostics there are.
-/

namespace ModuleGlue.Command

open ModuleGlue.Console

/-- A message that can be shown is shown, and nothing else happens. -/
theorem run_log {level : Level} {message : String} {entry : Entry}
    (record : Entry.ofMessage level message = .ok entry) (session : Session) :
    (log level message).run session =
      (.ok (), { session with shown := .entry entry :: session.shown }) := by
  unfold log
  rw [record]
  rfl

/-- **A diagnostic is shown as one record, and nothing else happens.** The tags in its texts are all
plain, so that only those around the texts begin or end a style. What is shown is the sign of the
level, the label, the separator and the diagnostic exactly if nothing in these is changed. -/
theorem run_logDiagnostic (label diagnostic : String) (isError : Bool) (session : Session) :
    ∃ shown separator place message,
      Joined diagnostic.toList separator place message ∧
      (logDiagnostic label diagnostic isError).run session =
        (.ok (), { session with
          shown := .entry (.record (diagnosticLevel isError) shown) :: session.shown }) ∧
      tags ((diagnosticLevel isError).sign.toList ++
          (diagnosticMessage label diagnostic isError).2.toList) =
        recordTags label.toList place message isError ∧
      (shown = (diagnosticLevel isError).sign.toList ++
          (label.toList ++ (separator ++ diagnostic.toList)) ↔
        ShownWhole label.toList diagnostic.toList place message isError) := by
  obtain ⟨separator, place, message, joined⟩ := exists_joined diagnostic.toList
  obtain ⟨shown, record, whole⟩ := exists_record_of_joined label joined isError
  exact ⟨shown, separator, place, message, joined, run_log record session,
    tags_diagnosticMessage joined isError, whole⟩

/-- What is shown of a diagnostic, last first, where nothing has been shown before. -/
def shownOf (label diagnostic : String) (isError : Bool) : List Output :=
  ((logDiagnostic label diagnostic isError).run ⟨⟨[]⟩, []⟩).2.shown

/-- Backslashes at the end of a label or of a warning meet the tag behind them: three of them make it
plain text, and of two one is lost. At the end of an error a single one is doubled. A backslash is
lost before any bracket, and pictures take the place of their names. -/
theorem run_logDiagnostic_closingSlashes :
    shownOf "a.py\\\\\\" "1:0: odd" false =
        [.entry (.record .warning "⚠️  a.py\\[/path]:1:0: odd".toList)] ∧
      shownOf "a.py" "1:0: stray \\\\" false =
        [.entry (.record .warning "⚠️  a.py:1:0: stray \\".toList)] ∧
      shownOf "a.py" "1:0: stray \\" true =
        [.entry (.record .error "❌ a.py:1:0: stray \\\\".toList)] ∧
      shownOf ":bug:.py" "1:0: found \\[1]" true =
        [.entry (.record .error "❌ 🐛.py:1:0: found [1]".toList)] := by
  decide +kernel

end ModuleGlue.Command
